import LoadPlan.Proofs.Files.Frame
/-!
# What a save comes to

The directories that a path goes through are the steps before its last one
(`Path.steps_directory`), and where they lead can be told from the path and the working directory
alone. `FileTree.Way` is the making of these directories, step by step. So a save makes the way, and
if that is there puts the file in a place that does not depend on what is in the tree:
`FileTree.save_of_way` says so without looking the place up.
-/

namespace LoadPlan

namespace Text

/-- No part holds the character that a text is cut at. -/
theorem not_mem_of_mem_splitOn {sep : Char} {cs part : List Char} (h : part ∈ splitOn sep cs) :
    sep ∉ part := by
  induction cs generalizing part with
  | nil => simp_all [splitOn]
  | cons c cs ih =>
    by_cases hc : c = sep
    · rw [splitOn, if_pos hc, List.mem_cons] at h
      rcases h with rfl | h
      · exact List.not_mem_nil
      · exact ih h
    · cases hparts : splitOn sep cs with
      | nil => exact absurd hparts (splitOn_ne_nil sep cs)
      | cons first parts =>
        simp only [splitOn, if_neg hc, hparts, List.mem_cons] at h ih
        rcases h with rfl | h
        · exact List.not_mem_cons_of_ne_of_not_mem (Ne.symm hc) (ih (.inl rfl))
        · exact ih (.inr h)

end Text

namespace Path

/-! ## The steps before the last one -/

/-- Parts that hold no slash are the parts of the path they are joined to. -/
theorem parts_joinWith {ps : List String} (hne : ps ≠ []) (h : ∀ p ∈ ps, '/' ∉ p.toList) :
    parts (String.ofList (Text.joinWith '/' (ps.map String.toList))) = ps := by
  have hsplit : Text.splitOn '/' (Text.joinWith '/' (ps.map String.toList)) =
      ps.map String.toList :=
    Text.splitOn_joinWith (by simpa using hne) (by simpa using h)
  rw [parts, String.toList_ofList, hsplit]
  simp [Function.comp_def]

/-- Their steps are its steps. -/
theorem steps_joinWith {ps : List String} (h : ∀ p ∈ ps, '/' ∉ p.toList) :
    steps (String.ofList (Text.joinWith '/' (ps.map String.toList))) = ps.filterMap step? := by
  by_cases hne : ps = []
  · subst hne
    decide
  · rw [steps, parts_joinWith hne h]

/-- **A path is absolute if there is an empty part before its first slash.** -/
theorem isAbsolute_iff {path : String} :
    isAbsolute path ↔ ∃ rest, rest ≠ [] ∧ parts path = "" :: rest := by
  cases hpath : path.toList with
  | nil => simp [isAbsolute, parts, hpath, Text.splitOn]
  | cons c cs =>
    by_cases hc : c = '/'
    · simp [isAbsolute, parts, hpath, Text.splitOn, hc, Text.splitOn_ne_nil]
    · have hroot : isAbsolute path = false := by simp [isAbsolute, hpath, hc]
      have hne : path ≠ "" := by
        rintro rfl
        cases hpath
      obtain ⟨part, rest, hpart, hparts⟩ := exists_parts_cons hne hroot
      simp [hroot, hparts, hpart]

/-- Parts without a step can be left out from the front. -/
theorem filterMap_dropWhile (ps : List String) :
    (ps.dropWhile fun p => (step? p).isNone).filterMap step? = ps.filterMap step? := by
  induction ps with
  | nil => rfl
  | cons p ps ih =>
    cases hp : step? p with
    | none => simpa [List.dropWhile_cons, hp] using ih
    | some c => simp [hp]

/-- Behind them the first part is the first step. -/
theorem filterMap_drop_dropWhile (ps : List String) :
    ((ps.dropWhile fun p => (step? p).isNone).drop 1).filterMap step? =
      (ps.filterMap step?).drop 1 := by
  induction ps with
  | nil => rfl
  | cons p ps ih =>
    cases hp : step? p with
    | none => simpa [List.dropWhile_cons, hp] using ih
    | some c => simp [hp]

/-- The parts before the last step are the first ones of the path. -/
theorem partsBefore_prefix_parts (path : String) : partsBefore path <+: parts path := by
  rw [partsBefore, ← List.reverse_suffix, List.reverse_reverse]
  exact ((List.dropWhile_suffix _).trans (List.drop_suffix 1 _)).trans (List.dropWhile_suffix _)

theorem slashless_of_mem_partsBefore (path : String) :
    ∀ p ∈ partsBefore path, '/' ∉ p.toList := by
  intro p hp
  obtain ⟨part, hpart, rfl⟩ := List.mem_map.1 ((partsBefore_prefix_parts path).subset hp)
  rw [String.toList_ofList]
  exact Text.not_mem_of_mem_splitOn hpart

/-- The last of them is a step. -/
theorem step?_ne_none_of_partsBefore {path last : String} {init : List String}
    (h : partsBefore path = init ++ [last]) : step? last ≠ none := by
  have hhead := List.head?_dropWhile_not (fun part => (step? part).isNone)
    (((parts path).reverse.dropWhile fun part => (step? part).isNone).drop 1)
  rw [← List.reverse_reverse (List.dropWhile _ _), ← partsBefore, h] at hhead
  simpa [Option.isSome_iff_ne_none] using hhead

/-- **The steps to the directory of a path are its steps but the last.** -/
theorem steps_directory (path : String) : steps (directory path) = (steps path).dropLast := by
  have hbefore : (partsBefore path).filterMap step? = (steps path).dropLast := by
    rw [partsBefore, List.filterMap_reverse, filterMap_dropWhile, filterMap_drop_dropWhile,
      List.filterMap_reverse, List.drop_one, List.tail_reverse, List.reverse_reverse]
    rfl
  rw [directory, ← hbefore]
  split
  · next hroot =>
    rw [hroot.2]
    decide
  · exact steps_joinWith (slashless_of_mem_partsBefore path)

/-- **The directory of a path starts where the path does.** -/
theorem isAbsolute_directory (path : String) : isAbsolute (directory path) = isAbsolute path := by
  rw [directory]
  by_cases hempty : partsBefore path = []
  · by_cases hroot : isAbsolute path
    · rw [if_pos ⟨hroot, hempty⟩, hroot]
      decide
    · rw [if_neg fun h => hroot h.1, hempty, Bool.eq_false_iff.2 hroot]
      decide
  · rw [if_neg fun h => hempty h.2, Bool.eq_iff_iff, isAbsolute_iff, isAbsolute_iff,
      parts_joinWith hempty (slashless_of_mem_partsBefore path)]
    obtain ⟨more, hparts⟩ := partsBefore_prefix_parts path
    constructor
    · rintro ⟨rest, hne, hbefore⟩
      exact ⟨rest ++ more, by simp [hne], by rw [← hparts, hbefore, List.cons_append]⟩
    · rintro ⟨rest, -, hrest⟩
      obtain ⟨part, more', hbefore⟩ := List.exists_cons_of_ne_nil hempty
      rw [← hparts, hbefore, List.cons_append] at hrest
      obtain ⟨rfl, -⟩ := List.cons.inj hrest
      refine ⟨more', ?_, hbefore⟩
      -- an empty part alone would not end in a step
      rintro rfl
      have hlast : partsBefore path = [] ++ [""] := hbefore
      exact step?_ne_none_of_partsBefore hlast rfl

theorem start_directory (workdir : List String) (path : String) :
    start workdir (directory path) = start workdir path := by
  rw [start, isAbsolute_directory, start]

/-! ## Where a path leads -/

/-- Where steps lead from a directory, if every name on them is a directory. -/
def arrive : List String → List Component → List String
  | here, [] => here
  | here, .name s :: rest => arrive (here ++ [s]) rest
  | here, .parent :: rest => arrive here.dropLast rest
  | here, .current :: rest => arrive here rest
  | _, .root :: rest => arrive [] rest

/-- **The directory that a path reaches** from a working directory, if there is one. -/
def reach (workdir : List String) (path : String) : List String :=
  arrive (start workdir path) (steps path)

/-- **The place of a file**, if a path can be the path of one. -/
def place? (workdir : List String) (path : String) : Option (List String) :=
  if !FileTree.isPath path then none
  else match (parts path).getLast?.bind step? with
    | some (.name s) => some (arrive (start workdir path) (steps path).dropLast ++ [s])
    | _ => none

/-- If the last part of a path is a step, the others are the steps before it. -/
theorem filterMap_dropLast_parts {path : String} {c : Component}
    (h : (parts path).getLast?.bind step? = some c) :
    (parts path).dropLast.filterMap step? = (steps path).dropLast := by
  obtain ⟨last, hlast, hstep⟩ := Option.bind_eq_some_iff.1 h
  conv_rhs => rw [steps, ← List.dropLast_append_getLast? last hlast, List.filterMap_append]
  simp [hstep]

end Path

namespace FileTree

open LoadPlan.Path

variable {tree made : FileTree} {here there : List String} {cs : List Component} {done : Bool}

/-! ## Making the way -/

/-- **The way along some steps is made**, from a directory of a tree, as far as it goes. The tree it
is made in is followed by the one it leaves, and by whether the whole way is there. -/
inductive Way : FileTree → List String → List Component → FileTree → Bool → Prop
  /-- No steps are left. -/
  | arrived {tree : FileTree} {here : List String} : Way tree here [] tree true
  /-- The step leads to the root. -/
  | top {tree made : FileTree} {here : List String} {rest : List Component} {done : Bool} :
      Way tree [] rest made done → Way tree here (.root :: rest) made done
  /-- The step leads nowhere. -/
  | stay {tree made : FileTree} {here : List String} {rest : List Component} {done : Bool} :
      Way tree here rest made done → Way tree here (.current :: rest) made done
  /-- The step leads up, from the root to itself. -/
  | up {tree made : FileTree} {here : List String} {rest : List Component} {done : Bool} :
      Way tree here.dropLast rest made done → Way tree here (.parent :: rest) made done
  /-- The directory is there. -/
  | pass {tree made : FileTree} {here : List String} {s : String} {rest : List Component}
      {done : Bool} : tree.find? (here ++ [s]) = some .directory →
      Way tree (here ++ [s]) rest made done → Way tree here (.name s :: rest) made done
  /-- The directory is made. -/
  | make {tree made : FileTree} {here : List String} {s : String} {rest : List Component}
      {done : Bool} : tree.find? (here ++ [s]) = none → isName s = true →
      Way (tree.set (here ++ [s]) .directory) (here ++ [s]) rest made done →
      Way tree here (.name s :: rest) made done
  /-- A file is there instead. -/
  | blocked {tree : FileTree} {here : List String} {s : String} {rest : List Component}
      {content : ByteArray} : tree.find? (here ++ [s]) = some (.file content) →
      Way tree here (.name s :: rest) tree false
  /-- No directory can have the name. -/
  | unnamed {tree : FileTree} {here : List String} {s : String} {rest : List Component} :
      tree.find? (here ++ [s]) = none → isName s = false → Way tree here (.name s :: rest) tree false

/-- A way is what the program makes. -/
theorem Way.makeWay_eq (h : Way tree here cs made done) : tree.makeWay here cs = (made, done) := by
  induction h with
  | arrived => rfl
  | top _ ih | stay _ ih | up _ ih => exact ih
  | pass hfound _ ih => simp only [makeWay, hfound, ih]
  | make hnone hname _ ih => simp only [makeWay, hnone, hname, if_true, ih]
  | blocked hfound => simp only [makeWay, hfound]
  | unnamed hnone hname => simp [makeWay, hnone, hname]

/-- The program makes a way. -/
theorem way_makeWay (tree : FileTree) (here : List String) (cs : List Component) :
    Way tree here cs (tree.makeWay here cs).1 (tree.makeWay here cs).2 := by
  induction cs generalizing tree here with
  | nil => exact .arrived
  | cons c cs ih =>
    cases c with
    | root => exact .top (ih tree [])
    | current => exact .stay (ih tree here)
    | parent => exact .up (ih tree here.dropLast)
    | name s =>
      rw [makeWay]
      split
      · next hfound => exact .pass hfound (ih tree (here ++ [s]))
      · next hfound => exact .blocked hfound
      · next hnone =>
        split
        · next hname => exact .make hnone hname (ih _ (here ++ [s]))
        · next hname => exact .unnamed hnone (Bool.eq_false_iff.2 hname)

/-- There is a way, made or not. -/
theorem exists_way (tree : FileTree) (here : List String) (cs : List Component) :
    ∃ made done, Way tree here cs made done := ⟨_, _, way_makeWay tree here cs⟩

/-- Making a way keeps every entry. -/
theorem Way.keeps (h : Way tree here cs made done) : Keeps tree made := by
  have hkeeps := keeps_makeWay tree here cs
  rwa [h.makeWay_eq] at hkeeps

/-- The directory that was made is kept. -/
theorem Way.find?_made {s : String}
    (h : Way (tree.set (here ++ [s]) .directory) (here ++ [s]) cs made done) :
    made.find? (here ++ [s]) = some .directory :=
  h.keeps.kept _ _ (find?_set_directory _)

/-- A walk comes to where its steps lead. -/
theorem eq_arrive_of_walk (h : tree.walk here cs = some there) : there = arrive here cs := by
  induction cs generalizing here with
  | nil => cases h; rfl
  | cons c cs ih =>
    cases c with
    | root | current | parent => exact ih h
    | name s =>
      rw [walk] at h
      split at h
      · exact ih h
      · cases h

/-- The way that was made is there. -/
theorem Way.walk (h : Way tree here cs made done) (hdone : done = true) :
    made.walk here cs = some (arrive here cs) := by
  induction h with
  | arrived => rfl
  | blocked | unnamed => cases hdone
  | top _ ih | stay _ ih | up _ ih => exact ih hdone
  | pass hfound hway ih =>
    rw [FileTree.walk, if_pos (isDirectory_iff.2 (hway.keeps.kept _ _ hfound)), ih hdone, arrive]
  | make _ _ hway ih =>
    rw [FileTree.walk, if_pos (isDirectory_iff.2 hway.find?_made), ih hdone, arrive]

/-- **The way of a path** leads along its steps, from where it starts. -/
theorem Way.along {path : String} (h : Way tree tree.workdir (components path) made done) :
    Way tree (start tree.workdir path) (steps path) made done := by
  unfold components at h
  dsimp only at h
  unfold start
  split at h
  · next hroot =>
    rw [if_pos hroot]
    cases h with
    | top hway => exact hway
  · next hroot =>
    rw [if_neg hroot]
    split at h
    · cases h with
      | stay hway => exact hway
    · exact h

/-! ## Putting a file in its place -/

/-- Can there be a file under the names? A file can be replaced; a new one needs a good name. -/
def accepts (tree : FileTree) (names : List String) : Bool :=
  match tree.find? names with
  | some .directory => false
  | some (.file _) => true
  | none => isName (names.getLast?.getD "")

/-- Put a file in a place, if there is a place for it. -/
def put (tree : FileTree) (place? : Option (List String)) (content : ByteArray) :
    FileTree × Bool :=
  match place? with
  | some place =>
    if tree.accepts place then (tree.set place (.file content), true) else (tree, false)
  | none => (tree, false)

/-- Writing is putting the file where the path is found to lead. -/
theorem write_eq_put (tree : FileTree) (path : String) (content : ByteArray) :
    tree.write path content = tree.put (tree.locate? path) content := by
  unfold write put accepts
  cases tree.locate? path with
  | none => rfl
  | some place =>
    dsimp only
    cases tree.find? place with
    | none => rfl
    | some entry => cases entry <;> rfl

/-- A place that is found is the place of the path. -/
theorem place?_of_locate? {path : String} {place : List String}
    (h : tree.locate? path = some place) : place? tree.workdir path = some place := by
  unfold locate? at h
  split at h
  · cases h
  · next hpath =>
    dsimp only at h
    split at h
    · next s hs =>
      obtain ⟨here, hwalk, rfl⟩ := Option.map_eq_some_iff.1 h
      rw [filterMap_dropLast_parts hs] at hwalk
      simp only [place?, hpath, hs, eq_arrive_of_walk hwalk, Bool.false_eq_true, if_false]
    · cases h

/-- Once the way to it is made, the place of a path is found. -/
theorem Way.locate?_eq {path : String}
    (h : Way tree tree.workdir (components (directory path)) made true) :
    made.locate? path = place? tree.workdir path := by
  have hwalk := h.along.walk rfl
  rw [start_directory, steps_directory] at hwalk
  unfold FileTree.locate? place?
  split
  · rfl
  · dsimp only
    cases hlast : (parts path).getLast?.bind step? with
    | none => rfl
    | some c =>
      cases c with
      | name s => simp only [h.keeps.workdir, filterMap_dropLast_parts hlast, hwalk, Option.map_some]
      | root | current | parent => rfl

/-- A slash at the start leads to the root, and two dots out of the working directory. -/
example : ["a.csv", "/tmp/a.csv", "../bob/a.csv", "../../../a.csv"].map (place? ["home", "ann"]) =
    [["home", "ann", "a.csv"], ["tmp", "a.csv"], ["home", "bob", "a.csv"], ["a.csv"]].map some := by
  decide

/-- **To save is to make the way and put the file in its place.** -/
theorem save_of_way {path : String} (hpath : isPath (directory path) = true)
    (h : Way tree tree.workdir (components (directory path)) made done) (content : ByteArray) :
    tree.save path content =
      if done then made.put (place? tree.workdir path) content else (made, false) := by
  unfold save
  dsimp only
  rw [if_pos hpath, h.makeWay_eq]
  cases done with
  | false => rfl
  | true => simp only [write_eq_put, h.locate?_eq, if_true]

/-- There is no saving where the directory is no path. -/
theorem save_of_not_isPath {path : String} (hpath : isPath (directory path) = false)
    (tree : FileTree) (content : ByteArray) : tree.save path content = (tree, false) := by
  unfold save
  dsimp only
  rw [hpath]
  rfl

end FileTree

end LoadPlan
