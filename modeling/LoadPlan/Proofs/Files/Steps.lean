import LoadPlan.Files.Tree
import Mathlib.Data.List.Basic
/-!
# Where paths lead

What a path means is where it starts and its steps: `Path.steps` leaves out what stands for nothing.
Joining a file name to a directory starts where the directory does (`start_join`) and puts the
steps of the name behind those of the directory (`steps_join`). The steps of a contained name are
names, so the file lies under the place of the directory, and which file it is depends on the
components of its name only (`FileTree.exists_walk_of_locate?_join`).
-/

namespace LoadPlan

namespace Text

/-- A text is cut in two at each occurrence of the character. -/
theorem splitOn_append_cons (sep : Char) (cs ds : List Char) :
    splitOn sep (cs ++ sep :: ds) = splitOn sep cs ++ splitOn sep ds := by
  induction cs with
  | nil => simp [splitOn]
  | cons c cs ih =>
    by_cases hc : c = sep
    · simp [splitOn, hc, ih]
    · rw [List.cons_append, splitOn, if_neg hc, ih, splitOn, if_neg hc]
      cases hparts : splitOn sep cs with
      | nil => exact absurd hparts (splitOn_ne_nil sep cs)
      | cons part parts => rfl

end Text

namespace Path

/-! ## Steps -/

/-- The parts of a path that are steps. -/
def steps (path : String) : List Component := (parts path).filterMap step?

/-- A path with a slash in it has the parts before and after. -/
theorem parts_append_slash (a b : List Char) :
    parts (String.ofList (a ++ '/' :: b)) =
      parts (String.ofList a) ++ parts (String.ofList b) := by
  simp [parts, Text.splitOn_append_cons]

/-- **Joining puts the steps of the file behind those of the directory.** -/
theorem steps_join {dir file : String} (hfile : isAbsolute file = false) :
    steps (join dir file) = steps dir ++ steps file := by
  have hsplit : ∀ a : List Char, steps (String.ofList (a ++ '/' :: file.toList)) =
      steps (String.ofList a) ++ steps file := fun a => by
    rw [steps, parts_append_slash, List.filterMap_append, String.ofList_toList]
    rfl
  by_cases hdir : dir = ""
  · subst hdir
    simp [join, hfile, steps, parts, Text.splitOn, step?]
  · by_cases hlast : dir.toList.getLast? = some '/'
    · -- the slash is there, with an empty part behind it
      obtain ⟨a, ha⟩ := List.getLast?_eq_some_iff.1 hlast
      have hjoin : join dir file = String.ofList (a ++ '/' :: file.toList) := by
        rw [join, if_neg (by simp [hfile, hdir]), if_pos hlast, ← String.toList_inj]
        simp [ha]
      have hempty : steps dir = steps (String.ofList a) := by
        have : dir = String.ofList (a ++ '/' :: []) := by
          rw [← String.toList_inj, String.toList_ofList, ha]
        rw [this, steps, parts_append_slash, List.filterMap_append]
        simp [steps, parts, Text.splitOn, step?]
      rw [hjoin, hsplit, hempty]
    · have hjoin : join dir file = String.ofList (dir.toList ++ '/' :: file.toList) := by
        rw [join, if_neg (by simp [hfile, hdir]), if_neg hlast, ← String.toList_inj]
        simp
      rw [hjoin, hsplit, String.ofList_toList]

/-- A joined path starts at the root if its directory does. -/
theorem isAbsolute_join {dir file : String} (hfile : isAbsolute file = false) :
    isAbsolute (join dir file) = isAbsolute dir := by
  by_cases hdir : dir = ""
  · subst hdir
    have hjoin : join "" file = file := by simp [join]
    rw [hjoin, hfile]
    rfl
  · obtain ⟨c, cs, hpath⟩ := List.exists_cons_of_ne_nil (mt String.toList_eq_nil_iff.1 hdir)
    simp only [join, hfile, hdir, Bool.false_eq_true, decide_false, Bool.or_self, if_false]
    split <;> simp [isAbsolute, hpath]

/-- **It is followed from where its directory is.** -/
theorem start_join {dir file : String} (hfile : isAbsolute file = false) (workdir : List String) :
    start workdir (join dir file) = start workdir dir := by
  rw [start, isAbsolute_join hfile, start]

/-! ## Contained paths -/

/-- Up to the first slash there is a part of its own, unless the path starts with the slash. -/
theorem exists_parts_cons {path : String} (hne : path ≠ "") (hroot : isAbsolute path = false) :
    ∃ part rest, part ≠ "" ∧ parts path = part :: rest := by
  obtain ⟨c, cs, hpath⟩ := List.exists_cons_of_ne_nil (mt String.toList_eq_nil_iff.1 hne)
  have hc : c ≠ '/' := by simpa [isAbsolute, hpath] using hroot
  cases hparts : Text.splitOn '/' cs with
  | nil => exact absurd hparts (Text.splitOn_ne_nil '/' cs)
  | cons part rest =>
    refine ⟨String.ofList (c :: part), rest.map String.ofList, ?_, ?_⟩
    · simp [← String.toList_eq_nil_iff]
    · simp [parts, hpath, Text.splitOn, hc, hparts]

theorem eq_map_name {cs : List Component}
    (h : (cs.all fun | .name _ => true | _ => false) = true) :
    ∃ ns : List String, cs = ns.map .name := by
  induction cs with
  | nil => exact ⟨[], rfl⟩
  | cons c cs ih =>
    rw [List.all_cons, Bool.and_eq_true] at h
    obtain ⟨ns, rfl⟩ := ih h.2
    cases c with
    | name s => exact ⟨s :: ns, rfl⟩
    | root | current | parent => cases h.1

/-- **The steps of a contained path are names, at least one**, and they are its components. -/
theorem exists_names_of_isContained {path : String} (h : isContained path) :
    ∃ ns : List String, ns ≠ [] ∧ isAbsolute path = false ∧ components path = ns.map .name ∧
      steps path = ns.map .name := by
  rw [isContained, Bool.and_eq_true, decide_eq_true_eq] at h
  obtain ⟨hne, hall⟩ := h
  obtain ⟨ns, hns⟩ := eq_map_name hall
  have hroot : isAbsolute path = false := by
    by_contra habs
    rw [Bool.not_eq_false] at habs
    have hmem : .root ∈ ns.map Component.name := by simp [← hns, components, habs]
    simp at hmem
  obtain ⟨part, rest, hpart, hparts⟩ := exists_parts_cons hne hroot
  have hdot : part ≠ "." := by
    rintro rfl
    have hmem : .current ∈ ns.map Component.name := by simp [← hns, components, hroot, hparts]
    simp at hmem
  have hsteps : components path = steps path := by
    simp [components, hroot, hparts, hdot, steps]
  refine ⟨ns, ?_, hroot, hns, hsteps ▸ hns⟩
  rintro rfl
  have hnil : steps path = [] := hsteps ▸ hns
  have hstep : step? part ≠ none := by
    unfold step?
    split
    · simp_all
    · split <;> simp
  rw [steps, hparts, List.filterMap_eq_nil_iff] at hnil
  exact hstep (hnil part (List.mem_cons_self ..))

end Path

/-! ## The place of a joined file -/

namespace FileTree

open LoadPlan.Path

variable {tree : FileTree}

theorem walk_append (here : List String) (a b : List Component) :
    tree.walk here (a ++ b) = (tree.walk here a).bind fun there => tree.walk there b := by
  induction a generalizing here with
  | nil => rfl
  | cons c a ih =>
    cases c with
    | root => exact ih []
    | current => exact ih here
    | parent => exact ih here.dropLast
    | name s =>
      by_cases hs : tree.isDirectory (here ++ [s])
      · simp [walk, hs, ih]
      · simp [walk, hs]

/-- Names lead down, each to the directory it names. -/
theorem eq_append_of_walk_names {here there : List String} {ns : List String}
    (h : tree.walk here (ns.map .name) = some there) : there = here ++ ns := by
  induction ns generalizing here with
  | nil => simpa [walk] using h.symm
  | cons s ns ih =>
    rw [List.map_cons, walk] at h
    split at h
    · simpa using ih h
    · cases h

/-- A file lies in a directory that the steps before its name lead to. -/
theorem exists_walk_of_locate? {path : String} {place : List String}
    (h : tree.locate? path = some place) :
    ∃ before here s, steps path = before ++ [.name s] ∧
      tree.walk (start tree.workdir path) before = some here ∧ place = here ++ [s] := by
  unfold locate? at h
  split at h
  · cases h
  · dsimp only at h
    split at h
    · next s hs =>
      obtain ⟨last, hlast, hstep⟩ := Option.bind_eq_some_iff.1 hs
      obtain ⟨here, hwalk, rfl⟩ := Option.map_eq_some_iff.1 h
      refine ⟨_, here, s, ?_, hwalk, rfl⟩
      rw [steps, ← List.dropLast_append_getLast? last hlast, List.filterMap_append]
      simp [hstep]
    · cases h

/-- **A contained file lies under the place of its directory**, by its names. -/
theorem exists_walk_of_locate?_join {dir file : String} {ns place : List String}
    (hfile : isContained file) (hns : components file = ns.map .name)
    (h : tree.locate? (join dir file) = some place) :
    ∃ here, tree.walk (start tree.workdir dir) (steps dir) = some here ∧ place = here ++ ns := by
  obtain ⟨ns', hne, hroot, hcomponents, hsteps⟩ := exists_names_of_isContained hfile
  have hinjective : Function.Injective Component.name := fun a b hab => by cases hab; rfl
  obtain rfl : ns' = ns := (List.map_injective_iff.2 hinjective) (hcomponents ▸ hns)
  obtain ⟨before, here, s, hbefore, hwalk, rfl⟩ := exists_walk_of_locate? h
  obtain rfl | ⟨init, last, rfl⟩ := List.eq_nil_or_concat ns'
  · exact absurd rfl hne
  rw [steps_join hroot, hsteps, List.concat_eq_append, List.map_append, ← List.append_assoc] at hbefore
  obtain ⟨rfl, hlast⟩ := List.append_inj' hbefore rfl
  obtain ⟨there, hdir, hinit⟩ : ∃ there, tree.walk (start tree.workdir dir) (steps dir) =
      some there ∧ tree.walk there (init.map .name) = some here := by
    rw [start_join hroot, walk_append] at hwalk
    exact Option.bind_eq_some_iff.1 hwalk
  obtain rfl := eq_append_of_walk_names hinit
  cases hlast
  exact ⟨there, hdir, by simp⟩

end FileTree

end LoadPlan
