import LoadPlan.Json.Source
import LoadPlan.Proofs.Decimal.ReadBack
import LoadPlan.Proofs.Document.Fields
import LoadPlan.Proofs.Json.ReadBack
/-!
# JSON values as trees of a source

A JSON value is read in two ways: as it stands at its depth, and typed, with everything below it.
A `View` is what the two have in common, namely what becomes of the leaves, lists and records that
forms are made of. What is proved of any view holds of both (`Nested`, `Document.Value`).
-/

namespace LoadPlan.Json

open Document

/-- The trees of the values in some slots. -/
def seenSlots {σ : Type} (see : Json → Option σ) (slots : List (String × Option Json)) :
    List (String × Option σ) :=
  slots.map fun (name, v) => (name, v.bind see)

@[simp] theorem map_fst_seenSlots {σ : Type} (see : Json → Option σ)
    (slots : List (String × Option Json)) :
    (seenSlots see slots).map (·.1) = slots.map (·.1) := by
  simp [seenSlots]

/-- The fields in some slots make a record. -/
theorem ofFields_seenSlots {σ : Type} [Source σ] {see : Json → Option σ}
    {slots : List (String × Option Json)} (hnodup : (slots.map (·.1)).Nodup) :
    Record.ofFields (slots.map (·.1)) (present (seenSlots see slots)) =
      some ⟨present (seenSlots see slots)⟩ := by
  rw [← map_fst_seenSlots see] at hnodup ⊢
  exact ofFields_present hnodup

/-- **A way to see JSON values as trees of a source.** Lists and records are seen down to
`maxDepth`. -/
class View (σ : Type) [Source σ] extends Settled σ where
  /-- The tree of a value with some lists and objects around it. -/
  see : Nat → Json → Option σ
  /-- Only null is absent. -/
  isAbsent_eq {depth : Nat} {v : Json} {x : σ} :
    see depth v = some x → v ≠ .null → Source.isAbsent x = some false
  exists_text (depth : Nat) (s : String) :
    ∃ x, see depth (str s) = some x ∧ Source.text? x = some s ∧
      ∀ names, Source.variant? names x = some (s, none)
  exists_bool (depth : Nat) (b : Bool) :
    ∃ x, see depth (.bool b) = some x ∧ Source.bool? x = some b
  exists_natural (depth : Nat) {n : Nat} : n < wordBound →
    ∃ x, see depth (nat n) = some x ∧ ∀ bound, n < bound → Source.natural? bound x = some n
  exists_float (depth : Nat) {y : Float} : Decimal.isFinite y →
    ∃ x, see depth (float y) = some x ∧ Source.float? x = some y
  exists_items {depth : Nat} {items : List Json} {xs : List σ} : depth < maxDepth →
    items.mapM (see (depth + 1)) = some xs →
      ∃ x, see depth (.list items) = some x ∧ Source.items? x = some xs
  exists_record {depth : Nat} {slots : List (String × Option Json)} : depth < maxDepth →
    (slots.map (·.1)).Nodup → (∀ v, some v ∈ slots.map (·.2) → (see (depth + 1) v).isSome) →
      ∃ x, see depth (record (present slots)) = some x ∧
        Source.record? (slots.map (·.1)) x =
          pure ⟨present (seenSlots (see (depth + 1)) slots)⟩
  exists_pairs {depth : Nat} (entries : List (String × String)) : depth < maxDepth →
    ∃ x, see depth (record (entries.map fun e => (e.1, str e.2))) = some x ∧
      Source.pairs? x = pure entries

/-! ## Literals -/

theorem literalNat?_toDigits (n : Nat) : literalNat? (Nat.toDigits 10 n) = some n :=
  Decimal.takeNat_toDigits n

theorem literalFloat?_chars {x : Float} (hx : Decimal.isFinite x) :
    literalFloat? (numberStyle.chars x) = some x := by
  simp [literalFloat?, numberStyle.readChars_chars hx, hx]

/-- No digit is a minus sign. -/
theorem numberValue?_of_isDigit {c : Char} {more : List Char} (hc : c.isDigit) :
    numberValue? (c :: more) =
      match literalNat? (c :: more) with
      | some n =>
        if n < wordBound then some (.natural n) else (literalFloat? (c :: more)).map .float
      | none => (literalFloat? (c :: more)).map .float := by
  unfold numberValue?
  split
  · next heq =>
    rw [(List.cons.inj heq).1] at hc
    exact absurd hc (by decide)
  · rfl

/-- A whole number is typed as one if it fits a word. -/
theorem numberValue?_toDigits {n : Nat} (hn : n < wordBound) :
    numberValue? (Nat.toDigits 10 n) = some (.natural n) := by
  have hnat := literalNat?_toDigits n
  have hdigits := Decimal.all_isDigit_toDigits n
  obtain ⟨c, more, hc⟩ := List.exists_cons_of_ne_nil (Nat.toDigits_ne_nil (b := 10) (n := n))
  rw [hc] at hnat hdigits ⊢
  rw [List.all_cons, Bool.and_eq_true] at hdigits
  rw [numberValue?_of_isDigit hdigits.1, hnat]
  exact if_pos hn

/-- A double is typed as one: its literal has a fraction or an exponent. -/
theorem numberValue?_chars {x : Float} (hx : Decimal.isFinite x) :
    numberValue? (numberStyle.chars x) = some (.float x) := by
  obtain ⟨n, hchars, -, hmark⟩ := numberStyle.exists_chars_eq hx
  have hnat : literalNat? n.chars = none := n.takeNat_chars (hmark rfl)
  have hread := literalFloat?_chars hx
  rw [hchars] at hread ⊢
  cases hsigned : signed x with
  | true =>
    simp only [hsigned, if_true, List.singleton_append] at hread ⊢
    simp [numberValue?, hnat, hread]
  | false =>
    obtain ⟨c, more, hc, hdigit⟩ := n.exists_chars_eq_cons
    simp only [hsigned, Bool.false_eq_true, if_false, List.nil_append] at hread ⊢
    rw [hc] at hnat hread ⊢
    rw [numberValue?_of_isDigit hdigit, hnat, hread]
    rfl

/-! ## Values at their depth -/

/-- Keys with characters are kept. -/
theorem keyed?_keyed (depth : Nat) (slots : List (String × Option Json)) :
    keyed? depth (keyed (present slots)) =
      some (present (seenSlots (fun v => some (⟨depth + 1, v⟩ : Nested)) slots)) := by
  unfold keyed?
  induction slots with
  | nil => rfl
  | cons slot slots ih =>
    obtain ⟨name, v⟩ := slot
    cases v with
    | none => exact ih
    | some v =>
      rw [present_cons_some, keyed, List.map_cons, ← keyed, List.mapM_cons, ih]
      rfl

instance : View Nested where
  settle_eq _ := rfl
  see depth v := some ⟨depth, v⟩
  isAbsent_eq {depth v x} h hne := by
    cases h
    cases v with
    | null => exact absurd rfl hne
    | _ => rfl
  exists_text depth s := ⟨⟨depth, str s⟩, rfl, rfl, fun _ => rfl⟩
  exists_bool depth b := ⟨⟨depth, .bool b⟩, rfl, rfl⟩
  exists_natural depth n _ := by
    refine ⟨⟨depth, nat n⟩, rfl, fun bound hbound => ?_⟩
    simp [Source.natural?, nat, literalNat?_toDigits, hbound]
  exists_float depth y hy := by
    refine ⟨⟨depth, float y⟩, rfl, ?_⟩
    simp [Source.float?, float, hy, literalFloat?_chars hy]
  exists_items {depth items xs} hroom hxs := by
    have hmap := hxs.symm.trans (List.mapM_pure (m := Option))
    cases hmap
    refine ⟨⟨depth, .list items⟩, rfl, ?_⟩
    simp [Source.items?, Nested.hasRoom, hroom]
  exists_record {depth slots} hroom hnodup _ := by
    have hfields : Nested.record? (slots.map (·.1)) ⟨depth, record (present slots)⟩ =
        some ⟨present (seenSlots (fun v => some ⟨depth + 1, v⟩) slots)⟩ := by
      have hobject : record (present slots) = .object (keyed (present slots)) := rfl
      simp [Nested.record?, Nested.hasRoom, hroom, hobject, keyed?_keyed, ofFields_seenSlots hnodup]
    exact ⟨⟨depth, record (present slots)⟩, rfl, congrArg StateT.lift hfields⟩
  exists_pairs {depth} entries _ := by
    have hpairs : Nested.pairs? ⟨depth, record (entries.map fun e => (e.1, str e.2))⟩ =
        some entries := by
      have hkeyed : keyed? depth (keyed (entries.map fun e => (e.1, str e.2))) =
          some (entries.map fun e => (e.1, ⟨depth + 1, str e.2⟩)) := by
        rw [keyed?, keyed, List.mapM_map, List.mapM_map]
        exact List.mapM_pure (m := Option)
      rw [Nested.pairs?, record, ← keyed]
      dsimp only
      rw [hkeyed, Option.bind_eq_bind, Option.bind_some, List.mapM_map]
      exact (List.mapM_pure (m := Option)).trans (congrArg some (List.map_id _))
    exact ⟨_, rfl, congrArg StateT.lift hpairs⟩

/-! ## Typed values -/

theorem typedItems?_eq_mapM (room : Nat) (items : List Json) :
    typedItems? room items = items.mapM (typed? room) := by
  induction items with
  | nil => rfl
  | cons item items ih => rw [typedItems?, ih, List.mapM_cons]

/-- The fields that are there are typed one by one. -/
theorem typedFields?_present (room : Nat) {slots : List (String × Option Json)}
    (hseen : ∀ v, some v ∈ slots.map (·.2) → (typed? room v).isSome) :
    typedFields? room (keyed (present slots)) =
      some ((present (seenSlots (typed? room) slots)).map fun f => (.text f.1, f.2)) := by
  induction slots with
  | nil => rfl
  | cons slot slots ih =>
    obtain ⟨name, v⟩ := slot
    have hmore := ih fun v hv => hseen v (List.mem_cons_of_mem _ hv)
    cases v with
    | none => exact hmore
    | some v =>
      obtain ⟨w, hw⟩ := Option.isSome_iff_exists.1 (hseen v List.mem_cons_self)
      rw [present_cons_some, keyed, List.map_cons, ← keyed, typedFields?, hmore, hw]
      simp [seenSlots, hw]

theorem typedFields?_map_str (room : Nat) (entries : List (String × String)) :
    typedFields? room (keyed (entries.map fun e => (e.1, str e.2))) =
      some (entries.map fun e => (.text e.1, .text e.2)) := by
  induction entries with
  | nil => rfl
  | cons e entries ih =>
    rw [List.map_cons, keyed, List.map_cons, ← keyed, typedFields?, ih]
    rfl

/-- Fields under texts keep their names. -/
theorem fields?_map_text (names : List String) (fields : List (String × Value)) :
    Value.fields? names (fields.map fun f => (.text f.1, f.2)) = some fields := by
  have hnamed : (fields.map fun f => ((.text f.1, f.2) : Value × Value)).mapM
      (fun e => (Value.keyName? names e.1).map fun name => (name, e.2)) =
        some (fields.map fun f => (some f.1, f.2)) := by
    rw [List.mapM_map]
    exact List.mapM_pure (m := Option)
  unfold Value.fields?
  rw [hnamed]
  simp [List.filterMap_map]

/-- The room left below a value goes down with its depth. -/
theorem maxDepth_sub {depth : Nat} (hroom : depth < maxDepth) :
    maxDepth - depth = (maxDepth - (depth + 1)) + 1 := by omega

theorem isAbsent_numberValue? {literal : List Char} {w : Value}
    (h : numberValue? literal = some w) : Source.isAbsent w = some false := by
  have hfloat : (literalFloat? literal).map .float = some w → Source.isAbsent w = some false := by
    intro h
    obtain ⟨x, -, rfl⟩ := Option.map_eq_some_iff.1 h
    rfl
  unfold numberValue? at h
  repeat' split at h
  all_goals
    first
    | exact hfloat h
    | cases h; rfl

/-- Only null is typed as null. -/
theorem isAbsent_typed? {room : Nat} {v : Json} {w : Value} (h : typed? room v = some w)
    (hne : v ≠ .null) : Source.isAbsent w = some false := by
  cases v with
  | null => exact absurd rfl hne
  | bool b =>
    cases h
    rfl
  | number literal => exact isAbsent_numberValue? h
  | text s =>
    obtain ⟨s, -, rfl⟩ := Option.map_eq_some_iff.1 h
    rfl
  | list items =>
    cases room with
    | zero => cases h
    | succ room =>
      rw [typed?] at h
      obtain ⟨ws, -, rfl⟩ := Option.map_eq_some_iff.1 h
      rfl
  | object fields =>
    cases room with
    | zero => cases h
    | succ room =>
      rw [typed?] at h
      obtain ⟨entries, -, rfl⟩ := Option.map_eq_some_iff.1 h
      rfl

instance : View Value where
  settle_eq _ := rfl
  see depth v := typed? (maxDepth - depth) v
  isAbsent_eq := isAbsent_typed?
  exists_text depth s := ⟨.text s, rfl, rfl, fun _ => rfl⟩
  exists_bool depth b := ⟨.bool b, rfl, rfl⟩
  exists_natural depth n hn :=
    ⟨.natural n, numberValue?_toDigits hn, fun _ hbound => if_pos hbound⟩
  exists_float depth y hy := by
    refine ⟨.float y, ?_, rfl⟩
    rw [float, if_pos hy]
    exact numberValue?_chars hy
  exists_items {depth items xs} hroom hxs := by
    refine ⟨.list xs, ?_, rfl⟩
    rw [maxDepth_sub hroom, typed?, typedItems?_eq_mapM, hxs]
    rfl
  exists_record {depth slots} hroom hnodup hseen := by
    have htyped : typed? (maxDepth - depth) (record (present slots)) =
        some (.map ((present (seenSlots (typed? (maxDepth - (depth + 1))) slots)).map
          fun f => (.text f.1, f.2))) := by
      rw [maxDepth_sub hroom, record, ← keyed, typed?, typedFields?_present _ hseen]
      rfl
    have hfields := congrArg (·.bind (Record.ofFields (slots.map (·.1)))) <|
      fields?_map_text (slots.map (·.1))
        (present (seenSlots (typed? (maxDepth - (depth + 1))) slots))
    rw [Option.bind_some, ofFields_seenSlots hnodup] at hfields
    exact ⟨_, htyped, congrArg StateT.lift hfields⟩
  exists_pairs {depth} entries hroom := by
    have htyped : typed? (maxDepth - depth) (record (entries.map fun e => (e.1, str e.2))) =
        some (.map (entries.map fun e => (.text e.1, .text e.2))) := by
      rw [maxDepth_sub hroom, record, ← keyed, typed?, typedFields?_map_str]
      rfl
    have hpairs : (entries.map fun e => ((.text e.1, .text e.2) : Value × Value)).mapM
        (fun e => do return (← Value.text? e.1, ← Value.text? e.2)) = some entries := by
      rw [List.mapM_map]
      exact (List.mapM_pure (m := Option)).trans (congrArg some (List.map_id _))
    exact ⟨_, htyped, congrArg StateT.lift hpairs⟩

end LoadPlan.Json
