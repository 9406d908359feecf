import LoadPlan.Document.Source
import Mathlib.Data.List.Forall2
/-!
# Records with fields left out

A form lists its fields in the order of their names and leaves out those that are empty or absent.
`present` is what is left; a field is found in it exactly if it was not left out
(`get?_present`). `Reads` says that a tree is read as a value without following a reference, and the
lemmas after it put the reading of a record together from the reading of its fields.
-/

namespace LoadPlan.Document

/-! ## Slots -/

section Slots

variable {α : Type}

/-- **The fields that are there**, of fields some of which are left out. -/
def present (slots : List (String × Option α)) : List (String × α) :=
  slots.filterMap fun (name, x) => x.map (name, ·)

@[simp] theorem present_nil : present ([] : List (String × Option α)) = [] := rfl

@[simp] theorem present_cons_some (name : String) (x : α) (slots : List (String × Option α)) :
    present ((name, some x) :: slots) = (name, x) :: present slots := rfl

@[simp] theorem present_cons_none (name : String) (slots : List (String × Option α)) :
    present ((name, none) :: slots) = present slots := rfl

theorem mem_present {slots : List (String × Option α)} {name : String} {x : α} :
    (name, x) ∈ present slots ↔ (name, some x) ∈ slots := by
  simp [present]

/-- What is there has its name from the slots. -/
theorem fst_mem_of_mem_present {slots : List (String × Option α)} {f : String × α}
    (h : f ∈ present slots) : f.1 ∈ slots.map (·.1) :=
  List.mem_map.2 ⟨(f.1, some f.2), mem_present.1 h, rfl⟩

/-- Names are left out in their order. -/
theorem map_fst_present_sublist (slots : List (String × Option α)) :
    ((present slots).map (·.1)).Sublist (slots.map (·.1)) := by
  induction slots with
  | nil => exact .slnil
  | cons slot slots ih =>
    obtain ⟨name, x⟩ := slot
    cases x with
    | none => exact ih.cons name
    | some x => exact ih.cons_cons name

/-- **A field is found exactly if it was not left out.** -/
theorem get?_present [Source α] {slots : List (String × Option α)}
    (hnodup : (slots.map (·.1)).Nodup) {name : String} {x : Option α} (h : (name, x) ∈ slots) :
    Record.get? ⟨present slots⟩ name = x := by
  unfold Record.get?
  induction slots with
  | nil => cases h
  | cons slot slots ih =>
    obtain ⟨other, y⟩ := slot
    rw [List.map_cons, List.nodup_cons] at hnodup
    obtain ⟨hfresh, hnodup⟩ := hnodup
    rcases List.mem_cons.1 h with heq | hmem
    · cases heq
      cases x with
      | some x => simp
      | none =>
        -- no field after it has the name
        have hnone : (present slots).find? (fun f => f.1 == name) = none := by
          rw [List.find?_eq_none]
          rintro f hf heq
          exact hfresh (beq_iff_eq.1 heq ▸ fst_mem_of_mem_present hf)
        simp [hnone]
    · have hne : other ≠ name := by
        rintro rfl
        exact hfresh (List.mem_map.2 ⟨_, hmem, rfl⟩)
      cases y with
      | none => exact ih hnodup hmem
      | some y =>
        rw [present_cons_some, List.find?_cons_of_neg (by simpa using hne)]
        exact ih hnodup hmem

/-- **Fields under known names make a record.** -/
theorem ofFields_present [Source α] {slots : List (String × Option α)}
    (hnodup : (slots.map (·.1)).Nodup) :
    Record.ofFields (slots.map (·.1)) (present slots) = some ⟨present slots⟩ := by
  have hknown : (present slots).filter (fun f => (slots.map (·.1)).contains f.1) = present slots :=
    List.filter_eq_self.2 fun f hf => by simpa using fst_mem_of_mem_present hf
  unfold Record.ofFields
  rw [hknown]
  exact if_pos (hnodup.sublist (map_fst_present_sublist slots))

end Slots

/-! ## Reading -/

/-- **The tree is read as the value**, and no reference is followed on the way. -/
def Reads {σ α : Type} (read : σ → Reading α) (x : σ) (a : α) : Prop := read x = pure a

/-- A source without references. -/
class Settled (σ : Type) [Source σ] : Prop where
  settle_eq (x : σ) : Source.settle x = pure x

instance : Settled Value := ⟨fun _ => rfl⟩

/-- What is found without reading is found. -/
@[simp] theorem liftM_some {α : Type} (a : α) : (liftM (some a) : Reading α) = pure a := rfl

section Parts

variable {σ α : Type} [Source σ] {r : Record σ} {name : String} {read : σ → Reading α}

theorem defaulted_of_none (default : α) (hx : r.get? name = none) :
    r.defaulted name default read = pure default := by
  rw [Record.defaulted, hx]

theorem optional_of_none (hx : r.get? name = none) : r.optional name read = pure none := by
  rw [Record.optional, hx]

variable [Settled σ] {x : σ} {a : α}

theorem required_of_some (hx : r.get? name = some x) (h : Reads read x a) :
    r.required name read = pure a := by
  rw [Record.required, hx]
  dsimp only
  rw [Settled.settle_eq, pure_bind]
  exact h

theorem defaulted_of_some (default : α) (hx : r.get? name = some x) (h : Reads read x a) :
    r.defaulted name default read = pure a := by
  rw [Record.defaulted, hx]
  dsimp only
  rw [Settled.settle_eq, pure_bind]
  exact h

theorem optional_of_some (hx : r.get? name = some x) (hpresent : Source.isAbsent x = some false)
    (h : Reads read x a) : r.optional name read = pure (some a) := by
  rw [Record.optional, hx]
  dsimp only
  rw [Settled.settle_eq, pure_bind, hpresent, liftM_some, pure_bind, h, pure_bind]
  rfl

/-- **A list is read as its items are.** -/
theorem reads_listOf {items : List σ} {as : List α} (hx : Source.items? x = some items)
    (h : List.Forall₂ (Reads read) items as) : Reads (listOf read) x as := by
  have hitems : (items.mapM fun item => do read (← Source.settle item)) = pure as := by
    clear hx
    induction h with
    | nil => rfl
    | cons hread _ ih =>
      rw [List.mapM_cons, Settled.settle_eq, pure_bind, hread, pure_bind, ih, pure_bind]
  unfold Reads listOf
  rw [hx, liftM_some, pure_bind, hitems]

end Parts

end LoadPlan.Document
