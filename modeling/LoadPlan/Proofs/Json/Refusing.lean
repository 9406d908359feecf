import LoadPlan.Proofs.Json.Restoring
/-!
# Forms that are refused

JSON has no number for a double that is not finite: it is written as null, and null is not read as a
number. `Refuses height read v` says that the form `v` is written and refused by `read`. What is
refused spoils the list and the record it is in, whatever stands beside it.
-/

namespace LoadPlan.Json

open Document

/-! ## Readings that fail -/

section Reading

variable {α β : Type}

theorem failure_bind (next : α → Reading β) : (failure : Reading α) >>= next = failure := rfl

/-- What is read before a failure does not matter. -/
theorem bind_failure (x : Reading α) {next : α → Reading β} (h : ∀ a, next a = failure) :
    x >>= next = failure := by
  funext budget
  show (x budget).bind (fun r => next r.1 r.2) = none
  cases hx : x budget with
  | none => rfl
  | some r =>
    rw [Option.bind_some, h]
    rfl

theorem mapM_failure {read : α → Reading β} {l : List α} {a : α} (ha : a ∈ l)
    (h : read a = failure) : l.mapM read = failure := by
  induction l with
  | nil => cases ha
  | cons b l ih =>
    rw [List.mapM_cons]
    rcases List.mem_cons.1 ha with rfl | ha
    · rw [h, failure_bind]
    · refine bind_failure _ fun _ => ?_
      rw [ih ha, failure_bind]

end Reading

/-! ## Forms -/

variable {α : Type} {height : Nat} {read : Nested → Reading α} {v : Json}

/-- **The form is written, and refused.** -/
structure Refuses (height : Nat) (read : Nested → Reading α) (v : Json) : Prop where
  written : Written v
  refused {depth : Nat} : depth + height ≤ maxDepth → read ⟨depth, v⟩ = failure

theorem Refuses.clear (h : Refuses height read v) : Clear Nested height v :=
  ⟨h.written, fun _ => rfl⟩

/-- **A double that is not finite is refused.** -/
theorem refuses_float (height : Nat) {y : Float} (hy : ¬ Decimal.isFinite y) :
    Refuses height float? (float y) := by
  rw [float, if_neg hy]
  exact ⟨.null, fun _ => rfl⟩

/-- A list is refused if an item is. -/
theorem Refuses.array {form : α → Json} {l : List α} (hwritten : ∀ a ∈ l, Written (form a)) {a : α}
    (ha : a ∈ l) (h : Refuses height read (form a)) :
    Refuses (height + 1) (listOf read) (array form l) where
  written := by
    refine .list fun v hv => ?_
    obtain ⟨b, hb, rfl⟩ := List.mem_map.1 hv
    exact hwritten b hb
  refused {depth} hroom := by
    have hitems : Source.items? (⟨depth, Json.array form l⟩ : Nested) =
        some ((l.map form).map (⟨depth + 1, ·⟩)) := by
      have hlt : depth < maxDepth := by omega
      simp [Source.items?, Json.array, Nested.hasRoom, hlt]
    rw [listOf, hitems, liftM_some, pure_bind]
    refine mapM_failure (List.mem_map_of_mem (List.mem_map_of_mem ha)) ?_
    rw [Settled.settle_eq, pure_bind]
    exact h.refused (by omega)

namespace Filled

variable {slots : List (String × Option Json)} {r : Record Nested} (h : Filled height slots r)
  (name : String)
include h

/-- A field that is refused. -/
theorem exists_refused (hv : (name, some v) ∈ slots) (hrefuses : Refuses height read v) :
    ∃ x, r.get? name = some x ∧ read x = failure := by
  obtain ⟨depth, hroom, hget⟩ := h.exists_get?_eq name hv
  exact ⟨⟨depth, v⟩, hget, hrefuses.refused hroom⟩

theorem required_refused (hv : (name, some v) ∈ slots) (hrefuses : Refuses height read v) :
    r.required name read = failure := by
  obtain ⟨x, hx, hread⟩ := h.exists_refused name hv hrefuses
  rw [Record.required, hx]
  dsimp only
  rw [Settled.settle_eq, pure_bind, hread]

theorem defaulted_refused (default : α) (hv : (name, some v) ∈ slots)
    (hrefuses : Refuses height read v) : r.defaulted name default read = failure := by
  obtain ⟨x, hx, hread⟩ := h.exists_refused name hv hrefuses
  rw [Record.defaulted, hx]
  dsimp only
  rw [Settled.settle_eq, pure_bind, hread]

end Filled

/-- **A record is refused if its fields are.** -/
theorem Refuses.record {names : List String} {slots : List (String × Option Json)}
    {body : Record Nested → Reading α} (hnames : slots.map (·.1) = names) (hnodup : names.Nodup)
    (hclear : ClearSlots Nested height slots)
    (hbody : ∀ r, Filled height slots r → body r = failure) :
    Refuses (height + 1) (fun x => Source.record? names x >>= body)
      (Json.record (present slots)) where
  written := by
    refine .record fun f hf => (hclear f.2 ?_).written
    exact List.mem_map.2 ⟨(f.1, some f.2), mem_present.1 hf, rfl⟩
  refused {depth} hroom := by
    subst hnames
    have hseen : ∀ v, some v ∈ slots.map (·.2) →
        (View.see (depth + 1) v : Option Nested).isSome := fun v hv => (hclear v hv).seen (by omega)
    obtain ⟨x, hx, hrecord⟩ := View.exists_record (show depth < maxDepth by omega) hnodup hseen
    cases hx
    rw [hrecord, pure_bind]
    exact hbody _ ⟨hnodup, depth + 1, by omega, rfl⟩

/-- **A refused document is not decoded.** -/
theorem Refuses.decode (h : Refuses height read v) (hheight : height ≤ maxDepth) :
    decode read v.pretty = none := by
  have hvalue := h.refused (show 0 + height ≤ maxDepth by omega)
  rw [Json.decode, read_pretty h.written, Option.bind_some, hvalue]
  rfl

end LoadPlan.Json
