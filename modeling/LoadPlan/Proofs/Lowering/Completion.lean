import LoadPlan.Lowering.Table
import Mathlib.Data.List.Nodup
/-!
# What completion puts into a table

`SessionNode.fill` takes entries out of a table while it goes through the nodes, and the table
it looks into is in disorder by then. `getElem?_fill` says what comes out at each place, whatever
table it started from: an enabled entry of that table for the node of the place, or, where there
is none, a disabled one. An entry that was taken served another node, so it is not missed.
-/

namespace LoadPlan

/-- Removing an element by a swap removes that element and no other. -/
theorem cons_swapRemove_perm {α : Type} {l : List α} {i : Nat} {a : α} (h : l[i]? = some a) :
    (a :: swapRemove l i).Perm l := by
  rcases List.eq_nil_or_concat' l with rfl | ⟨rest, last, rfl⟩
  · simp at h
  rw [swapRemove, List.getLast?_concat]
  obtain ⟨hi, hget⟩ := List.getElem?_eq_some_iff.1 h
  rw [List.length_append, List.length_singleton] at hi
  rcases Nat.lt_or_eq_of_le (Nat.le_of_lt_succ hi) with hlt | rfl
  · rw [List.getElem_append_left hlt] at hget
    -- the last element takes the place of the removed one
    have hset : ((rest ++ [last]).set i last).dropLast = rest.take i ++ last :: rest.drop (i + 1) := by
      rw [List.set_append_left i last hlt, List.dropLast_concat,
        List.set_eq_take_append_cons_drop, if_pos hlt]
    have hrest : rest.take i ++ a :: rest.drop (i + 1) = rest := by
      rw [← hget, ← List.drop_eq_getElem_cons hlt, List.take_append_drop]
    change (a :: ((rest ++ [last]).set i last).dropLast).Perm (rest ++ [last])
    rw [hset]
    calc (a :: (rest.take i ++ last :: rest.drop (i + 1))).Perm
          (a :: last :: (rest.take i ++ rest.drop (i + 1))) := List.perm_middle.cons a
      _ |>.Perm (last :: a :: (rest.take i ++ rest.drop (i + 1))) := .swap ..
      _ |>.Perm (last :: rest) := by
        conv => rhs; rw [← hrest]
        exact List.perm_middle.symm.cons last
      _ |>.Perm (rest ++ [last]) := (List.perm_append_singleton last rest).symm
  · rw [List.getElem_concat_length rfl] at hget
    subst hget
    change (last :: ((rest ++ [last]).set rest.length last).dropLast).Perm (rest ++ [last])
    rw [List.set_append_right _ _ (Nat.le_refl _)]
    simpa using (List.perm_append_singleton last rest).symm

namespace SessionNode

/-- **What an entry for a node is after completion**: an enabled entry for it that the table had,
or the disabled one if the table had none. -/
def Completes (table : List TransitionEntry) (target : Nat) (name : String)
    (e : TransitionEntry) : Prop :=
  (e ∈ table ∧ servesFor target e) ∨
    ((∀ e' ∈ table, ¬ servesFor target e') ∧ e = .disabled target name)

theorem servesFor_iff {target : Nat} {e : TransitionEntry} :
    servesFor target e ↔ e.target = target ∧ e.enabled := by
  simp [servesFor]

/-- Taking out an entry for one node leaves those for the others. -/
theorem Completes.of_swapRemove {table : List TransitionEntry} {i k target : Nat} {name : String}
    {taken e : TransitionEntry} (hget : table[i]? = some taken) (htaken : servesFor k taken)
    (hne : k ≠ target) (h : Completes (swapRemove table i) target name e) :
    Completes table target name e := by
  have hmem : ∀ e', e' ∈ table ↔ e' = taken ∨ e' ∈ swapRemove table i := by
    intro e'
    rw [← (cons_swapRemove_perm hget).mem_iff, List.mem_cons]
  rcases h with ⟨hin, hserves⟩ | ⟨hnone, rfl⟩
  · exact .inl ⟨(hmem e).2 (.inr hin), hserves⟩
  · refine .inr ⟨fun e' he' hserves => ?_, rfl⟩
    rcases (hmem e').1 he' with rfl | he'
    · exact hne ((servesFor_iff.1 htaken).1.symm.trans (servesFor_iff.1 hserves).1)
    · exact hnone e' he' hserves

/-- The place of the first entry for a node holds such an entry; without a place there is none. -/
theorem findIdx?_servesFor_cases (table : List TransitionEntry) (target : Nat) :
    (∃ i e, table[i]? = some e ∧ servesFor target e ∧
        table.findIdx? (servesFor target) = some i) ∨
      (∀ e ∈ table, ¬ servesFor target e) ∧ table.findIdx? (servesFor target) = none := by
  cases hfind : table.findIdx? (servesFor target) with
  | none => exact .inr ⟨by simpa using List.findIdx?_eq_none_iff.1 hfind, rfl⟩
  | some i =>
    obtain ⟨hi, hserves, -⟩ := List.findIdx?_eq_some_iff_getElem.1 hfind
    exact .inl ⟨i, table[i], List.getElem?_eq_getElem hi, hserves, rfl⟩

/-- Filling looks for an entry for the first node; the rest is filled from what is left. -/
theorem fill_cons (table : List TransitionEntry) (target : Nat) (name : String)
    (rest : List (Nat × String)) :
    (∃ i e, table[i]? = some e ∧ servesFor target e ∧
        fill table ((target, name) :: rest) = e :: fill (swapRemove table i) rest) ∨
      (∀ e ∈ table, ¬ servesFor target e) ∧
        fill table ((target, name) :: rest) = .disabled target name :: fill table rest := by
  rcases findIdx?_servesFor_cases table target with ⟨i, e, hget, hserves, hfind⟩ | ⟨hnone, hfind⟩
  · exact .inl ⟨i, e, hget, hserves, by simp only [fill, hfind, hget, Option.getD_some]⟩
  · exact .inr ⟨hnone, by simp only [fill, hfind]⟩

theorem length_fill (table : List TransitionEntry) (targets : List (Nat × String)) :
    (fill table targets).length = targets.length := by
  induction targets generalizing table with
  | nil => rfl
  | cons t rest ih =>
    rcases fill_cons table t.1 t.2 rest with ⟨i, e, -, -, h⟩ | ⟨-, h⟩
    · rw [h, List.length_cons, List.length_cons, ih]
    · rw [h, List.length_cons, List.length_cons, ih]

/-- **Every place is filled from the whole table**, if no node is listed twice. -/
theorem getElem?_fill {targets : List (Nat × String)} (hnodup : (targets.map (·.1)).Nodup)
    (table : List TransitionEntry) {p target : Nat} {name : String}
    (hp : targets[p]? = some (target, name)) :
    ∃ e, (fill table targets)[p]? = some e ∧ Completes table target name e := by
  induction targets generalizing table p with
  | nil => simp at hp
  | cons t rest ih =>
    obtain ⟨hfirst, hrest⟩ := List.nodup_cons.1 hnodup
    cases p with
    | zero =>
      cases hp
      rcases fill_cons table target name rest with ⟨i, e, hget, hserves, h⟩ | ⟨hnone, h⟩
      · exact ⟨e, by rw [h, List.getElem?_cons_zero],
          .inl ⟨List.mem_of_getElem? hget, hserves⟩⟩
      · exact ⟨_, by rw [h, List.getElem?_cons_zero], .inr ⟨hnone, rfl⟩⟩
    | succ p =>
      rw [List.getElem?_cons_succ] at hp
      have hne : t.1 ≠ target := by
        rintro rfl
        exact hfirst (List.mem_map.2 ⟨_, List.mem_of_getElem? hp, rfl⟩)
      rcases fill_cons table t.1 t.2 rest with ⟨i, e, hget, hserves, h⟩ | ⟨-, h⟩
      · obtain ⟨e', hget', hfill⟩ := ih hrest (swapRemove table i) hp
        exact ⟨e', by rw [h, List.getElem?_cons_succ, hget'],
          hfill.of_swapRemove hget hserves hne⟩
      · obtain ⟨e', hget', hfill⟩ := ih hrest table hp
        exact ⟨e', by rw [h, List.getElem?_cons_succ, hget'], hfill⟩

end SessionNode

end LoadPlan
