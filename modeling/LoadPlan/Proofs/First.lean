import LoadPlan.Proofs.Results
/-!
# The first member with a property

A search ends at the first member it looks for, and a row of steps that may fail ends at the first
one that does. `FirstAt` says where that member stands without saying how it is come by:
`find?_eq_some_iff_firstAt`, `findSome?_eq_some_iff_firstAt` and `mapM_eq_error_iff_firstAt` say so
of three ways to go through a list.
-/

namespace LoadPlan

variable {α β ε : Type}

/-- **The first member of a list with a property** is `a`, in place `k`. -/
structure FirstAt (p : α → Prop) (l : List α) (k : ℕ) (a : α) : Prop where
  member : l[k]? = some a
  holds : p a
  fails : ∀ j < k, ∀ b, l[j]? = some b → ¬ p b

variable {p q : α → Prop} {l : List α} {k : ℕ} {a : α}

/-! ## Places -/

theorem FirstAt.mem (h : FirstAt p l k a) : a ∈ l := List.mem_of_getElem? h.member

theorem not_firstAt_nil : ¬ FirstAt p [] k a := fun h => List.not_mem_nil h.mem

/-- The first member is the head of the list, or the first one after a head without the
property. -/
theorem firstAt_cons {b : α} :
    FirstAt p (b :: l) k a ↔
      (k = 0 ∧ a = b ∧ p b) ∨ ∃ j, k = j + 1 ∧ ¬ p b ∧ FirstAt p l j a := by
  constructor
  · rintro ⟨hmember, hholds, hfails⟩
    cases k with
    | zero =>
      obtain rfl : b = a := Option.some.inj hmember
      exact .inl ⟨rfl, rfl, hholds⟩
    | succ j =>
      refine .inr ⟨j, rfl, hfails 0 j.succ_pos b rfl, hmember, hholds, fun i hi => ?_⟩
      exact hfails (i + 1) (Nat.succ_lt_succ hi)
  · rintro (⟨rfl, rfl, hb⟩ | ⟨j, rfl, hb, hfirst⟩)
    · exact ⟨rfl, hb, fun i hi => absurd hi i.not_lt_zero⟩
    · refine ⟨hfirst.member, hfirst.holds, fun i hi c hc => ?_⟩
      cases i with
      | zero =>
        obtain rfl : b = c := Option.some.inj hc
        exact hb
      | succ i => exact hfirst.fails i (Nat.lt_of_succ_lt_succ hi) c hc

/-- What is known of the first member is known of the head, or of the first one after it. -/
theorem exists_firstAt_cons_iff {b : α} :
    (∃ k a, FirstAt p (b :: l) k a ∧ q a) ↔
      (p b ∧ q b) ∨ (¬ p b ∧ ∃ k a, FirstAt p l k a ∧ q a) := by
  simp only [firstAt_cons]
  constructor
  · rintro ⟨_, _, ⟨rfl, rfl, hb⟩ | ⟨j, rfl, hb, hfirst⟩, hq⟩
    · exact .inl ⟨hb, hq⟩
    · exact .inr ⟨hb, j, _, hfirst, hq⟩
  · rintro (⟨hb, hq⟩ | ⟨hb, j, a, hfirst, hq⟩)
    · exact ⟨0, b, .inl ⟨rfl, rfl, hb⟩, hq⟩
    · exact ⟨j + 1, a, .inr ⟨j, rfl, hb, hfirst⟩, hq⟩

/-- Where a member has the property, one of them is the first. -/
theorem exists_firstAt (ha : a ∈ l) (hp : p a) : ∃ k b, FirstAt p l k b := by
  induction l with
  | nil => cases ha
  | cons c l ih =>
    by_cases hc : p c
    · exact ⟨0, c, firstAt_cons.2 (.inl ⟨rfl, rfl, hc⟩)⟩
    · have hrest : a ∈ l := (List.mem_cons.1 ha).resolve_left fun hac => hc (hac ▸ hp)
      obtain ⟨k, b, hfirst⟩ := ih hrest
      exact ⟨k + 1, b, firstAt_cons.2 (.inr ⟨k, rfl, hc, hfirst⟩)⟩

/-- Members that are changed in their places keep them. -/
theorem firstAt_mapIdx {f : ℕ → α → β} {r : β → Prop} (hr : ∀ i a, r (f i a) ↔ p a) {b : β} :
    FirstAt r (l.mapIdx f) k b ↔ ∃ a, FirstAt p l k a ∧ f k a = b := by
  constructor
  · rintro ⟨hmember, hholds, hfails⟩
    rw [List.getElem?_mapIdx, Option.map_eq_some_iff] at hmember
    obtain ⟨a, ha, rfl⟩ := hmember
    refine ⟨a, ⟨ha, (hr k a).1 hholds, fun j hj c hc => ?_⟩, rfl⟩
    rw [← hr j c]
    exact hfails j hj _ (by rw [List.getElem?_mapIdx, hc, Option.map_some])
  · rintro ⟨a, hfirst, rfl⟩
    refine ⟨by rw [List.getElem?_mapIdx, hfirst.member, Option.map_some], (hr k a).2 hfirst.holds,
      fun j hj c hc => ?_⟩
    rw [List.getElem?_mapIdx, Option.map_eq_some_iff] at hc
    obtain ⟨d, hd, rfl⟩ := hc
    rw [hr j d]
    exact hfirst.fails j hj d hd

/-! ## Ways to go through a list -/

/-- A search finds the first member. -/
theorem find?_eq_some_iff_firstAt [DecidablePred p] :
    l.find? (fun b => p b) = some a ↔ ∃ k, FirstAt p l k a := by
  rw [List.find?_eq_some_iff_getElem]
  constructor
  · rintro ⟨hp, k, hk, rfl, hbefore⟩
    refine ⟨k, List.getElem?_eq_getElem hk, of_decide_eq_true hp, fun j hj b hb => ?_⟩
    obtain ⟨hj', rfl⟩ := List.getElem?_eq_some_iff.1 hb
    simpa using hbefore j hj
  · rintro ⟨k, hmember, hp, hbefore⟩
    obtain ⟨hk, rfl⟩ := List.getElem?_eq_some_iff.1 hmember
    refine ⟨decide_eq_true hp, k, hk, rfl, fun j hj => ?_⟩
    have hj' : j < l.length := Nat.lt_trans hj hk
    simpa using hbefore j hj l[j] (List.getElem?_eq_getElem hj')

/-- **A search for what a member gives** has what is given by the first one that gives something. -/
theorem findSome?_eq_some_iff_firstAt {f : α → Option β} {b : β} :
    l.findSome? f = some b ↔ ∃ k a, FirstAt (fun a => f a ≠ none) l k a ∧ f a = some b := by
  induction l with
  | nil => simp [not_firstAt_nil]
  | cons c l ih =>
    rw [List.findSome?_cons, exists_firstAt_cons_iff, ← ih]
    cases f c <;> simp

/-- **A row of steps fails as its first failing step does.** -/
theorem mapM_eq_error_iff_firstAt {f : α → Except ε β} {e : ε} :
    l.mapM f = .error e ↔
      ∃ k a, FirstAt (fun a => ∃ e, f a = .error e) l k a ∧ f a = .error e := by
  induction l with
  | nil => simp [not_firstAt_nil, pure, Except.pure]
  | cons c l ih =>
    rw [List.mapM_cons, bind_eq_error_iff, exists_firstAt_cons_iff, ← ih]
    cases f c <;> simp [bind_eq_error_iff, pure, Except.pure]

end LoadPlan
