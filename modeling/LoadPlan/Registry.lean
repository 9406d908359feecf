/-!
# Registries

Things under distinct keys. Registering a thing under a key takes the place of what was there.
-/

namespace LoadPlan

/-- Things under distinct keys. -/
structure Registry (κ α : Type) where
  entries : List (κ × α)
  distinct : (entries.map (·.1)).Nodup

namespace Registry

variable {κ α : Type} [DecidableEq κ]

/-- Nothing registered. -/
def empty : Registry κ α := ⟨[], .nil⟩

/-- Without its entry, a key is absent. -/
theorem nodup_cons_erase (r : Registry κ α) (k : κ) (a : α) :
    (((k, a) :: r.entries.filter fun e => decide (e.1 ≠ k)).map (·.1)).Nodup := by
  rw [List.map_cons, List.nodup_cons]
  constructor
  · simp
  · exact r.distinct.sublist (List.filter_sublist.map _)

/-- Put a thing under a key, in place of what was there. -/
def insert (r : Registry κ α) (k : κ) (a : α) : Registry κ α :=
  ⟨(k, a) :: r.entries.filter fun e => decide (e.1 ≠ k), r.nodup_cons_erase k a⟩

/-- The thing under a key. -/
def get? (r : Registry κ α) (k : κ) : Option α :=
  (r.entries.find? fun e => e.1 = k).map (·.2)

@[simp] theorem get?_empty (k : κ) : (empty : Registry κ α).get? k = none := rfl

theorem get?_insert (r : Registry κ α) (k k' : κ) (a : α) :
    (r.insert k a).get? k' = if k = k' then some a else r.get? k' := by
  by_cases h : k = k'
  · simp [get?, insert, h]
  · have hne : ∀ e : κ × α, (!decide (e.1 = k) && decide (e.1 = k')) = decide (e.1 = k') := by
      grind
    simp [get?, insert, h, List.find?_filter, hne]

/-- Is there a thing under the key? -/
def contains (r : Registry κ α) (k : κ) : Bool := (r.get? k).isSome

/-- How many keys are taken. -/
def size (r : Registry κ α) : Nat := r.entries.length

/-- The keys, in no particular order. -/
def keys (r : Registry κ α) : List κ := r.entries.map (·.1)

/-- The keys in an order, under a title. -/
def description (r : Registry κ α) (title : String) (le : κ → κ → Bool) (text : κ → String) :
    String :=
  title ++ " \x7b kinds: [" ++ ", ".intercalate ((r.keys.mergeSort le).map text) ++ "] \x7d"

end Registry

end LoadPlan
