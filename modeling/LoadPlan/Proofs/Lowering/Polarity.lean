import LoadPlan.Proofs.Lowering.Reading
/-!
# The value of a guard text

A guard text is a conjunction of conditions, so it has a value once the variables have theirs
(`guardTextValue?`). The text of guards over identifiers always has one, and it is what the guards
ask for under their convention; under the opposite convention the same text stands for the guards
with their flags negated the other way round (`Guard.value_of_expression`).
-/

namespace LoadPlan

variable {σ : Store} {convention : GuardNegation}

instance (c : Condition) : Decidable (c.Holds σ) :=
  match c with
  | .isFalse x => inferInstanceAs (Decidable (σ.flag x = false))
  | .isTrue x => inferInstanceAs (Decidable (σ.flag x = true))
  | .isPositive x => inferInstanceAs (Decidable (0 < σ.counter x))

instance (g : Guard) : Decidable (g.Holds convention σ) :=
  decidable_of_iff _ (Guard.holds_condition g)

/-- **The value of a guard text**: that of the conjunction it reads as. A text that does not read
has none. -/
def guardTextValue? (σ : Store) (text : String) : Option Bool :=
  (conditions? text).map fun cs => decide (∀ c ∈ cs, c.Holds σ)

/-- The other way to mark guards. -/
def GuardNegation.opposite : GuardNegation → GuardNegation
  | prefixUnnegated => prefixNegated
  | prefixNegated => prefixUnnegated

namespace Guard

/-- A boolean guard negated the other way round. A counter is asked for in one way only. -/
def flip (g : Guard) : Guard :=
  match g.parameter.kind with
  | .boolean => { g with negate := !g.negate }
  | .integer => g

/-- A guard asks for an unset flag where it is marked. -/
theorem asks_eq_false_iff (g : Guard) :
    g.asks convention = false ↔
      (convention = .prefixUnnegated ∧ g.negate = false) ∨
        (convention = .prefixNegated ∧ g.negate = true) := by
  cases convention <;> simp [asks]

/-- The text of guards over identifiers has the value of their conjunction. -/
theorem guardTextValue?_expression {guards : List Guard}
    (h : ∀ u ∈ guards, Text.IsIdentifier u.parameter.name) :
    guardTextValue? σ (expression convention guards) =
      some (decide (∀ u ∈ guards, u.Holds convention σ)) := by
  have hall : (∀ c ∈ guards.map (condition convention), c.Holds σ) ↔
      ∀ u ∈ guards, u.Holds convention σ := by
    simp only [List.forall_mem_map, holds_condition]
  rw [guardTextValue?, conditions?_expression h, Option.map_some, decide_eq_decide.2 hall]

/-- A mark stays where both the convention and the guard are turned. -/
theorem marks_opposite (negate : Bool) :
    convention.opposite.marks (!negate) = convention.marks negate := by
  cases convention <;> simp [GuardNegation.opposite, GuardNegation.marks]

/-- So does the term. -/
theorem term_flip (g : Guard) : g.flip.term convention.opposite = g.term convention := by
  obtain ⟨⟨name, kind, source, target⟩, negate⟩ := g
  cases kind with
  | boolean => simp only [flip, term, marks_opposite]
  | integer => rfl

/-- And so does the text. -/
theorem expression_flip (guards : List Guard) :
    expression convention.opposite (guards.map flip) = expression convention guards := by
  rw [expression, expression, List.map_map]
  exact congrArg _ (List.map_congr_left fun g _ => term_flip g)

/-- **The text of guards means the guards.** A boolean guard asks for an unset flag if it is not
negated and the convention marks those, or negated and the convention marks these; else it asks for
a set one. If all names are identifiers, the text has the value of the conjunction of the guards,
whatever the variables are. Whatever the names are, guards that are negated the other way round have
the same text under the opposite convention. -/
theorem value_of_expression (convention : GuardNegation) :
    (∀ g : Guard, g.asks convention = false ↔
      (convention = .prefixUnnegated ∧ g.negate = false) ∨
        (convention = .prefixNegated ∧ g.negate = true)) ∧
    (∀ guards : List Guard, (∀ u ∈ guards, Text.IsIdentifier u.parameter.name) → ∀ σ,
      guardTextValue? σ (expression convention guards) =
        some (decide (∀ u ∈ guards, u.Holds convention σ))) ∧
    ∀ guards : List Guard,
      expression convention.opposite (guards.map flip) = expression convention guards :=
  ⟨asks_eq_false_iff, fun _ h _ => guardTextValue?_expression h, expression_flip⟩

/-- Guards of both kinds, one of them negated. -/
def checkoutGuards : List Guard :=
  [⟨⟨"loggedIn", .boolean, none, none⟩, true⟩, ⟨⟨"banned_2", .boolean, none, none⟩, false⟩,
    ⟨⟨"items", .integer, none, none⟩, true⟩]

/-- They are met by a user who is logged in, not banned, and has put something into the cart. -/
theorem value_of_expression_checkout :
    (∀ u ∈ checkoutGuards, Text.IsIdentifier u.parameter.name) ∧
      expression .prefixUnnegated checkoutGuards = "loggedIn && !banned_2 && items > 0" ∧
      guardTextValue? ⟨(· == "loggedIn"), fun _ => 3⟩ "loggedIn && !banned_2 && items > 0" =
        some true ∧
      guardTextValue? ⟨(· == "loggedIn"), fun _ => 0⟩ "loggedIn && !banned_2 && items > 0" =
        some false := by
  have hnames : ∀ u ∈ checkoutGuards, Text.IsIdentifier u.parameter.name := by decide
  have htext : expression .prefixUnnegated checkoutGuards =
      "loggedIn && !banned_2 && items > 0" := by decide
  obtain ⟨-, hvalue, -⟩ := value_of_expression .prefixUnnegated
  refine ⟨hnames, htext, ?_, ?_⟩
  · rw [← htext, hvalue checkoutGuards hnames]
    decide
  · rw [← htext, hvalue checkoutGuards hnames]
    decide

end Guard

end LoadPlan
