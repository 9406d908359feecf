import LoadPlan.Document.Source
import LoadPlan.Model
import Mathlib.Tactic.MkIffOfInductiveProp
/-!
# Models that fit a document

Documents give an index a machine word and a port two bytes, and have no text for a double that is
not finite. A model fits if its numbers do. Nothing is asked of its texts, and an index need not be
that of a state.
-/

namespace LoadPlan

open Document (wordBound)

/-- The index fits a word. -/
def Target.Fits : Target → Prop
  | .state i => i < wordBound
  | .exit => True

instance : ∀ t : Target, Decidable t.Fits
  | .state i => inferInstanceAs (Decidable (i < wordBound))
  | .exit => .isTrue trivial

/-- The port fits two bytes. -/
def RequestKind.Fits : RequestKind → Prop
  | .http _ _ _ port _ _ => ∀ n ∈ port, n < Nat.pow 2 16
  | _ => True

instance : ∀ k : RequestKind, Decidable k.Fits
  | .http _ _ _ port _ _ => inferInstanceAs (Decidable (∀ n ∈ port, n < Nat.pow 2 16))
  | .java .. | .beanShell .. | .junit .. | .soap .. | .extension .. => .isTrue trivial

/-- The parameters of the distribution are finite. -/
def ThinkTime.Fits : ThinkTime → Prop
  | .normal mean deviation => Decimal.isFinite mean ∧ Decimal.isFinite deviation
  | .uniform least greatest => Decimal.isFinite least ∧ Decimal.isFinite greatest
  | .extension _ => True

instance : ∀ t : ThinkTime, Decidable t.Fits
  | .normal mean deviation =>
    inferInstanceAs (Decidable (Decimal.isFinite mean ∧ Decimal.isFinite deviation))
  | .uniform least greatest =>
    inferInstanceAs (Decidable (Decimal.isFinite least ∧ Decimal.isFinite greatest))
  | .extension _ => .isTrue trivial

/-- A state of a protocol graph that fits. -/
@[mk_iff]
structure ProtocolState.Fits (s : ProtocolState) : Prop where
  request : s.request.kind.Fits
  transitions : ∀ t ∈ s.transitions, t.Fits

instance (s : ProtocolState) : Decidable s.Fits := decidable_of_iff' _ (ProtocolState.fits_iff s)

/-- A protocol graph that fits. -/
@[mk_iff]
structure ProtocolGraph.Fits (g : ProtocolGraph) : Prop where
  states : ∀ s ∈ g.states, s.Fits
  initial : ∀ i ∈ g.initial, i < wordBound

instance (g : ProtocolGraph) : Decidable g.Fits := decidable_of_iff' _ (ProtocolGraph.fits_iff g)

/-- A transition of a session graph that fits. -/
@[mk_iff]
structure SessionTransition.Fits (t : SessionTransition) : Prop where
  source : t.source < wordBound
  target : t.target.Fits

instance (t : SessionTransition) : Decidable t.Fits :=
  decidable_of_iff' _ (SessionTransition.fits_iff t)

/-- A state of a session graph that fits. -/
@[mk_iff]
structure SessionState.Fits (s : SessionState) : Prop where
  protocol : s.protocol.Fits
  transitions : ∀ t ∈ s.transitions, t.Fits

instance (s : SessionState) : Decidable s.Fits := decidable_of_iff' _ (SessionState.fits_iff s)

/-- A session graph that fits. -/
@[mk_iff]
structure SessionGraph.Fits (g : SessionGraph) : Prop where
  states : ∀ s ∈ g.states, s.Fits
  initial : ∀ i ∈ g.initial, i < wordBound

instance (g : SessionGraph) : Decidable g.Fits := decidable_of_iff' _ (SessionGraph.fits_iff g)

/-- A transition of a behavior model that fits. -/
@[mk_iff]
structure MarkovTransition.Fits (t : MarkovTransition) : Prop where
  probability : Decimal.isFinite t.probability
  target : t.target.Fits
  thinkTime : t.thinkTime.Fits

instance (t : MarkovTransition) : Decidable t.Fits :=
  decidable_of_iff' _ (MarkovTransition.fits_iff t)

/-- A behavior model that fits. -/
@[mk_iff]
structure BehaviorModel.Fits (m : BehaviorModel) : Prop where
  states : ∀ s ∈ m.states, ∀ t ∈ s.transitions, t.Fits
  initial : ∀ i ∈ m.initial, i < wordBound

instance (m : BehaviorModel) : Decidable m.Fits := decidable_of_iff' _ (BehaviorModel.fits_iff m)

/-- A weighted model that fits. -/
@[mk_iff]
structure WeightedModel.Fits (w : WeightedModel) : Prop where
  relativeFrequency : Decimal.isFinite w.relativeFrequency
  model : w.model.Fits

instance (w : WeightedModel) : Decidable w.Fits := decidable_of_iff' _ (WeightedModel.fits_iff w)

/-- **A model that fits a document.** -/
@[mk_iff]
structure LoadModel.Fits (m : LoadModel) : Prop where
  session : m.session.Fits
  mix : ∀ w ∈ m.mix.models, w.Fits

instance (m : LoadModel) : Decidable m.Fits := decidable_of_iff' _ (LoadModel.fits_iff m)

end LoadPlan
