import LoadPlan.Proofs.Session.Sufficiency
/-!
# Protocol graphs made call by call

A protocol graph is made by `empty`, `single` or `linear` and changed by calls that refuse indices
it does not have. Whatever the calls, the graph is `Sound`: it refers to its own states only, and
starts somewhere exactly when it has a state (`Made.sound`). What a call does to a graph is said
here once, so that a run of calls is an induction over single ones (`Sound.perform`).
-/

namespace LoadPlan

/-- What a call leaves behind, and the error it returns. A call that fails leaves what was there. -/
def attempt {γ : Type} (g : γ) : Except ModelError γ → γ × Option ModelError
  | .ok g' => (g', none)
  | .error e => (g, some e)

/-- What holds before a call and of whatever it makes holds after it. -/
theorem attempt_keeps {γ : Type} {P : γ → Prop} {g : γ} {r : Except ModelError γ} (hg : P g)
    (hr : ∀ g', r = .ok g' → P g') : P (attempt g r).1 := by
  cases r with
  | ok g' => exact hr g' rfl
  | error e => exact hg

theorem attempt_failed {γ : Type} {g : γ} {r : Except ModelError γ}
    (h : (attempt g r).2.isSome) : (attempt g r).1 = g := by
  cases r with
  | ok g' => cases h
  | error e => rfl

/-- What stands in a list after one place is changed stood there before, or is what it became. -/
theorem mem_modify {α : Type} {f : α → α} {k : Nat} {l : List α} {a : α}
    (h : a ∈ l.modify k f) : a ∈ l ∨ ∃ b, l[k]? = some b ∧ a = f b := by
  obtain ⟨m, hm⟩ := List.mem_iff_getElem?.1 h
  rw [List.getElem?_modify] at hm
  obtain ⟨b, hb, hab⟩ := Option.map_eq_some_iff.1 hm
  split at hab
  · next hkm => exact .inr ⟨b, hkm ▸ hb, hab.symm⟩
  · exact .inl (hab ▸ List.mem_of_getElem? hb)

namespace ProtocolGraph

/-! ## Calls -/

/-- A call that changes a protocol graph. -/
inductive Call where
  /-- Add a state, which has no transitions yet. -/
  | addState (request : Request) (assertions : List String)
  | setInitial (i : Nat)
  | addTransition (source : Nat) (target : Target)

/-- The graph after a call, and the error the call returns. -/
def perform (g : ProtocolGraph) : Call → ProtocolGraph × Option ModelError
  | .addState request assertions => ((g.addState ⟨request, assertions, []⟩).1, none)
  | .setInitial i => attempt g (g.setInitial i)
  | .addTransition source target => attempt g (g.addTransition source target)

/-- The graph after some calls, failing or not. -/
def after (g : ProtocolGraph) (calls : List Call) : ProtocolGraph :=
  calls.foldl (fun g c => (g.perform c).1) g

/-- **A graph that calls have made**, from the empty graph, the graph of one request or the graph
of requests in a row. -/
inductive Made : ProtocolGraph → Prop
  | empty (calls : List Call) : Made (empty.after calls)
  | single (request : Request) (calls : List Call) : Made ((single request).after calls)
  | linear (requests : List Request) (calls : List Call) : Made ((linear requests).after calls)

/-! ## Requests in a row -/

section Row

variable {requests : List Request}

/-- The state of the request in place `k`, in a row that ends before place `n`. -/
def placed (n k : Nat) (r : Request) : ProtocolState :=
  ⟨r, [], if k + 1 < n then [.state (k + 1)] else []⟩

/-- It leads to the next place, if there is one. -/
theorem mem_placed_iff {n k j : Nat} {r : Request} :
    .state j ∈ (placed n k r).transitions ↔ j = k + 1 ∧ j < n := by
  rw [placed]
  split_ifs with hlt
  · rw [List.mem_singleton, Target.state.injEq]
    exact ⟨fun h => ⟨h, h ▸ hlt⟩, And.left⟩
  · rw [List.mem_nil_iff, false_iff]
    rintro ⟨rfl, hj⟩
    exact hlt hj

theorem length_chain (i : Nat) (requests : List Request) :
    (chain i requests).length = requests.length := by
  induction i, requests using chain.induct with
  | case1 => rfl
  | case2 => rfl
  | case3 i r rest hrest ih =>
    rw [chain, List.length_cons, List.length_cons, ih]
    exact hrest

theorem getElem?_chain (i k : Nat) (requests : List Request) :
    (chain i requests)[k]? = requests[k]?.map (placed (i + requests.length) (i + k)) := by
  induction i, requests using chain.induct generalizing k with
  | case1 => rfl
  | case2 i r => cases k <;> simp [chain, placed, ProtocolState.ofRequest]
  | case3 i r rest hrest ih =>
    have hpos : 0 < rest.length := List.length_pos_iff.2 hrest
    rw [chain]
    · cases k with
      | zero => simp [placed, hpos]
      | succ k =>
        rw [List.getElem?_cons_succ, ih, List.getElem?_cons_succ, List.length_cons]
        congr 2 <;> omega
    · exact hrest

/-- **The places of a row.** -/
theorem state?_linear (k : Nat) :
    (linear requests).state? k = requests[k]?.map (placed requests.length k) := by
  rw [state?, linear, getElem?_chain, Nat.zero_add, Nat.zero_add]

theorem length_states_linear : (linear requests).states.length = requests.length :=
  length_chain 0 requests

end Row

/-! ## What calls keep -/

/-- **A graph that refers to its own states only**, also where it has none. -/
structure Sound (g : ProtocolGraph) : Prop where
  wellFormed : g.WellFormed
  initial_lt : ∀ i, g.initial = some i → i < g.states.length

variable {g : ProtocolGraph}

/-- So it does not name an initial state without having one. -/
theorem Sound.not_hollow (hg : g.Sound) : ¬ g.Hollow := by
  rintro ⟨hstates, hsome⟩
  obtain ⟨i, hi⟩ := Option.isSome_iff_exists.1 hsome
  have hlt := hg.initial_lt i hi
  rw [hstates] at hlt
  cases hlt

theorem sound_empty : empty.Sound :=
  ⟨⟨fun h => absurd rfl h, fun _ hs => by cases hs⟩, fun _ hi => by cases hi⟩

theorem sound_linear (requests : List Request) : (linear requests).Sound := by
  have hclosed : ∀ s ∈ (linear requests).states, ∀ j, .state j ∈ s.transitions →
      j < (linear requests).states.length := by
    intro s hs j hj
    obtain ⟨k, hk⟩ := List.mem_iff_getElem?.1 hs
    obtain ⟨r, -, rfl⟩ := Option.map_eq_some_iff.1 ((state?_linear k).symm.trans hk)
    rw [length_states_linear]
    exact (mem_placed_iff.1 hj).2
  cases requests with
  | nil => exact sound_empty
  | cons r rest =>
    have hpos : 0 < (linear (r :: rest)).states.length := by simp [length_states_linear]
    exact ⟨⟨fun _ => ⟨0, rfl, hpos⟩, hclosed⟩, fun i hi => by cases hi; exact hpos⟩

theorem Sound.addState (hg : g.Sound) (request : Request) (assertions : List String) :
    (g.addState ⟨request, assertions, []⟩).1.Sound := by
  have hlength : (g.addState ⟨request, assertions, []⟩).1.states.length = g.states.length + 1 := by
    simp [ProtocolGraph.addState]
  have hinitial : ∀ i, g.initial.getD g.states.length = i → i < g.states.length + 1 := by
    rintro i rfl
    cases h : g.initial with
    | none => exact Nat.lt_succ_self _
    | some i => exact Nat.lt_succ_of_lt (hg.initial_lt i h)
  refine ⟨⟨fun _ => ⟨_, rfl, hlength ▸ hinitial _ rfl⟩, fun s hs j hj => ?_⟩, fun i hi => ?_⟩
  · rw [hlength]
    rcases List.mem_append.1 hs with hs | hs
    · exact Nat.lt_succ_of_lt (hg.wellFormed.closed s hs j hj)
    · rw [List.mem_singleton.1 hs] at hj
      cases hj
  · rw [hlength]
    exact hinitial i (Option.some.inj hi)

theorem Sound.setInitial (hg : g.Sound) {i : Nat} {g' : ProtocolGraph}
    (h : g.setInitial i = .ok g') : g'.Sound := by
  rw [ProtocolGraph.setInitial] at h
  split at h
  · next hi =>
    cases h
    exact ⟨⟨fun _ => ⟨i, rfl, hi⟩, hg.wellFormed.closed⟩, fun j hj => by cases hj; exact hi⟩
  · cases h

/-- A transition is added between states of the graph, or out of one. -/
theorem pushTransition_of_addTransition {source : Nat} {target : Target} {g' : ProtocolGraph}
    (h : g.addTransition source target = .ok g') :
    g' = g.pushTransition source target ∧ ∀ j, target = .state j → j < g.states.length := by
  cases target with
  | exit =>
    simp only [addTransition] at h
    split at h <;> cases h
    exact ⟨rfl, fun j hj => by cases hj⟩
  | state k =>
    simp only [addTransition] at h
    split at h
    · next hk =>
      split at h <;> cases h
      exact ⟨rfl, fun j hj => by cases hj; exact hk⟩
    · cases h

theorem Sound.addTransition (hg : g.Sound) {source : Nat} {target : Target} {g' : ProtocolGraph}
    (h : g.addTransition source target = .ok g') : g'.Sound := by
  obtain ⟨rfl, htarget⟩ := pushTransition_of_addTransition h
  have hlength : (g.pushTransition source target).states.length = g.states.length :=
    List.length_modify ..
  refine ⟨⟨fun hne => ?_, fun s hs j hj => ?_⟩, fun i hi => hlength ▸ hg.initial_lt i hi⟩
  · have hne' : g.states ≠ [] := fun h => hne (by simp [pushTransition, h])
    exact hlength ▸ hg.wellFormed.initial hne'
  · rw [hlength]
    rcases mem_modify hs with hs | ⟨r, hr, rfl⟩
    · exact hg.wellFormed.closed s hs j hj
    · rcases List.mem_append.1 hj with hj | hj
      · exact hg.wellFormed.closed r (List.mem_of_getElem? hr) j hj
      · exact htarget j (List.mem_singleton.1 hj).symm

/-- **A call keeps a graph sound**, failing or not. -/
theorem Sound.perform (hg : g.Sound) (c : Call) : (g.perform c).1.Sound := by
  cases c with
  | addState request assertions => exact hg.addState request assertions
  | setInitial i => exact attempt_keeps hg fun _ => hg.setInitial
  | addTransition source target => exact attempt_keeps hg fun _ => hg.addTransition

theorem Sound.after (hg : g.Sound) (calls : List Call) : (g.after calls).Sound := by
  induction calls generalizing g with
  | nil => exact hg
  | cons c rest ih => exact ih (hg.perform c)

/-- **Whatever the calls, the graph is sound.** -/
theorem Made.sound (h : Made g) : g.Sound := by
  cases h with
  | empty calls => exact sound_empty.after calls
  | single request calls => exact (sound_linear [request]).after calls
  | linear requests calls => exact (sound_linear requests).after calls

end ProtocolGraph

end LoadPlan
