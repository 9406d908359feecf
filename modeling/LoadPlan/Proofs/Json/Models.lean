import LoadPlan.Document.Loading
import LoadPlan.Proofs.Json.Requests
/-!
# Load models are restored

Graph by graph up to whole models, and from there to the text: a model that fits is read back from
the JSON it is written as (`LoadModel.read_written_json`).
-/

namespace LoadPlan

namespace Json

open Document

section Parts

variable (height : Nat)

/-! ## Protocol graphs -/

theorem restores_protocolTransition {t : Target} (h : t.Fits) :
    Restores (height + 2) (protocolTransition? (σ := Nested)) (record [("target", ofTarget t)])
      t := by
  have htarget := restores_target height h
  have hform : record [("target", ofTarget t)] = record (present [("target", some (ofTarget t))]) :=
    rfl
  rw [hform]
  exact .record rfl (by decide) (.cons htarget.clear .nil) fun r hr =>
    hr.required "target" (by simp) htarget

theorem restores_protocolState {s : ProtocolState} (h : s.Fits) :
    Restores (height + 5) (protocolState? (σ := Nested)) (ofProtocolState s) s := by
  have hrequest := restores_request height h.request
  have hassertions : Restores (height + 4) (listOf (assertion? (σ := Nested)))
      (array (fun p => record [("pattern", str p)]) s.assertions) s.assertions :=
    .array fun p _ => restores_assertion (height + 2) p
  have htransitions : Restores (height + 4) (listOf (protocolTransition? (σ := Nested)))
      (array (fun t => record [("target", ofTarget t)]) s.transitions) s.transitions :=
    .array fun t ht => restores_protocolTransition (height + 1) (h.transitions t ht)
  have hform : ofProtocolState s = record (present [("request", some (ofRequest s.request)),
      listSlot "assertions" (fun p => record [("pattern", str p)]) s.assertions,
      listSlot "transitions" (fun t => record [("target", ofTarget t)]) s.transitions]) := by
    simp [ofProtocolState, listField_eq, present_cons_cons]
  rw [hform]
  refine .record rfl (by decide) (.cons hrequest.clear (.cons_guard hassertions
    (.cons_guard htransitions .nil))) fun r hr => ?_
  rw [hr.required "request" (by simp) hrequest, pure_bind,
    hr.list "assertions" (by simp) hassertions, pure_bind,
    hr.list "transitions" (by simp) htransitions, pure_bind]

theorem restores_protocolGraph {g : ProtocolGraph} (h : g.Fits) :
    Restores (height + 7) (protocolGraph? (σ := Nested)) (ofProtocolGraph g) g := by
  have hstates : Restores (height + 6) (listOf (protocolState? (σ := Nested)))
    (array ofProtocolState g.states) g.states :=
      .array fun s hs => restores_protocolState height (h.states s hs)
  have hinitial := restores_initial (σ := Nested) (height + 6) h.initial
  have hform : ofProtocolGraph g = record (present [
      ("states", some (array ofProtocolState g.states)), ("initial", g.initial.map nat)]) := by
    simp [ofProtocolGraph, optionField_eq]
  rw [hform]
  refine .record rfl (by decide) (.cons hstates.clear (.cons_map hinitial .nil)) fun r hr => ?_
  rw [hr.kept "states" [] (by simp) hstates, pure_bind,
    hr.optional "initial" g.initial (by simp) nat_ne_null hinitial, pure_bind]

/-! ## Session graphs -/

theorem restores_sessionTransition {t : SessionTransition} (h : t.Fits) :
    Restores (height + 4) (sessionTransition? (σ := Nested)) (ofSessionTransition t) t := by
  have hsource := restores_index (σ := Nested) (height + 3) h.source
  have htarget := restores_target (height + 2) h.target
  have hguards : Restores (height + 3) (listOf (guard? (σ := Nested))) (array ofGuard t.guards)
    t.guards := .array fun g _ => restores_guard height g
  have hactions : Restores (height + 3) (listOf (action? (σ := Nested))) (array ofAction t.actions)
    t.actions := .array fun a _ => restores_action height a
  have hform : ofSessionTransition t = record (present [("source", some (nat t.source)),
      ("target", some (ofTarget t.target)), listSlot "guards" ofGuard t.guards,
      listSlot "actions" ofAction t.actions]) := by
    simp [ofSessionTransition, listField_eq, present_cons_cons]
  rw [hform]
  refine .record rfl (by decide) (.cons hsource.clear (.cons htarget.clear (.cons_guard hguards
    (.cons_guard hactions .nil)))) fun r hr => ?_
  rw [hr.required "source" (by simp) hsource, pure_bind,
    hr.required "target" (by simp) htarget, pure_bind,
    hr.list "guards" (by simp) hguards, pure_bind, hr.list "actions" (by simp) hactions, pure_bind]

theorem restores_sessionState {s : SessionState} (h : s.Fits) :
    Restores (height + 8) (sessionState? (σ := Nested)) (ofSessionState s) s := by
  have hservice := restores_str (σ := Nested) (height + 7) s.service
  have hprotocol := restores_protocolGraph height h.protocol
  have htransitions : Restores (height + 7) (listOf (sessionTransition? (σ := Nested)))
    (array ofSessionTransition s.transitions) s.transitions :=
      .array fun t ht => restores_sessionTransition (height + 2) (h.transitions t ht)
  have hform : ofSessionState s = record (present [("service", some (str s.service)),
      ("protocol", some (ofProtocolGraph s.protocol)),
      listSlot "transitions" ofSessionTransition s.transitions]) := by
    simp [ofSessionState, listField_eq]
  rw [hform]
  refine .record rfl (by decide) (.cons hservice.clear (.cons hprotocol.clear
    (.cons_guard htransitions .nil))) fun r hr => ?_
  rw [hr.required "service" (by simp) hservice, pure_bind,
    hr.kept "protocol" .empty (by simp) hprotocol, pure_bind,
    hr.list "transitions" (by simp) htransitions, pure_bind]

theorem restores_sessionGraph {g : SessionGraph} (h : g.Fits) :
    Restores (height + 10) (sessionGraph? (σ := Nested)) (ofSessionGraph g) g := by
  have hservices : Restores (height + 9) (listOf (service? (σ := Nested)))
    (array ofService g.services) g.services := .array fun s _ => restores_service (height + 7) s
  have hstates : Restores (height + 9) (listOf (sessionState? (σ := Nested)))
    (array ofSessionState g.states) g.states :=
      .array fun s hs => restores_sessionState height (h.states s hs)
  have hinitial := restores_initial (σ := Nested) (height + 9) h.initial
  have hform : ofSessionGraph g = record (present [("services", some (array ofService g.services)),
      ("states", some (array ofSessionState g.states)), ("initial", g.initial.map nat)]) := by
    simp [ofSessionGraph, optionField_eq]
  rw [hform]
  refine .record rfl (by decide) (.cons hservices.clear (.cons hstates.clear
    (.cons_map hinitial .nil))) fun r hr => ?_
  rw [hr.required "services" (by simp) hservices, pure_bind,
    hr.kept "states" [] (by simp) hstates, pure_bind,
    hr.optional "initial" g.initial (by simp) nat_ne_null hinitial, pure_bind]

/-! ## Behavior mixes -/

/-- **Every family of think times is restored.** -/
theorem restores_thinkTime {t : ThinkTime} (h : t.Fits) :
    Restores (height + 1) (thinkTime? (σ := Nested)) (ofThinkTime float t) t := by
  cases t with
  | normal mean deviation =>
    obtain ⟨hmean, hdeviation⟩ := h
    have hmean := restores_float (σ := Value) height hmean
    have hdeviation := restores_float (σ := Value) height hdeviation
    have hform : ofThinkTime float (.normal mean deviation) =
      record (("type", str "normal") :: present [("mean", some (float mean)),
        ("deviation", some (float deviation))]) := rfl
    rw [hform]
    refine .tagged thinkTimeFields? (by simp) (.record rfl (by decide)
      (.cons hmean.clear (.cons hdeviation.clear .nil)) fun r hr => ?_)
    rw [hr.required "mean" (by simp) hmean, pure_bind,
      hr.required "deviation" (by simp) hdeviation, pure_bind]
  | uniform least greatest =>
    obtain ⟨hleast, hgreatest⟩ := h
    have hleast := restores_float (σ := Value) height hleast
    have hgreatest := restores_float (σ := Value) height hgreatest
    have hform : ofThinkTime float (.uniform least greatest) =
      record (("type", str "uniform") :: present [("min", some (float least)),
        ("max", some (float greatest))]) := rfl
    rw [hform]
    refine .tagged thinkTimeFields? (by simp) (.record rfl (by decide)
      (.cons hleast.clear (.cons hgreatest.clear .nil)) fun r hr => ?_)
    rw [hr.required "min" (by simp) hleast, pure_bind,
      hr.required "max" (by simp) hgreatest, pure_bind]
  | extension typeName =>
    have hname := restores_str (σ := Value) height typeName
    have hform : ofThinkTime float (.extension typeName) =
      record (("type", str "extension") :: present [("type_name", some (str typeName))]) := rfl
    rw [hform]
    refine .tagged thinkTimeFields? (by simp) (.record rfl (by decide)
      (.cons hname.clear .nil) fun r hr => ?_)
    rw [hr.required "type_name" (by simp) hname, pure_bind]

theorem restores_markovTransition {t : MarkovTransition} (h : t.Fits) :
    Restores (height + 2) (markovTransition? (σ := Nested)) (ofMarkovTransition float t) t := by
  have hprobability := restores_float (σ := Nested) (height + 1) h.probability
  have htarget := restores_target height h.target
  have hthinkTime := restores_thinkTime height h.thinkTime
  have hform : ofMarkovTransition float t = record (present [
    ("probability", some (float t.probability)), ("target", some (ofTarget t.target)),
    ("think_time", some (ofThinkTime float t.thinkTime))]) := rfl
  rw [hform]
  refine .record rfl (by decide) (.cons hprobability.clear (.cons htarget.clear
    (.cons hthinkTime.clear .nil))) fun r hr => ?_
  rw [hr.required "probability" (by simp) hprobability, pure_bind,
    hr.required "target" (by simp) htarget, pure_bind,
    hr.required "think_time" (by simp) hthinkTime, pure_bind]

theorem restores_markovState {s : MarkovState} (h : ∀ t ∈ s.transitions, t.Fits) :
    Restores (height + 4) (markovState? (σ := Nested)) (ofMarkovState float s) s := by
  have hservice := restores_str (σ := Nested) (height + 3) s.service
  have htransitions : Restores (height + 3) (listOf (markovTransition? (σ := Nested)))
    (array (ofMarkovTransition float) s.transitions) s.transitions :=
      .array fun t ht => restores_markovTransition height (h t ht)
  have hform : ofMarkovState float s = record (present [("service", some (str s.service)),
      listSlot "transitions" (ofMarkovTransition float) s.transitions]) := by
    simp [ofMarkovState, listField_eq]
  rw [hform]
  refine .record rfl (by decide) (.cons hservice.clear (.cons_guard htransitions .nil))
    fun r hr => ?_
  rw [hr.required "service" (by simp) hservice, pure_bind,
    hr.list "transitions" (by simp) htransitions, pure_bind]

theorem restores_behaviorModel {m : BehaviorModel} (h : m.Fits) :
    Restores (height + 6) (behaviorModel? (σ := Nested)) (ofBehaviorModel float m) m := by
  have htext := restores_str (σ := Nested) (height + 5)
  have hstates : Restores (height + 5) (listOf (markovState? (σ := Nested)))
    (array (ofMarkovState float) m.states) m.states :=
      .array fun s hs => restores_markovState height (h.states s hs)
  have hinitial := restores_initial (σ := Nested) (height + 5) h.initial
  have hform : ofBehaviorModel float m = record (present [("name", some (str m.name)),
      ("filename", some (str m.filename)), ("states", some (array (ofMarkovState float) m.states)),
      ("initial", m.initial.map nat)]) := by
    simp [ofBehaviorModel, optionField_eq]
  rw [hform]
  refine .record rfl (by decide) (.cons (htext _).clear (.cons (htext _).clear (.cons hstates.clear
    (.cons_map hinitial .nil)))) fun r hr => ?_
  rw [hr.required "name" (by simp) (htext m.name), pure_bind,
    hr.required "filename" (by simp) (htext m.filename), pure_bind,
    hr.kept "states" [] (by simp) hstates, pure_bind,
    hr.optional "initial" m.initial (by simp) nat_ne_null hinitial, pure_bind]

theorem restores_weightedModel {w : WeightedModel} (h : w.Fits) :
    Restores (height + 7) (weightedModel? (σ := Nested)) (ofWeightedModel float w) w := by
  have hfrequency := restores_float (σ := Nested) (height + 6) h.relativeFrequency
  have hmodel := restores_behaviorModel height h.model
  have hform : ofWeightedModel float w = record (present [
    ("relative_frequency", some (float w.relativeFrequency)),
    ("model", some (ofBehaviorModel float w.model))]) := rfl
  rw [hform]
  refine .record rfl (by decide) (.cons hfrequency.clear (.cons hmodel.clear .nil)) fun r hr => ?_
  rw [hr.required "relative_frequency" (by simp) hfrequency, pure_bind,
    hr.required "model" (by simp) hmodel, pure_bind]

theorem restores_behaviorMix {m : BehaviorMix} (h : ∀ w ∈ m.models, w.Fits) :
    Restores (height + 9) (behaviorMix? (σ := Nested)) (ofBehaviorMix float m) m := by
  have hmodels : Restores (height + 8) (listOf (weightedModel? (σ := Nested)))
    (array (ofWeightedModel float) m.models) m.models :=
      .array fun w hw => restores_weightedModel height (h w hw)
  have hform : ofBehaviorMix float m = record (present [
    ("models", some (array (ofWeightedModel float) m.models))]) := rfl
  rw [hform]
  refine .record rfl (by decide) (.cons hmodels.clear .nil) fun r hr => ?_
  rw [hr.kept "models" [] (by simp) hmodels, pure_bind]

/-! ## Load models -/

theorem restores_loadModel {m : LoadModel} (h : m.Fits) :
    Restores (height + 11) (loadModel? (σ := Nested)) (ofLoadModel float m) m := by
  have hname := restores_str (σ := Nested) (height + 10) m.name
  have hsession := restores_sessionGraph height h.session
  have hmix := restores_behaviorMix (height + 1) h.mix
  have hform : ofLoadModel float m = record (present [("name", some (str m.name)),
    ("session", some (ofSessionGraph m.session)),
    ("behavior_mix", some (ofBehaviorMix float m.mix))]) := rfl
  rw [hform]
  refine .record rfl (by decide) (.cons hname.clear (.cons hsession.clear (.cons hmix.clear .nil)))
    fun r hr => ?_
  rw [hr.required "name" (by simp) hname, pure_bind,
    hr.required "session" (by simp) hsession, pure_bind,
    hr.kept "behavior_mix" .empty (by simp) hmix, pure_bind]

end Parts

end Json

/-- **A model is read back from its JSON.** Every part of it comes back: services, graphs with
indices that may be those of no state, requests and think times of every family, and texts of any
characters. -/
theorem LoadModel.read_written_json {m : LoadModel} (h : m.Fits) :
    read .json (Json.ofLoadModel Json.float m).pretty = .ok m := by
  have hdecode := (Json.restores_loadModel 0 h).decode (by decide)
  rw [read]
  simp only [hdecode]

/-- A model with a dangling index, texts to escape, and many kinds of parts. -/
def coveredShop : LoadModel where
  name := "shop \"\u00fc\n\\\"."
  session :=
    { services := [⟨"home", "Home"⟩, .named ""]
      states := [{
        service := "home"
        protocol := ⟨[
          ⟨⟨"a", .http .patch "https" "shop" (some 65535) "/" [⟨"q", ""⟩]⟩, ["[0-9]+"],
            [.exit, .state 7]⟩,
          ⟨⟨"b", .http .get Request.defaultProtocol "shop" none "/" []⟩, [], []⟩,
          ⟨⟨"c", .java "shop.Cart" []⟩, [], []⟩, ⟨⟨"d", .beanShell "exit" ["", "type"]⟩, [], []⟩,
          ⟨⟨"e", .junit "shop.Test" "all"⟩, [], []⟩, ⟨⟨"f", .soap "shop" "" "<a/>"⟩, [], []⟩,
          ⟨⟨"g", .extension "mqtt" (.ofList [("type", "topic"), ("", "")])⟩, [], []⟩], some 3⟩
        transitions := [⟨0, .state 9, [⟨⟨"cart", .integer, some "home", none⟩, true⟩],
          [⟨⟨"paid", .boolean, none, none⟩⟩]⟩] }]
      initial := none }
  mix := ⟨[⟨0.3, ⟨"users", "users.csv", [⟨"home", [⟨0.1, .exit, .normal 1e300 (-0.0)⟩,
    ⟨5e-324, .state 4, .uniform 2 3.5⟩, ⟨1, .state 0, .extension "burst"⟩]⟩], some 0⟩⟩]⟩

theorem LoadModel.read_written_json_coveredShop : coveredShop.Fits ∧
    LoadModel.read .json (Json.ofLoadModel Json.float coveredShop).pretty = .ok coveredShop := by
  have hfits : coveredShop.Fits := by decide +kernel
  exact ⟨hfits, LoadModel.read_written_json hfits⟩

end LoadPlan
