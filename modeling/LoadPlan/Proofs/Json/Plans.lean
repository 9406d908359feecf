import LoadPlan.Document.Plan
import LoadPlan.Json.Plan
import LoadPlan.Proofs.Json.Refusing
import LoadPlan.Proofs.Json.Requests
import LoadPlan.Proofs.Plan.Fits
/-!
# Plans are restored

Part by part up to whole plans: a plan that fits is restored if the frequencies of its mix are
finite (`restores_plan`), and refused if one is not (`refuses_plan`). Samplers and warnings are
tagged, so their fields are restored from typed values.
-/

namespace LoadPlan.Json

open Document

variable (height : Nat)

/-! ## Samplers -/

section Samplers

variable (className method url action envelope script parameters typeName : String)

theorem restores_httpSampler (method : HttpMethod) (protocol domain path : String)
    {port : Option Nat} (hport : ∀ n ∈ port, n < Nat.pow 2 16) (arguments : List Argument) :
    Restores (height + 3) (sampler? (σ := Nested))
      (ofSampler (.http method protocol domain port path arguments))
      (.http method protocol domain port path arguments) := by
  have htext := restores_str (σ := Value) (height + 2)
  have hmethod := restores_httpMethod (σ := Value) (height + 2) method
  have hport : ∀ n, port = some n → Restores (height + 2) (port? (σ := Value)) (nat n) n :=
    fun n hn => restores_port (height + 2) (hport n hn)
  have harguments : Restores (height + 2) (listOf (argument? (σ := Value)))
    (array ofArgument arguments) arguments := .array fun a _ => restores_argument height a
  have hform : ofSampler (.http method protocol domain port path arguments) =
      record (("sampler", str "http") :: present [("method", some (str method.name)),
        ("protocol", some (str protocol)), ("domain", some (str domain)), ("port", port.map nat),
        ("path", some (str path)), listSlot "arguments" ofArgument arguments]) := by
    simp [ofSampler, optionField_eq, listField_eq, present_cons_cons]
  rw [hform]
  refine .tagged samplerFields? (by simp [listSlot]) (.record rfl (by decide)
    (.cons hmethod.clear (.cons (htext _).clear (.cons (htext _).clear (.cons_map hport
      (.cons (htext _).clear (.cons_guard harguments .nil)))))) fun r hr => ?_)
  rw [hr.required "method" (by simp) hmethod, pure_bind,
    hr.required "protocol" (by simp) (htext protocol), pure_bind,
    hr.required "domain" (by simp) (htext domain), pure_bind,
    hr.optional "port" port (by simp) nat_ne_null hport, pure_bind,
    hr.required "path" (by simp) (htext path), pure_bind,
    hr.list "arguments" (by simp) harguments, pure_bind]

theorem restores_javaSampler (arguments : List Argument) :
    Restores (height + 3) (sampler? (σ := Nested)) (ofSampler (.java className arguments))
      (.java className arguments) := by
  have hform : ofSampler (.java className arguments) =
      record (("sampler", str "java") :: present [("class_name", some (str className)),
        listSlot "arguments" ofArgument arguments]) := by
    simp [ofSampler, listField_eq]
  rw [hform]
  exact .tagged samplerFields? (by simp [listSlot])
    (restores_text_list (height + 2) "class_name" "arguments" (by decide) Sampler.java className
      (.array fun a _ => restores_argument height a))

theorem restores_beanShellSampler : Restores (height + 1) (sampler? (σ := Nested))
    (ofSampler (.beanShell script parameters)) (.beanShell script parameters) := by
  have htext := restores_str (σ := Value) height
  have hform : ofSampler (.beanShell script parameters) =
      record (("sampler", str "beanshell") :: present [("script", some (str script)),
        textSlot "parameters" parameters]) := by
    simp [ofSampler, textField_eq]
  rw [hform]
  refine .tagged samplerFields? (by simp [textSlot]) (.record rfl (by decide)
    (.cons (htext _).clear (.cons_guard (htext _) .nil)) fun r hr => ?_)
  rw [hr.required "script" (by simp) (htext script), pure_bind,
    hr.text "parameters" (by simp) (htext parameters), pure_bind]

theorem restores_junitSampler : Restores (height + 1) (sampler? (σ := Nested))
    (ofSampler (.junit className method)) (.junit className method) := by
  have hform : ofSampler (.junit className method) =
    record (("sampler", str "junit") :: present [("class_name", some (str className)),
      ("method", some (str method))]) := rfl
  rw [hform]
  exact .tagged samplerFields? (by simp)
    (restores_two_texts height "class_name" "method" (by decide) Sampler.junit className method)

theorem restores_soapSampler : Restores (height + 1) (sampler? (σ := Nested))
    (ofSampler (.soap url action envelope)) (.soap url action envelope) := by
  have hform : ofSampler (.soap url action envelope) =
      record (("sampler", str "soap") :: present [("url", some (str url)),
        textSlot "soap_action" action, ("envelope", some (str envelope))]) := by
    simp [ofSampler, textField_eq, present_cons_cons]
  rw [hform]
  exact .tagged samplerFields? (by simp [textSlot])
    (restores_envelope height Sampler.soap url action envelope)

theorem restores_customSampler (properties : Properties) :
    Restores (height + 2) (sampler? (σ := Nested)) (ofSampler (.custom typeName properties))
      (.custom typeName properties) := by
  have hform : ofSampler (.custom typeName properties) =
      record (("sampler", str "custom") :: present [("type_name", some (str typeName)),
        propertiesSlot properties]) := by
    simp [ofSampler, propertiesField_eq]
  rw [hform]
  exact .tagged samplerFields? (by simp [propertiesSlot])
    (restores_type_properties height Sampler.custom typeName properties)

/-- **Every family of samplers is restored.** -/
theorem restores_sampler {s : Sampler} (h : s.Fits) :
    Restores (height + 3) (sampler? (σ := Nested)) (ofSampler s) s := by
  cases s with
  | http method protocol domain port path arguments =>
    exact restores_httpSampler height method protocol domain path h arguments
  | java className arguments => exact restores_javaSampler height className arguments
  | beanShell script parameters =>
    exact restores_beanShellSampler (height + 2) script parameters
  | junit className method => exact restores_junitSampler (height + 2) className method
  | soap url action envelope => exact restores_soapSampler (height + 2) url action envelope
  | custom typeName properties => exact restores_customSampler (height + 1) typeName properties

end Samplers

/-! ## Nodes -/

theorem restores_assertionNode (a : AssertionNode) :
    Restores (height + 2) (assertionNode? (σ := Nested)) (ofAssertionNode a) a := by
  have hname := restores_str (σ := Nested) (height + 1) a.name
  have hpatterns : Restores (height + 1) (listOf (text? (σ := Nested))) (array str a.patterns)
    a.patterns := .array fun p _ => restores_str height p
  have hform : ofAssertionNode a = record (present [("name", some (str a.name)),
    ("patterns", some (array str a.patterns))]) := rfl
  rw [hform]
  refine .record rfl (by decide) (.cons hname.clear (.cons hpatterns.clear .nil)) fun r hr => ?_
  rw [hr.required "name" (by simp) hname, pure_bind,
    hr.required "patterns" (by simp) hpatterns, pure_bind]

theorem restores_requestNode {n : RequestNode} (h : n.sampler.Fits) :
    Restores (height + 4) (requestNode? (σ := Nested)) (ofRequestNode n) n := by
  have hname := restores_str (σ := Nested) (height + 3) n.name
  have hsampler := restores_sampler height h
  have hassertion : ∀ a, n.assertion = some a →
      Restores (height + 3) (assertionNode? (σ := Nested)) (ofAssertionNode a) a :=
    fun a _ => restores_assertionNode (height + 1) a
  have hpresent : ∀ a, ofAssertionNode a ≠ .null := fun a ha => by cases ha
  have hform : ofRequestNode n = record (present [("name", some (str n.name)),
      ("sampler", some (ofSampler n.sampler)), ("assertion", n.assertion.map ofAssertionNode)]) := by
    simp [ofRequestNode, optionField_eq]
  rw [hform]
  refine .record rfl (by decide) (.cons hname.clear (.cons hsampler.clear
    (.cons_map hassertion .nil))) fun r hr => ?_
  rw [hr.required "name" (by simp) hname, pure_bind,
    hr.required "sampler" (by simp) hsampler, pure_bind,
    hr.optional "assertion" n.assertion (by simp) hpresent hassertion, pure_bind]

theorem restores_transitionEntry {e : TransitionEntry} (h : e.target < wordBound) :
    Restores (σ := Nested) (height + 1) transitionEntry? (ofTransitionEntry e) e := by
  have htext := restores_str (σ := Nested) height
  have htarget := restores_index (σ := Nested) height h
  have henabled := restores_bool (σ := Nested) height e.enabled
  have hform : ofTransitionEntry e = record (present [("target", some (nat e.target)),
    ("target_name", some (str e.targetName)), ("guard", some (str e.guard)),
    ("action", some (str e.action)), ("enabled", some (.bool e.enabled))]) := rfl
  rw [hform]
  refine .record rfl (by decide) (.cons htarget.clear (.cons (htext _).clear (.cons (htext _).clear
    (.cons (htext _).clear (.cons henabled.clear .nil))))) fun r hr => ?_
  rw [hr.required "target" (by simp) htarget, pure_bind,
    hr.required "target_name" (by simp) (htext e.targetName), pure_bind,
    hr.required "guard" (by simp) (htext e.guard), pure_bind,
    hr.required "action" (by simp) (htext e.action), pure_bind,
    hr.required "enabled" (by simp) henabled, pure_bind]

theorem restores_sessionNode {n : SessionNode} (h : n.Fits) :
    Restores (height + 6) (sessionNode? (σ := Nested)) (ofSessionNode n) n := by
  have htext := restores_str (σ := Nested) (height + 5)
  have hid := restores_index (σ := Nested) (height + 5) h.id
  have hrequests : Restores (height + 5) (listOf (requestNode? (σ := Nested)))
    (array ofRequestNode n.requests) n.requests :=
      .array fun r hr => restores_requestNode height (h.requests r hr)
  have htransitions : Restores (σ := Nested) (height + 5) (listOf transitionEntry?)
    (array ofTransitionEntry n.transitions) n.transitions :=
      .array fun e he => restores_transitionEntry (height + 3) (h.transitions e he)
  have hform : ofSessionNode n = record (present [("id", some (nat n.id)),
    ("name", some (str n.name)), ("service", some (str n.service)),
    ("requests", some (array ofRequestNode n.requests)),
    ("transitions", some (array ofTransitionEntry n.transitions))]) := rfl
  rw [hform]
  refine .record rfl (by decide) (.cons hid.clear (.cons (htext _).clear (.cons (htext _).clear
    (.cons hrequests.clear (.cons htransitions.clear .nil))))) fun r hr => ?_
  rw [hr.required "id" (by simp) hid, pure_bind,
    hr.required "name" (by simp) (htext n.name), pure_bind,
    hr.required "service" (by simp) (htext n.service), pure_bind,
    hr.required "requests" (by simp) hrequests, pure_bind,
    hr.required "transitions" (by simp) htransitions, pure_bind]

/-! ## Warnings -/

/-- **Every kind of warning is restored.** -/
theorem restores_warning {w : Warning} (h : w.Fits) :
    Restores (height + 1) (warning? (σ := Nested)) (ofWarning w) w := by
  have htext := restores_str (σ := Value) height
  cases w with
  | nonLinearProtocol service request branches =>
    have hbranches := restores_index (σ := Value) height h
    have hform : ofWarning (.nonLinearProtocol service request branches) =
      record (("warning", str "non_linear_protocol") :: present [("service", some (str service)),
        ("request", some (str request)), ("branches", some (nat branches))]) := rfl
    rw [hform]
    refine .tagged warningFields? (by simp) (.record rfl (by decide) (.cons (htext _).clear
      (.cons (htext _).clear (.cons hbranches.clear .nil))) fun r hr => ?_)
    rw [hr.required "service" (by simp) (htext service), pure_bind,
      hr.required "request" (by simp) (htext request), pure_bind,
      hr.required "branches" (by simp) hbranches, pure_bind]
  | duplicateTransition source target =>
    have hform : ofWarning (.duplicateTransition source target) =
      record (("warning", str "duplicate_transition") :: present [("source", some (str source)),
        ("target", some (str target))]) := rfl
    rw [hform]
    exact .tagged warningFields? (by simp)
      (restores_two_texts height "source" "target" (by decide) Warning.duplicateTransition source
        target)

/-! ## Mixes -/

/-- The slots of an entry of a mix. -/
def mixEntrySlots (e : MixEntry) : List (String × Option Json) :=
  [("name", some (str e.name)), ("relative_frequency", some (float e.relativeFrequency)),
    ("filename", some (str e.filename))]

theorem restores_mixEntry {e : MixEntry} (h : Decimal.isFinite e.relativeFrequency) :
    Restores (σ := Nested) (height + 1) mixEntry? (ofMixEntry float e) e := by
  have htext := restores_str (σ := Nested) height
  have hfrequency := restores_float (σ := Nested) height h
  have hform : ofMixEntry float e = record (present (mixEntrySlots e)) := rfl
  rw [hform]
  refine .record rfl (by decide) (.cons (htext _).clear (.cons hfrequency.clear
    (.cons (htext _).clear .nil))) fun r hr => ?_
  rw [hr.required "name" (by simp [mixEntrySlots]) (htext e.name), pure_bind,
    hr.required "relative_frequency" (by simp [mixEntrySlots]) hfrequency, pure_bind,
    hr.required "filename" (by simp [mixEntrySlots]) (htext e.filename), pure_bind]

/-- **An entry is refused if its frequency is not finite.** -/
theorem refuses_mixEntry {e : MixEntry} (h : ¬ Decimal.isFinite e.relativeFrequency) :
    Refuses (height + 1) mixEntry? (ofMixEntry float e) := by
  have htext := restores_str (σ := Nested) height
  have hfrequency := refuses_float height h
  have hform : ofMixEntry float e = record (present (mixEntrySlots e)) := rfl
  rw [hform]
  refine .record rfl (by decide) (.cons (htext _).clear (.cons hfrequency.clear
    (.cons (htext _).clear .nil))) fun r hr => ?_
  refine bind_failure _ fun name => ?_
  rw [hr.required_refused "relative_frequency" (by simp [mixEntrySlots]) hfrequency, failure_bind]

/-- Refused or not, an entry is written. -/
theorem written_mixEntry (e : MixEntry) : Written (ofMixEntry float e) := by
  by_cases h : Decimal.isFinite e.relativeFrequency
  · exact (restores_mixEntry 0 h).written
  · exact (refuses_mixEntry 0 h).written

/-! ## Plans -/

theorem restores_timestamp {t : Timestamp} (h : t.Valid) :
    Restores height (timestamp? (σ := Nested)) (str t.write) t :=
  (restores_str height t.write).bind (by rw [Timestamp.read_write h, liftM_some])

/-- The slots of a plan. -/
def planSlots (p : Plan) : List (String × Option Json) :=
  [("id", some (str p.id)), ("name", some (str p.name)),
    ("generated_at", some (str p.generatedAt.write)), ("initial", some (nat p.initial)),
    ("session_nodes", some (array ofSessionNode p.nodes)),
    ("behavior_mix", some (array (ofMixEntry float) p.mix)),
    listSlot "warnings" ofWarning p.warnings]

theorem ofPlan_eq (p : Plan) : ofPlan float p = record (present (planSlots p)) := by
  simp [ofPlan, planSlots, listField_eq]

section Plans

variable {p : Plan} (h : p.Fits)
include h

theorem restores_nodes : Restores (height + 7) (listOf (sessionNode? (σ := Nested)))
    (array ofSessionNode p.nodes) p.nodes :=
  .array fun n hn => restores_sessionNode height (h.nodes n hn)

theorem restores_warnings : Restores (height + 7) (listOf (warning? (σ := Nested)))
    (array ofWarning p.warnings) p.warnings :=
  .array fun w hw => restores_warning (height + 5) (h.warnings w hw)

theorem clear_planSlots (hmix : Clear Nested (height + 7) (array (ofMixEntry float) p.mix)) :
    ClearSlots Nested (height + 7) (planSlots p) := by
  have htext := fun s => (restores_str (σ := Nested) (height + 7) s).clear
  have hinitial := (restores_index (σ := Nested) (height + 7) h.initial).clear
  have hnodes := (restores_nodes height h).clear
  exact .cons (htext _) (.cons (htext _) (.cons (htext _) (.cons hinitial (.cons hnodes
    (.cons hmix (.cons_guard (restores_warnings height h) .nil))))))

/-- **A plan is restored** if the frequencies of its mix are finite. -/
theorem restores_plan (hmix : ∀ e ∈ p.mix, Decimal.isFinite e.relativeFrequency) :
    Restores (height + 8) (plan? (σ := Nested)) (ofPlan float p) p := by
  have htext := restores_str (σ := Nested) (height + 7)
  have htime := restores_timestamp (height + 7) h.generatedAt
  have hinitial := restores_index (σ := Nested) (height + 7) h.initial
  have hnodes := restores_nodes height h
  have hentries : Restores (σ := Nested) (height + 7) (listOf mixEntry?)
    (array (ofMixEntry float) p.mix) p.mix :=
      .array fun e he => restores_mixEntry (height + 5) (hmix e he)
  rw [ofPlan_eq]
  refine .record rfl (by decide) (clear_planSlots height h hentries.clear) fun r hr => ?_
  rw [hr.required "id" (by simp [planSlots]) (htext p.id), pure_bind,
    hr.required "name" (by simp [planSlots]) (htext p.name), pure_bind,
    hr.required "generated_at" (by simp [planSlots]) htime, pure_bind,
    hr.required "initial" (by simp [planSlots]) hinitial, pure_bind,
    hr.required "session_nodes" (by simp [planSlots]) hnodes, pure_bind,
    hr.kept "behavior_mix" [] (by simp [planSlots]) hentries, pure_bind,
    hr.list "warnings" (by simp [planSlots]) (restores_warnings height h), pure_bind]

/-- **A plan is refused** if a frequency of its mix is not finite. -/
theorem refuses_plan {e : MixEntry} (he : e ∈ p.mix)
    (hfrequency : ¬ Decimal.isFinite e.relativeFrequency) :
    Refuses (height + 8) (plan? (σ := Nested)) (ofPlan float p) := by
  have hentries : Refuses (height + 7) (listOf mixEntry?)
    (array (ofMixEntry float) p.mix) :=
      .array (fun e _ => written_mixEntry e) he (refuses_mixEntry (height + 5) hfrequency)
  rw [ofPlan_eq]
  refine .record rfl (by decide) (clear_planSlots height h hentries.clear) fun r hr => ?_
  -- the mix is the sixth field
  refine bind_failure _ fun id => bind_failure _ fun name => bind_failure _ fun time =>
    bind_failure _ fun initial => bind_failure _ fun nodes => ?_
  rw [hr.defaulted_refused "behavior_mix" [] (by simp [planSlots]) hentries, failure_bind]

end Plans

end LoadPlan.Json
