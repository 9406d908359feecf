import LoadPlan.Proofs.Document.Fits
import LoadPlan.Proofs.Json.Restoring
/-!
# Requests and parameters are restored

The parts of a model that lead nowhere: services, requests of every family, parameters with guards
and actions; and the targets that lead somewhere. A request is tagged with its family, so its fields
are restored from typed values.
-/

namespace LoadPlan

/-! ## Properties -/

namespace Properties

/-- A key that follows all others is put at the end. -/
theorem insertEntry_of_forall_lt {k : String} (v : String) {l : List (String × String)}
    (h : ∀ e ∈ l, e.1 < k) : insertEntry k v l = l ++ [(k, v)] := by
  induction l with
  | nil => rfl
  | cons e l ih =>
    obtain ⟨hlt, hmore⟩ := List.forall_mem_cons.1 h
    rw [insertEntry, if_neg (String.lt_asymm hlt), if_pos hlt, ih hmore, List.cons_append]

/-- Entries in the order of their keys are put one behind the other. -/
theorem entries_foldl_insert (l : List (String × String)) (p : Properties)
    (h : (p.entries ++ l).Pairwise fun a b => a.1 < b.1) :
    (l.foldl (fun p e => p.insert e.1 e.2) p).entries = p.entries ++ l := by
  induction l generalizing p with
  | nil => simp
  | cons e l ih =>
    have hlt : ∀ e' ∈ p.entries, e'.1 < e.1 := fun e' he' =>
      (List.pairwise_append.1 h).2.2 e' he' e List.mem_cons_self
    have hinsert : (p.insert e.1 e.2).entries = p.entries ++ [e] := insertEntry_of_forall_lt e.2 hlt
    rw [List.foldl_cons, ih _ (by simpa [hinsert] using h), hinsert]
    simp

/-- **Properties are the ones of their entries.** -/
theorem ofList_entries (p : Properties) : ofList p.entries = p := by
  have hentries : (ofList p.entries).entries = p.entries :=
    entries_foldl_insert p.entries empty p.sorted
  generalize ofList p.entries = q at hentries
  cases p
  cases q
  cases hentries
  rfl

end Properties

namespace Json

open Document

section Views

variable {σ : Type} [Source σ] [View σ] (height : Nat)

theorem restores_properties (p : Properties) : Restores (height + 1) (properties? (σ := σ))
    (record (p.entries.map fun e => (e.1, str e.2))) p where
  written := .record fun f hf => by
    obtain ⟨e, -, rfl⟩ := List.mem_map.1 hf
    exact .text e.2
  seen {depth} hroom := by
    obtain ⟨x, hx, hpairs⟩ := View.exists_pairs (σ := σ) p.entries (show depth < maxDepth by omega)
    refine ⟨x, hx, ?_⟩
    rw [Reads, properties?, hpairs, pure_bind, p.ofList_entries]

/-! ## Shapes of records

Records that differ in what they are fields of, or in the names of the fields, are restored by one
lemma. -/

section Shapes

variable {α β : Type} (first second : String)

theorem restores_two_texts (hne : first ≠ second) (make : String → String → β) (s t : String) :
    Restores (height + 1)
      (fun x : σ => do
        let r ← Source.record? [first, second] x
        return make (← r.required first text?) (← r.required second text?))
      (record (present [(first, some (str s)), (second, some (str t))])) (make s t) := by
  have htext := restores_str (σ := σ) height
  refine .record rfl (by simpa using hne) (.cons (htext _).clear (.cons (htext _).clear .nil))
    fun r hr => ?_
  rw [hr.required first (by simp) (htext s), pure_bind,
    hr.required second (by simp) (htext t), pure_bind]

theorem restores_text_list (hne : first ≠ second) (make : String → List α → β) (s : String)
    {read : σ → Reading α} {form : α → Json} {l : List α}
    (hl : Restores height (listOf read) (array form l) l) :
    Restores (height + 1)
      (fun x : σ => do
        let r ← Source.record? [first, second] x
        return make (← r.required first text?) (← r.defaulted second [] (listOf read)))
      (record (present [(first, some (str s)), listSlot second form l])) (make s l) := by
  have htext := restores_str (σ := σ) height s
  refine .record rfl (by simpa using hne) (.cons htext.clear (.cons_guard hl .nil)) fun r hr => ?_
  rw [hr.required first (by simp) htext, pure_bind, hr.list second (by simp) hl, pure_bind]

/-- The name of a type and properties for it. -/
theorem restores_type_properties (make : String → Properties → β) (name : String) (p : Properties) :
    Restores (height + 2)
      (fun x : σ => do
        let r ← Source.record? ["type_name", "properties"] x
        return make (← r.required "type_name" text?)
          (← r.defaulted "properties" .empty properties?))
      (record (present [("type_name", some (str name)), propertiesSlot p])) (make name p) := by
  have hname := restores_str (σ := σ) (height + 1) name
  have hproperties := restores_properties (σ := σ) height p
  refine .record rfl (by decide) (.cons hname.clear (.cons_guard hproperties .nil)) fun r hr => ?_
  rw [hr.required "type_name" (by simp) hname, pure_bind,
    hr.properties (by simp) hproperties, pure_bind]

/-- An envelope, where it goes and what it asks for. -/
theorem restores_envelope (make : String → String → String → β) (url action envelope : String) :
    Restores (height + 1)
      (fun x : σ => do
        let r ← Source.record? ["url", "soap_action", "envelope"] x
        return make (← r.required "url" text?) (← r.defaulted "soap_action" "" text?)
          (← r.required "envelope" text?))
      (record (present [("url", some (str url)), textSlot "soap_action" action,
        ("envelope", some (str envelope))])) (make url action envelope) := by
  have htext := restores_str (σ := σ) height
  refine .record rfl (by decide)
    (.cons (htext _).clear (.cons_guard (htext _) (.cons (htext _).clear .nil))) fun r hr => ?_
  rw [hr.required "url" (by simp) (htext url), pure_bind,
    hr.text "soap_action" (by simp) (htext action), pure_bind,
    hr.required "envelope" (by simp) (htext envelope), pure_bind]

end Shapes

/-! ## Services and requests -/

theorem restores_service (s : Service) :
    Restores (height + 1) (service? (σ := σ)) (ofService s) s :=
  restores_two_texts height "id" "name" (by decide) Service.mk s.id s.name

theorem restores_argument (a : Argument) :
    Restores (height + 1) (argument? (σ := σ)) (ofArgument a) a :=
  restores_two_texts height "name" "value" (by decide) Argument.mk a.name a.value

theorem restores_httpMethod (m : HttpMethod) :
    Restores height (httpMethod? (σ := σ)) (str m.name) m :=
  (restores_variant height _ _).bind (by cases m <;> rfl)

theorem restores_port {n : Nat} (hn : n < Nat.pow 2 16) :
    Restores height (port? (σ := σ)) (nat n) n :=
  restores_nat height hn (by decide)

theorem restores_assertion (p : String) :
    Restores (height + 1) (assertion? (σ := σ)) (record [("pattern", str p)]) p := by
  have hpattern := restores_str (σ := σ) height p
  have hform : record [("pattern", str p)] = record (present [("pattern", some (str p))]) := rfl
  rw [hform]
  exact .record rfl (by decide) (.cons hpattern.clear .nil) fun r hr =>
    hr.required "pattern" (by simp) hpattern

/-! ## Parameters, guards and actions -/

theorem exists_restores_kind (p : Parameter) : ∃ kind : String,
    Restores height (parameterKind? (σ := σ)) (str kind) p.kind ∧
      ofParameter p = record (present [("name", some (str p.name)), ("kind", some (str kind)),
        ("source", p.source.map str), ("target", p.target.map str)]) := by
  cases hkind : p.kind with
  | boolean =>
    exact ⟨"boolean", (restores_variant height _ _).bind rfl, by
      simp [ofParameter, hkind, optionField_eq, present_cons_cons]⟩
  | integer =>
    exact ⟨"integer", (restores_variant height _ _).bind rfl, by
      simp [ofParameter, hkind, optionField_eq, present_cons_cons]⟩

theorem restores_parameter (p : Parameter) :
    Restores (height + 1) (parameter? (σ := σ)) (ofParameter p) p := by
  have hname := restores_str (σ := σ) height p.name
  have hservice := restores_str (σ := σ) height
  obtain ⟨kind, hkind, hform⟩ := exists_restores_kind (σ := σ) height p
  rw [hform]
  refine .record rfl (by decide) (.cons hname.clear (.cons hkind.clear
    (.cons_map (fun s _ => hservice s) (.cons_map (fun s _ => hservice s) .nil)))) fun r hr => ?_
  rw [hr.required "name" (by simp) hname, pure_bind, hr.required "kind" (by simp) hkind, pure_bind,
    hr.optional "source" p.source (by simp) str_ne_null fun s _ => hservice s, pure_bind,
    hr.optional "target" p.target (by simp) str_ne_null fun s _ => hservice s, pure_bind]

theorem restores_guard (g : Guard) : Restores (height + 2) (guard? (σ := σ)) (ofGuard g) g := by
  have hparameter := restores_parameter (σ := σ) height g.parameter
  have hnegate := restores_bool (σ := σ) (height + 1) g.negate
  have hform : ofGuard g = record (present [("parameter", some (ofParameter g.parameter)),
    ("negate", some (.bool g.negate))]) := rfl
  rw [hform]
  refine .record rfl (by decide) (.cons hparameter.clear (.cons hnegate.clear .nil)) fun r hr => ?_
  rw [hr.required "parameter" (by simp) hparameter, pure_bind,
    hr.kept "negate" false (by simp) hnegate, pure_bind]

theorem restores_action (a : Action) : Restores (height + 2) (action? (σ := σ)) (ofAction a) a := by
  have hparameter := restores_parameter (σ := σ) height a.parameter
  have hform : ofAction a = record (present [("parameter", some (ofParameter a.parameter))]) := rfl
  rw [hform]
  refine .record rfl (by decide) (.cons hparameter.clear .nil) fun r hr => ?_
  rw [hr.required "parameter" (by simp) hparameter, pure_bind]

end Views

/-! ## Targets and requests -/

section Parts

variable (height : Nat)

theorem restores_target {t : Target} (h : t.Fits) :
    Restores (height + 1) (target? (σ := Nested)) (ofTarget t) t := by
  cases t with
  | exit => exact ⟨.text "exit", fun _ => ⟨_, rfl, rfl⟩⟩
  | state i =>
    have hwritten : Written (record [("state", nat i)]) := .record (by simpa using written_nat i)
    refine ⟨hwritten, fun {depth} hroom => ⟨⟨depth, ofTarget (.state i)⟩, rfl, ?_⟩⟩
    have htyped : typed? (maxDepth - depth) (ofTarget (.state i)) =
        some (.map [(.text "state", .natural i)]) := by
      rw [maxDepth_sub (by omega)]
      simp [ofTarget, record, typed?, typedFields?, nat, numberValue?_toDigits h]
    -- an index is looked for before the word
    have htarget : targetOfValue? (.map [(.text "state", .natural i)]) = some (.state i) := by
      have hindex : stateIndex? (.map [(.text "state", .natural i)]) = some i := if_pos h
      rw [targetOfValue?, hindex]
    have hvalue : TypedSource.value? (⟨depth, ofTarget (.state i)⟩ : Nested) =
        pure (.map [(.text "state", .natural i)]) := congrArg StateT.lift htyped
    rw [Reads, target?, hvalue, pure_bind, htarget]
    rfl

variable (className method url action envelope script typeName : String)

theorem restores_http (method : HttpMethod) (protocol domain path : String) {port : Option Nat}
    (hport : ∀ n ∈ port, n < Nat.pow 2 16) (parameters : List Argument) :
    Restores (height + 3) (requestKind? (σ := Nested))
      (ofRequestKind (.http method protocol domain port path parameters))
      (.http method protocol domain port path parameters) := by
  have htext := restores_str (σ := Value) (height + 2)
  have hmethod := restores_httpMethod (σ := Value) (height + 2) method
  have hport : ∀ n, port = some n → Restores (height + 2) (port? (σ := Value)) (nat n) n :=
    fun n hn => restores_port (height + 2) (hport n hn)
  have hparameters : Restores (height + 2) (listOf (argument? (σ := Value)))
    (array ofArgument parameters) parameters := .array fun a _ => restores_argument height a
  have hform : ofRequestKind (.http method protocol domain port path parameters) =
      record (("type", str "http") :: present [("method", some (str method.name)),
        ("protocol", some (str protocol)), ("domain", some (str domain)), ("port", port.map nat),
        ("path", some (str path)), listSlot "parameters" ofArgument parameters]) := by
    simp [ofRequestKind, optionField_eq, listField_eq, present_cons_cons]
  rw [hform]
  refine .tagged requestKindFields? (by simp [listSlot]) (.record rfl (by decide)
    (.cons hmethod.clear (.cons (htext _).clear (.cons (htext _).clear (.cons_map hport
      (.cons (htext _).clear (.cons_guard hparameters .nil)))))) fun r hr => ?_)
  rw [hr.required "method" (by simp) hmethod, pure_bind,
    hr.kept "protocol" _ (by simp) (htext protocol), pure_bind,
    hr.required "domain" (by simp) (htext domain), pure_bind,
    hr.optional "port" port (by simp) nat_ne_null hport, pure_bind,
    hr.required "path" (by simp) (htext path), pure_bind,
    hr.list "parameters" (by simp) hparameters, pure_bind]

theorem restores_java (arguments : List Argument) :
    Restores (height + 3) (requestKind? (σ := Nested)) (ofRequestKind (.java className arguments))
      (.java className arguments) := by
  have hform : ofRequestKind (.java className arguments) =
      record (("type", str "java") :: present [("class_name", some (str className)),
        listSlot "arguments" ofArgument arguments]) := by
    simp [ofRequestKind, listField_eq]
  rw [hform]
  exact .tagged requestKindFields? (by simp [listSlot])
    (restores_text_list (height + 2) "class_name" "arguments" (by decide) RequestKind.java className
      (.array fun a _ => restores_argument height a))

theorem restores_beanShell (parameters : List String) :
    Restores (height + 2) (requestKind? (σ := Nested))
      (ofRequestKind (.beanShell script parameters)) (.beanShell script parameters) := by
  have hform : ofRequestKind (.beanShell script parameters) =
      record (("type", str "beanshell") :: present [("script", some (str script)),
        listSlot "parameters" str parameters]) := by
    simp [ofRequestKind, listField_eq]
  rw [hform]
  exact .tagged requestKindFields? (by simp [listSlot])
    (restores_text_list (height + 1) "script" "parameters" (by decide) RequestKind.beanShell script
      (.array fun s _ => restores_str height s))

theorem restores_junit : Restores (height + 1) (requestKind? (σ := Nested))
    (ofRequestKind (.junit className method)) (.junit className method) := by
  have hform : ofRequestKind (.junit className method) =
    record (("type", str "junit") :: present [("class_name", some (str className)),
      ("method", some (str method))]) := rfl
  rw [hform]
  exact .tagged requestKindFields? (by simp)
    (restores_two_texts height "class_name" "method" (by decide) RequestKind.junit className method)

theorem restores_soap : Restores (height + 1) (requestKind? (σ := Nested))
    (ofRequestKind (.soap url action envelope)) (.soap url action envelope) := by
  have hform : ofRequestKind (.soap url action envelope) =
      record (("type", str "soap") :: present [("url", some (str url)),
        textSlot "soap_action" action, ("envelope", some (str envelope))]) := by
    simp [ofRequestKind, textField_eq, present_cons_cons]
  rw [hform]
  exact .tagged requestKindFields? (by simp [textSlot])
    (restores_envelope height RequestKind.soap url action envelope)

theorem restores_extension (properties : Properties) :
    Restores (height + 2) (requestKind? (σ := Nested))
      (ofRequestKind (.extension typeName properties)) (.extension typeName properties) := by
  have hform : ofRequestKind (.extension typeName properties) =
      record (("type", str "extension") :: present [("type_name", some (str typeName)),
        propertiesSlot properties]) := by
    simp [ofRequestKind, propertiesField_eq]
  rw [hform]
  exact .tagged requestKindFields? (by simp [propertiesSlot])
    (restores_type_properties height RequestKind.extension typeName properties)

/-- **Every family of requests is restored.** -/
theorem restores_requestKind {k : RequestKind} (h : k.Fits) :
    Restores (height + 3) (requestKind? (σ := Nested)) (ofRequestKind k) k := by
  cases k with
  | http method protocol domain port path parameters =>
    exact restores_http height method protocol domain path h parameters
  | java className arguments => exact restores_java height className arguments
  | beanShell script parameters => exact restores_beanShell (height + 1) script parameters
  | junit className method => exact restores_junit (height + 2) className method
  | soap url action envelope => exact restores_soap (height + 2) url action envelope
  | extension typeName properties => exact restores_extension (height + 1) typeName properties

theorem restores_request {r : Request} (h : r.kind.Fits) :
    Restores (height + 4) (request? (σ := Nested)) (ofRequest r) r := by
  have hid := restores_str (σ := Nested) (height + 3) r.id
  have hkind := restores_requestKind height h
  have hform : ofRequest r = record (present [("id", some (str r.id)),
    ("kind", some (ofRequestKind r.kind))]) := rfl
  rw [hform]
  refine .record rfl (by decide) (.cons hid.clear (.cons hkind.clear .nil)) fun r hr => ?_
  rw [hr.required "id" (by simp) hid, pure_bind, hr.required "kind" (by simp) hkind, pure_bind]

end Parts

end Json

end LoadPlan
