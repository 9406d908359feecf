import LoadPlan.Proofs.Files.Frame
import LoadPlan.Proofs.Json.Plans
/-!
# Written plans are read back

A compiled plan is written to a file, and read back from it field by field, if the relative
frequencies of its mix are finite. They come from the model unchecked, and a frequency that is not
finite is written as null, which no plan can have: then the file holds no plan at all
(`Compiler.plan_read_back_iff`).
-/

namespace LoadPlan

open Document

/-- The plan in a file, if the file holds one. -/
def FileTree.readPlan? (tree : FileTree) (path : String) : Option Plan :=
  (tree.readText? path).bind (Json.decode plan?)

/-- A text that was saved is read. -/
theorem FileTree.readText?_of_save_done {tree tree' : FileTree} {path text : String}
    (h : tree.save path text.toUTF8 = (tree', true)) : tree'.readText? path = some text := by
  have hvalid : text.toUTF8.IsValidUTF8 := text.isValidUTF8
  rw [readText?, read?_of_save_done h, Option.bind_some, String.fromUTF8?, dif_pos hvalid]
  rfl

/-- A plan is written if its text is saved. -/
theorem Plan.save_eq_ok_iff {p : Plan} {path : String} {tree tree' : FileTree} :
    p.save path tree = (tree', .ok ()) ↔
      tree.save path (Json.ofPlan Json.float p).pretty.toUTF8 = (tree', true) := by
  unfold save
  generalize (Json.ofPlan Json.float p).pretty.toUTF8 = content
  rcases tree.save path content with ⟨saved, _ | _⟩ <;> simp

namespace Compiler

variable {c : Compiler} {m : LoadModel} {stamp : Stamp} {path : String} {tree last : FileTree}
  {artifact : Artifact}

/-- A model that is compiled into a file is compiled, and its plan is written after that. -/
theorem exists_save_of_compileInto (h : c.compileInto stamp m path tree = (last, .ok artifact)) :
    ∃ made, c.compile stamp m tree = (made, .ok artifact) ∧
      artifact.plan.save path made = (last, .ok ()) := by
  unfold compileInto at h
  rcases hcompile : c.compile stamp m tree with ⟨made, e | a⟩
  · rw [hcompile] at h
    cases h
  · rw [hcompile] at h
    dsimp only at h
    rcases hsave : a.plan.save path made with ⟨saved, e | ⟨⟩⟩
    · rw [hsave] at h
      cases h
    · rw [hsave] at h
      cases h
      exact ⟨made, rfl, hsave⟩

/-- So it is, if the plan can be made and written. -/
theorem compileInto_of_save {made : FileTree}
    (hcompile : c.compile stamp m tree = (made, .ok artifact))
    (hsave : artifact.plan.save path made = (last, .ok ())) :
    c.compileInto stamp m path tree = (last, .ok artifact) := by
  rw [compileInto, hcompile]
  simp only [hsave]

/-- The plan of a model gets the entries of its mix. -/
theorem compile_of_mix {plan : Plan} {made : FileTree} {report : MixReport}
    (hprepare : c.prepare stamp m = .ok plan)
    (hmix : c.matrices.writeMix m.session.services (m.session.initialService?.map (·.id)) m.mix
      c.config.outputDir tree = (made, report)) :
    c.compile stamp m tree = (made, .ok ⟨{ plan with mix := report.entries }, report⟩) := by
  rw [compile, hprepare]
  simp only [hmix]

section Written

variable (hts : c.transformers.Fit) (hm : m.session.Sized) (htime : stamp.time.Valid)
  (h : c.compileInto stamp m path tree = (last, .ok artifact))
include hts hm htime h

/-- What is in the file is decoded. -/
theorem readPlan?_eq_decode : artifact.plan.Fits ∧ last.readPlan? path =
    Json.decode plan? (Json.ofPlan Json.float artifact.plan).pretty := by
  obtain ⟨made, hcompile, hsave⟩ := exists_save_of_compileInto h
  refine ⟨fits_of_compile hts hm htime hcompile, ?_⟩
  rw [FileTree.readPlan?, FileTree.readText?_of_save_done (Plan.save_eq_ok_iff.1 hsave),
    Option.bind_some]

/-- With finite frequencies the plan is in the file. -/
theorem readPlan?_of_finite (hmix : ∀ e ∈ artifact.plan.mix, Decimal.isFinite e.relativeFrequency) :
    last.readPlan? path = some artifact.plan := by
  obtain ⟨hfits, hread⟩ := readPlan?_eq_decode hts hm htime h
  rw [hread]
  exact (Json.restores_plan 0 hfits hmix).decode (by decide)

/-- With another one there is no plan in the file. -/
theorem readPlan?_of_not_finite {e : MixEntry} (he : e ∈ artifact.plan.mix)
    (hfrequency : ¬ Decimal.isFinite e.relativeFrequency) : last.readPlan? path = none := by
  obtain ⟨hfits, hread⟩ := readPlan?_eq_decode hts hm htime h
  rw [hread]
  exact (Json.refuses_plan 0 hfits he hfrequency).decode (by decide)

/-- **A written plan is read back exactly if the frequencies of its mix are finite**; otherwise
nothing is read. They are finite if those of the model are. -/
theorem plan_read_back_iff :
    (last.readPlan? path = some artifact.plan ↔
      ∀ e ∈ artifact.plan.mix, Decimal.isFinite e.relativeFrequency) ∧
    (last.readPlan? path = some artifact.plan ∨ last.readPlan? path = none) ∧
    ((∀ w ∈ m.mix.models, Decimal.isFinite w.relativeFrequency) →
      last.readPlan? path = some artifact.plan) := by
  have hread := readPlan?_of_finite hts hm htime h
  by_cases hmix : ∀ e ∈ artifact.plan.mix, Decimal.isFinite e.relativeFrequency
  · have hplan := hread hmix
    exact ⟨⟨fun _ => hmix, fun _ => hplan⟩, .inl hplan, fun _ => hplan⟩
  · obtain ⟨e, he, hfrequency⟩ : ∃ e ∈ artifact.plan.mix, ¬ Decimal.isFinite e.relativeFrequency := by
      by_contra hnone
      exact hmix fun e he => by_contra fun hfrequency => hnone ⟨e, he, hfrequency⟩
    have hlost := readPlan?_of_not_finite hts hm htime h he hfrequency
    refine ⟨⟨fun hplan => ?_, fun hall => absurd hall hmix⟩, .inr hlost, fun hmodels => ?_⟩
    · rw [hlost] at hplan
      cases hplan
    · obtain ⟨made, hcompile, -⟩ := exists_save_of_compileInto h
      obtain ⟨w, hw, -, hsame⟩ := exists_weighted_of_mem_mix hcompile he
      rw [hsame] at hfrequency
      exact absurd (hmodels w hw) hfrequency

end Written

end Compiler

/-! ## A desk with one request -/

/-- A mix of one model. -/
theorem MatrixBuilder.writeMix_singleton (b : MatrixBuilder) (services : List Service)
    (initial : Option String) (w : WeightedModel) (dir : String) (tree : FileTree) :
    b.writeMix services initial ⟨[w]⟩ dir tree =
      ((b.produce services initial dir tree w.model).1,
        ⟨[outcome w (b.produce services initial dir tree w.model).2]⟩) := by
  simp [writeMix, produceAll]

/-- Users ask once and again. -/
def deskSession : SessionGraph where
  services := [.named "Desk"]
  states := [⟨"Desk", .single (.httpGet "ask" "desk.local" "/"), [⟨0, .state 0, [], []⟩]⟩]
  initial := some 0

/-- They leave after every second time. -/
def patient : BehaviorModel :=
  ⟨"patient", "patient.csv", [⟨"Desk", [⟨0.5, .exit, .normal 1.0 1.0⟩]⟩], some 0⟩

/-- The desk, with patient users of some relative frequency. -/
def desk (frequency : Float) : LoadModel := ⟨"desk", deskSession, ⟨[⟨frequency, patient⟩]⟩⟩

/-- An hour into the fourth of October 2024. -/
def deskStamp : Stamp := ⟨"desk-1", ⟨20000, 3600, 5000000⟩⟩

/-- The plan of the desk. -/
def deskPlan (frequency : Float) : Plan where
  id := "desk-1"
  name := "desk"
  generatedAt := deskStamp.time
  initial := 0
  nodes := [⟨0, "Desk", "Desk", [⟨"ask", .http .get "http" "desk.local" none "/" [], none⟩],
    [⟨0, "Desk", "", "", true⟩]⟩]
  mix := [⟨"patient", frequency, "./patient.csv"⟩]
  warnings := []

/-- The matrix of the users, written to an empty working directory. -/
def patientMatrix : FileTree × Except MatrixError String :=
  Compiler.standard.matrices.produce deskSession.services (some "Desk") "." (.fresh ["home"]) patient

theorem patientMatrix_written : patientMatrix.2 = .ok "./patient.csv" := by
  have hpath : patientMatrix.2.toOption = some "./patient.csv" := by decide +kernel
  cases hresult : patientMatrix.2 with
  | error e =>
    rw [hresult] at hpath
    cases hpath
  | ok path =>
    rw [hresult] at hpath
    cases hpath
    rfl

/-- The desk compiles into every path that a file can be saved under, whatever the frequency is. -/
theorem exists_compileInto_desk (frequency : Float) {path : String}
    (hpath : (patientMatrix.1.save path .empty).2 = true) : ∃ last artifact,
    Compiler.standard.compileInto deskStamp (desk frequency) path (.fresh ["home"]) =
      (last, .ok artifact) ∧ artifact.plan = deskPlan frequency := by
  have hlower : deskSession.lower .builtIn .prefixUnnegated =
      .ok ⟨0, (deskPlan frequency).nodes, []⟩ := by cbv
  have hprepare : Compiler.standard.prepare deskStamp (desk frequency) =
      .ok { deskPlan frequency with mix := [] } := by
    refine check_bind_eq_ok_iff.2 ⟨rfl, check_bind_eq_ok_iff.2 ⟨rfl, ?_⟩⟩
    exact bind_eq_ok_iff.2 ⟨_, hlower, rfl⟩
  have hmix : Compiler.standard.matrices.writeMix deskSession.services (some "Desk")
      ⟨[⟨frequency, patient⟩]⟩ "." (.fresh ["home"]) =
        (patientMatrix.1, ⟨[.written ⟨"patient", frequency, "./patient.csv"⟩]⟩) := by
    rw [MatrixBuilder.writeMix_singleton]
    change (patientMatrix.1, MixReport.mk [MatrixBuilder.outcome _ patientMatrix.2]) = _
    rw [patientMatrix_written]
    rfl
  have hsave : (patientMatrix.1.save path
      (Json.ofPlan Json.float (deskPlan frequency)).pretty.toUTF8).2 = true := by
    rw [FileTree.save_done_congr _ _ _ .empty]
    exact hpath
  refine ⟨_, _, Compiler.compileInto_of_save (Compiler.compile_of_mix hprepare hmix)
    (Plan.save_eq_ok_iff.2 (Prod.ext rfl hsave)), rfl⟩

/-- **With a finite frequency the plan of the desk is in its file**, here one outside the working
directory. -/
theorem plan_read_back_desk :
    Compiler.standard.transformers.Fit ∧ (desk 2.5).session.Sized ∧ deskStamp.time.Valid ∧
    ∃ last artifact, Compiler.standard.compileInto deskStamp (desk 2.5) "/plans/desk.json"
      (.fresh ["home"]) = (last, .ok artifact) ∧
        last.readPlan? "/plans/desk.json" = some artifact.plan := by
  have hsized : (desk 2.5).session.Sized := by decide +kernel
  have htime : deskStamp.time.Valid := by decide
  have hpath : (patientMatrix.1.save "/plans/desk.json" .empty).2 = true := by decide +kernel
  obtain ⟨last, artifact, h, -⟩ := exists_compileInto_desk 2.5 hpath
  have hmodels : ∀ w ∈ (desk 2.5).mix.models, Decimal.isFinite w.relativeFrequency := by
    decide +kernel
  exact ⟨Transformers.fit_builtIn, hsized, htime, last, artifact, h,
    (Compiler.plan_read_back_iff Transformers.fit_builtIn hsized htime h).2.2 hmodels⟩

/-- **With an infinite one nothing is**, although it is compiled. -/
theorem plan_lost_desk : ∃ last artifact,
    Compiler.standard.compileInto deskStamp (desk 1e999) "desk.json" (.fresh ["home"]) =
      (last, .ok artifact) ∧ last.readPlan? "desk.json" = none := by
  have hsized : (desk 1e999).session.Sized := by decide +kernel
  have htime : deskStamp.time.Valid := by decide
  have hfrequency : ¬ Decimal.isFinite 1e999 := by decide +kernel
  have hpath : (patientMatrix.1.save "desk.json" .empty).2 = true := by decide +kernel
  obtain ⟨last, artifact, h, hplan⟩ := exists_compileInto_desk 1e999 hpath
  refine ⟨last, artifact, h, ?_⟩
  have hentry : (⟨"patient", 1e999, "./patient.csv"⟩ : MixEntry) ∈ artifact.plan.mix := by
    rw [hplan]
    exact List.mem_singleton_self _
  exact Compiler.readPlan?_of_not_finite Transformers.fit_builtIn hsized htime h hentry hfrequency

end LoadPlan
