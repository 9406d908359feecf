import LoadPlan.Proofs.Matrix.Addressing
import LoadPlan.Proofs.Matrix.Shape
/-!
# Decoding the cells of a matrix

A cell is written as a probability and a think time, and cut at its first semicolon when it is read.
What is cut off is trimmed, so a think time comes back whole only if it has no white space at its
ends; the texts of the built-in formatters have none (`Formatter.trimmed_of_builtIn`). So every cell
of a matrix that they write decodes to what it was made of (`BehaviorModel.MadeOf`), and where the
labels of the header are all different, a lookup by two labels gives the probability that the model
has for the service and the column: `MatrixBuilder.cells_decode`.
-/

namespace LoadPlan

/-! ## Think times -/

/-- **The formatter writes no white space at either end** of a text. -/
def Formatter.Trimmed (f : Formatter) : Prop :=
  Text.trimBlanks f.default.toList = f.default.toList ∧
    ∀ t text, f.format t = some text → Text.trimBlanks text.toList = text.toList

namespace Formatter

/-- A letter and two numbers in brackets have none, whatever the numbers. -/
theorem trimBlanks_pair {letter : String} {c : Char} (hletter : letter.toList = [c])
    (hc : Text.isBlank c = false) (x y : Float) :
    Text.trimBlanks (pair letter x y).toList = (pair letter x y).toList := by
  have hchars : (pair letter x y).toList =
      c :: ('(' :: Decimal.plain.chars x ++ ' ' :: Decimal.plain.chars y) ++ [')'] := by
    simp [pair, Decimal.Style.write, hletter]
  rw [hchars]
  refine Text.trimBlanks_of_ends (fun d hd => ?_) fun d hd => ?_
  · obtain rfl : c = d := Option.some.inj hd
    exact hc
  · rw [List.getLast?_concat] at hd
    obtain rfl : ')' = d := Option.some.inj hd
    rfl

/-- The built-in formatters write trimmed texts. -/
theorem trimmed_of_builtIn {kind : ThinkTimeKind} {f : Formatter}
    (h : Formatters.builtIn.get? kind = some f) : f.Trimmed := by
  rcases Formatters.eq_of_get?_builtIn h with rfl | rfl
  · refine ⟨by decide, fun t text htext => ?_⟩
    cases t with
    | normal mean deviation =>
      cases htext
      exact trimBlanks_pair rfl rfl mean deviation
    | uniform | extension => cases htext
  · refine ⟨by decide, fun t text htext => ?_⟩
    cases t with
    | uniform least greatest =>
      cases htext
      exact trimBlanks_pair rfl rfl least greatest
    | normal | extension => cases htext

end Formatter

/-- A cell is cut into the probability and the think time it was written from. -/
theorem Cell.split?_write_trimmed {p : Float} (hp : Decimal.isFinite p) {thinkTime : String}
    (htrimmed : Text.trimBlanks thinkTime.toList = thinkTime.toList) :
    split? (write p thinkTime) = some (p, thinkTime) := by
  rw [split?_write hp, Text.trimBlanks_cons (by decide), htrimmed, String.ofList_toList]

/-! ## Cells -/

namespace BehaviorModel

/-- **What a cell is made of**: the probability of the transition that feeds it and the text of its
think time, or zero and the default text if no transition does. -/
inductive MadeOf (m : BehaviorModel) (f : Formatter) (service : String) (column : Column) :
    Float → String → Prop
  | fed {s : MarkovState} {k : ℕ} {t : MarkovTransition} {text : String} :
      m.StandsFor service s → m.Feeds s column k t → f.format t.thinkTime = some text →
      MadeOf m f service column t.probability text
  | unfed : (∀ s k t, m.StandsFor service s → ¬ m.Feeds s column k t) →
      MadeOf m f service column 0.0 f.default

variable {m : BehaviorModel} {services : List Service} {f : Formatter} {service : String}
  {column : Column}

/-- **A cell that is made of what a build finds decodes to what it is to be made of.** -/
theorem exists_madeOf_of_cell (hmodel : m.validate services = .ok ()) (hf : f.Trimmed)
    {cell : String}
    (h : MatrixBuilder.cell m f (m.transitionBetween? service column) = .ok cell) :
    ∃ p text, m.MadeOf f service column p text ∧ Cell.split? cell = some (p, text) := by
  rcases MatrixBuilder.cell_eq_ok_iff.1 h with ⟨hfound, rfl⟩ | ⟨t, text, hfound, htext, rfl⟩
  · have hzero : Decimal.isFinite 0.0 := Decimal.isFinite_of_isProbability (by decide)
    exact ⟨0.0, f.default, .unfed (transitionBetween?_eq_none_iff.1 hfound),
      Cell.split?_write_trimmed hzero hf.1⟩
  · obtain ⟨s, k, hs, ht⟩ := transitionBetween?_eq_some_iff.1 hfound
    have hfinite := Decimal.isFinite_of_isProbability
      (isProbability_of_transitionBetween? hmodel hfound)
    exact ⟨t.probability, text, .fed hs ht htext,
      Cell.split?_write_trimmed hfinite (hf.2 _ _ htext)⟩

end BehaviorModel

namespace MatrixBuilder

variable {config : MatrixConfig} {services : List Service} {initial : Option String}
  {model : BehaviorModel} {m : BehaviorMatrix}

/-- **Cells decode to what they were written from.** In a matrix with the built-in formatters, every
cell of a service and a column is cut into exactly the probability and the think time text that it
is made of. If the labels of the header are all different, the probability that is looked up under
the label of a service and the label of a column is the one that the model has for the two. -/
theorem cells_decode (h : build ⟨config, .builtIn⟩ services initial model = .ok m) :
    ∃ f, Chooses ⟨config, .builtIn⟩ model f ∧
      (∀ (i : ℕ) s, services[i]? = some s → ∃ row, m.body[i]? = some row ∧
        ∀ (j : ℕ) column, (Column.all services)[j]? = some column → ∃ cell p text,
          row[j + 1]? = some cell ∧ model.MadeOf f s.id column p text ∧
            Cell.split? cell = some (p, text)) ∧
      (m.header.Nodup → ∀ s ∈ services,
        ∀ c ∈ labelledColumns ⟨config, .builtIn⟩ services initial, ∃ p text,
          model.MadeOf f s.id c.1 p text ∧
            m.probability? (label ⟨config, .builtIn⟩ initial s) c.2 = some p) := by
  obtain ⟨-, hmodel, f, hf, -⟩ := build_eq_ok_iff.1 h
  obtain ⟨kind, hkind⟩ := exists_get?_of_formatterFor hf
  have htrimmed : f.Trimmed := Formatter.trimmed_of_builtIn hkind
  refine ⟨f, formatterFor_eq_ok_iff.1 hf, fun i s hs => ?_, fun hnodup s hs c hc => ?_⟩
  · obtain ⟨row, hrow, hmade⟩ := exists_row_of_build h hf hs
    refine ⟨row, hrow, fun j column hj => ?_⟩
    obtain ⟨cell, hcell, hshown⟩ := exists_cell_of_row hmade hj
    obtain ⟨p, text, hof, hsplit⟩ := BehaviorModel.exists_madeOf_of_cell hmodel htrimmed hshown
    exact ⟨cell, p, text, hcell, hof, hsplit⟩
  · have hfinds : m.FindsAll := (BehaviorMatrix.findsAll_iff_labelsTell fun _ =>
      length_eq_of_build h).2 (labelsTell_of_nodup h hnodup)
    obtain ⟨cell, hrendered, hcell⟩ :=
      addressable_iff_labelledColumns.1 ((addressable_iff_findsAll h).2 hfinds) s hs c hc
    rw [rendering_eq hf] at hrendered
    obtain ⟨p, text, hof, hsplit⟩ := BehaviorModel.exists_madeOf_of_cell hmodel htrimmed hrendered
    exact ⟨p, text, hof, by rw [BehaviorMatrix.probability?, hcell, Option.bind_some, hsplit]; rfl⟩

/-- A model with the least probability there is, and one that is a negative zero. -/
def drifter : BehaviorModel where
  name := "drifter"
  filename := "drifter.csv"
  states := [
    ⟨"a", [⟨.ofBits 1, .state 1, .uniform 0.5 1.0e21⟩, ⟨.ofBits 0x8000000000000000, .exit,
      .uniform 1.0e-7 2.0⟩]⟩,
    ⟨"b", [⟨1.0e-5, .exit, .uniform 1.0 2.0⟩]⟩]
  initial := some 0

/-- Both are read from its matrix to the bit. -/
theorem cells_decode_drifter :
    ∃ m, build ⟨.standard, .builtIn⟩ [.named "a", .named "b"] (some "a") drifter = .ok m ∧
      m.rows = [["", "a*", "b", "$"],
        ["a*", "0.0; u(0 0)", "5e-324; u(0.5 1000000000000000000000)", "-0.0; u(0.0000001 2)"],
        ["b", "0.0; u(0 0)", "0.0; u(0 0)", "1e-5; u(1 2)"]] ∧
      (m.probability? "a*" "b").map Float.toBits = some 1 ∧
      (m.probability? "a*" "$").map Float.toBits = some 0x8000000000000000 ∧
      ∃ f, Chooses ⟨.standard, .builtIn⟩ drifter f ∧ ∃ p text,
        drifter.MadeOf f "a" .exit p text ∧ m.probability? "a*" "$" = some p := by
  have hshown : (build ⟨.standard, .builtIn⟩ [.named "a", .named "b"] (some "a")
      drifter).toOption.map (fun m => (m.rows, (m.probability? "a*" "b").map Float.toBits,
        (m.probability? "a*" "$").map Float.toBits)) =
      some ([["", "a*", "b", "$"],
        ["a*", "0.0; u(0 0)", "5e-324; u(0.5 1000000000000000000000)", "-0.0; u(0.0000001 2)"],
        ["b", "0.0; u(0 0)", "0.0; u(0 0)", "1e-5; u(1 2)"]], some 1, some 0x8000000000000000) := by
    decide +kernel
  obtain ⟨m, hbuilt, hshown⟩ := exists_eq_ok_of_toOption_map hshown
  obtain ⟨hrows, hshown⟩ := Prod.mk.inj hshown
  obtain ⟨hleast, hzero⟩ := Prod.mk.inj hshown
  have hheader : m.header.Nodup := by
    rw [BehaviorMatrix.header, hrows]
    decide
  obtain ⟨f, hf, -, hlookup⟩ := cells_decode hbuilt
  exact ⟨m, hbuilt, hrows, hleast, hzero, f, hf,
    hlookup hheader (.named "a") (by decide) (.exit, "$") (by decide)⟩

end MatrixBuilder

end LoadPlan
