import LoadPlan.Matrix.Cell
import LoadPlan.Proofs.Decimal.Alphabet
import LoadPlan.Proofs.Decimal.ReadBack
/-!
# Reading a cell back

A cell is cut at its first semicolon, and a written double has none: it has no blanks either, so
trimming leaves it whole, and reading gives the double that was written (`Cell.split?_write`).
What follows the semicolon is the think time, without the blanks around it.
-/

namespace LoadPlan

namespace Text

/-- Nothing is trimmed from a text with other characters at both ends. -/
theorem trimBlanks_of_ends {cs : List Char} (hfirst : ∀ c, cs.head? = some c → isBlank c = false)
    (hlast : ∀ c, cs.getLast? = some c → isBlank c = false) : trimBlanks cs = cs := by
  have hdrop : ∀ l : List Char, (∀ c, l.head? = some c → isBlank c = false) →
      l.dropWhile isBlank = l := by
    intro l hl
    cases l with
    | nil => rfl
    | cons c rest => rw [List.dropWhile_cons_of_neg (by simp [hl c rfl])]
  have hreverse : ∀ c, cs.reverse.head? = some c → isBlank c = false := by
    intro c hc
    rw [List.head?_reverse] at hc
    exact hlast c hc
  rw [trimBlanks, hdrop cs hfirst, hdrop cs.reverse hreverse, List.reverse_reverse]

/-- Nor from one without white space. -/
theorem trimBlanks_eq_self {cs : List Char} (h : ∀ c ∈ cs, isBlank c = false) :
    trimBlanks cs = cs :=
  trimBlanks_of_ends (fun c hc => h c (List.mem_of_mem_head? hc))
    fun c hc => h c (List.mem_of_mem_getLast? hc)

/-- A blank in front is trimmed. -/
theorem trimBlanks_cons {c : Char} (hc : isBlank c) (cs : List Char) :
    trimBlanks (c :: cs) = trimBlanks cs := by
  rw [trimBlanks, List.dropWhile_cons_of_pos hc, ← trimBlanks]

end Text

namespace Cell

variable {p : Float}

/-- What stands in a cell before its first semicolon. -/
def probabilityPart (cell : String) : List Char := cell.toList.takeWhile fun c => !(c == ';')

theorem toList_write (p : Float) (thinkTime : String) :
    (write p thinkTime).toList = Decimal.precise.chars p ++ ';' :: ' ' :: thinkTime.toList := by
  simp [write, probability, Decimal.Style.write]

/-- A written double has no semicolon. -/
theorem forall_chars_ne_mark : ∀ c ∈ Decimal.precise.chars p, (!(c == ';')) = true := by
  intro c hc
  have hne : c ≠ ';' := by
    rintro rfl
    exact absurd (List.all_eq_true.1 (Decimal.precise.all_isFloatChar_chars p) _ hc) (by decide)
  simp [hne]

/-- **The probability stands before the semicolon.** -/
theorem probabilityPart_write (p : Float) (thinkTime : String) :
    probabilityPart (write p thinkTime) = Decimal.precise.chars p := by
  rw [probabilityPart, toList_write, List.takeWhile_append_of_pos forall_chars_ne_mark,
    List.takeWhile_cons_of_neg (by decide), List.append_nil]

/-- **A written cell is cut into the double it was written from and the think time.** -/
theorem split?_write (hp : Decimal.isFinite p) (thinkTime : String) :
    split? (write p thinkTime) =
      some (p, String.ofList (Text.trimBlanks (' ' :: thinkTime.toList))) := by
  have hdrop : (write p thinkTime).toList.dropWhile (fun c => !(c == ';')) =
      ';' :: ' ' :: thinkTime.toList := by
    rw [toList_write, List.dropWhile_append_of_pos forall_chars_ne_mark,
      List.dropWhile_cons_of_neg (by decide)]
  have htake := probabilityPart_write p thinkTime
  have htrim : Text.trimBlanks (Decimal.precise.chars p) = Decimal.precise.chars p :=
    Text.trimBlanks_eq_self fun c hc => Decimal.isBlank_of_isFloatChar
      (List.all_eq_true.1 (Decimal.precise.all_isFloatChar_chars p) c hc)
  rw [probabilityPart] at htake
  simp only [split?, htake, hdrop, htrim, Decimal.Style.readChars_chars _ hp, Option.map_some]

end Cell

end LoadPlan
