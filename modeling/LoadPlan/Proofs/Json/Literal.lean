import LoadPlan.Json.Reader
import LoadPlan.Proofs.Decimal.Numeral
/-!
# Number literals

A numeral follows the grammar of numbers, so the reader takes it off the front of a text as it
is written, as long as what follows does not go on the number (`takeNumber_chars`). `IsLiteral` is
what a reader of values has to know of a literal; whole numbers and finite doubles are written as
such.
-/

namespace LoadPlan.Json

open Decimal (Numeral NoDigitFirst)

/-! ## Where a number ends -/

/-- What follows does not go on a number. -/
def EndsNumber (rest : List Char) : Prop :=
  ∀ c, rest.head? = some c → c.isDigit = false ∧ c ≠ '.' ∧ c ≠ 'e' ∧ c ≠ 'E'

theorem endsNumber_nil : EndsNumber [] := fun _ h => by cases h

theorem endsNumber_cons {c : Char} (h : c.isDigit = false ∧ c ≠ '.' ∧ c ≠ 'e' ∧ c ≠ 'E')
    (rest : List Char) : EndsNumber (c :: rest) := fun _ hc => by
  cases hc
  exact h

theorem EndsNumber.noDigitFirst {rest : List Char} (h : EndsNumber rest) : NoDigitFirst rest :=
  fun c hc => (h c hc).1

theorem takeDigits_append {digits rest : List Char} (hne : digits ≠ [])
    (hdigits : digits.all Char.isDigit) (hrest : NoDigitFirst rest) :
    takeDigits (digits ++ rest) = some (digits, rest) := by
  unfold takeDigits
  rw [Decimal.takeWhile_digits hdigits hrest, Decimal.dropWhile_digits hdigits hrest]
  cases digits with
  | nil => exact absurd rfl hne
  | cons c digits => rfl

/-! ## Numerals -/

section Numerals

variable (n : Numeral) {rest : List Char} (hrest : EndsNumber rest)
include hrest

theorem takeExponent_exponentChars :
    takeExponent (n.exponentChars ++ rest) = some (n.exponentChars, rest) := by
  unfold Numeral.exponentChars
  cases n.exponent with
  | none =>
    cases rest with
    | nil => rfl
    | cons c rest =>
      obtain ⟨-, -, he, hE⟩ := hrest c rfl
      simp [takeExponent, he, hE]
  | some mark =>
    obtain ⟨plusSign, e⟩ := mark
    have hdigits := takeDigits_append Nat.toDigits_ne_nil
      (Decimal.all_isDigit_toDigits e.natAbs) hrest.noDigitFirst
    dsimp only
    unfold Numeral.exponentDigits
    by_cases hneg : e < 0
    · simp [takeExponent, hneg, hdigits]
    · cases plusSign with
      | true => simp [takeExponent, hneg, hdigits]
      | false =>
        -- the first digit is no sign
        have hall := Decimal.all_isDigit_toDigits e.natAbs
        obtain ⟨c, more, hc⟩ := List.exists_cons_of_ne_nil (Nat.toDigits_ne_nil (n := e.natAbs))
        rw [hc, List.all_cons, Bool.and_eq_true] at hall
        rw [hc] at hdigits
        have hsign : c ≠ '-' ∧ c ≠ '+' := by
          constructor <;> rintro rfl <;> exact absurd hall.1 (by decide)
        rw [if_neg hneg, hc]
        simp only [List.cons_append] at hdigits
        simp [takeExponent, hsign, hdigits]

theorem noDigitFirst_exponentChars_append : NoDigitFirst (n.exponentChars ++ rest) := by
  cases hchars : n.exponentChars with
  | nil => exact hrest.noDigitFirst
  | cons c more =>
    have hfirst := n.noDigitFirst_exponentChars
    rw [hchars] at hfirst
    exact fun c' hc' => hfirst c' hc'

theorem takeFraction_pointChars : ∃ fraction,
    takeFraction (n.pointChars ++ rest) = some (fraction, n.exponentChars ++ rest) ∧
      fraction ++ n.exponentChars = n.pointChars := by
  unfold Numeral.pointChars
  by_cases hfraction : n.fraction = []
  · rw [if_pos hfraction]
    refine ⟨[], ?_, rfl⟩
    unfold Numeral.exponentChars
    cases n.exponent with
    | none =>
      cases rest with
      | nil => rfl
      | cons c rest =>
        obtain ⟨-, hpoint, -⟩ := hrest c rfl
        simp [takeFraction, hpoint]
    | some mark => simp [takeFraction]
  · rw [if_neg hfraction]
    refine ⟨'.' :: n.fraction, ?_, rfl⟩
    have hdigits := takeDigits_append hfraction n.fraction_digits
      (noDigitFirst_exponentChars_append n hrest)
    simp [takeFraction, hdigits]

theorem noDigitFirst_pointChars_append : NoDigitFirst (n.pointChars ++ rest) := by
  cases hchars : n.pointChars with
  | nil => exact hrest.noDigitFirst
  | cons c more =>
    have hfirst := n.noDigitFirst_pointChars
    rw [hchars] at hfirst
    exact fun c' hc' => hfirst c' hc'

theorem takeWhole_chars :
    takeWhole (n.chars ++ rest) = some (n.whole, n.pointChars ++ rest) := by
  unfold Numeral.chars
  rw [List.append_assoc]
  by_cases hzero : n.whole.head? = some '0'
  · rw [n.whole_of_zero hzero]
    rfl
  · obtain ⟨c, more, hc⟩ := List.exists_cons_of_ne_nil n.whole_ne_nil
    have hdigits := takeDigits_append n.whole_ne_nil n.whole_digits
      (noDigitFirst_pointChars_append n hrest)
    rw [hc] at hzero hdigits ⊢
    have hne : c ≠ '0' := by
      rintro rfl
      exact hzero rfl
    rw [List.cons_append] at hdigits ⊢
    unfold takeWhole
    split
    · next heq => exact absurd (List.cons.inj heq).1 hne
    · exact hdigits

/-- **A numeral with or without a minus sign is taken as it is written.** -/
theorem takeNumber_chars (negative : Bool) :
    takeNumber ((if negative then ['-'] else []) ++ n.chars ++ rest) =
      some ((if negative then ['-'] else []) ++ n.chars, rest) := by
  obtain ⟨fraction, hfraction, hpoint⟩ := takeFraction_pointChars n hrest
  have hwhole := takeWhole_chars n hrest
  have hexponent := takeExponent_exponentChars n hrest
  have hchars : n.chars = n.whole ++ (fraction ++ n.exponentChars) := by
    rw [hpoint, Numeral.chars]
  cases negative with
  | true =>
    rw [if_pos rfl, List.append_assoc, List.singleton_append, takeNumber]
    simp only [hwhole, hfraction, hexponent, Option.bind_eq_bind, Option.bind_some]
    simp [hchars]
  | false =>
    have hsign : ∀ more, n.chars ++ rest ≠ '-' :: more := by
      obtain ⟨c, chars, hc, hdigit⟩ := n.exists_chars_eq_cons
      intro more heq
      rw [hc, List.cons_append] at heq
      rw [(List.cons.inj heq).1] at hdigit
      exact absurd hdigit (by decide)
    rw [if_neg Bool.false_ne_true, List.nil_append, takeNumber]
    · simp only [hwhole, hfraction, hexponent, Option.bind_eq_bind, Option.bind_some]
      simp [hchars]
    · exact hsign

end Numerals

/-! ## Literals -/

/-- **A literal is taken as it is written**, and begins with a digit or a minus sign. -/
structure IsLiteral (literal : List Char) : Prop where
  takes : ∀ rest, EndsNumber rest → takeNumber (literal ++ rest) = some (literal, rest)
  first : ∃ c more, literal = c :: more ∧ (c.isDigit ∨ c = '-')

theorem isLiteral_chars (n : Numeral) (negative : Bool) :
    IsLiteral ((if negative then ['-'] else []) ++ n.chars) where
  takes _ hrest := takeNumber_chars n hrest negative
  first := by
    obtain ⟨c, more, hc, hdigit⟩ := n.exists_chars_eq_cons
    cases negative with
    | true => exact ⟨'-', n.chars, rfl, .inr rfl⟩
    | false => exact ⟨c, more, hc, .inl hdigit⟩

/-- Whole numbers are written as literals. -/
theorem isLiteral_toDigits (m : Nat) : IsLiteral (Nat.toDigits 10 m) := by
  have h := isLiteral_chars (.integral false m 0 fun _ => rfl) false
  simpa [Numeral.chars_integral] using h

/-- **Finite doubles are written as literals**, in any style. -/
theorem isLiteral_float (style : Decimal.Style) {x : Float} (hx : Decimal.isFinite x) :
    IsLiteral (style.chars x) := by
  obtain ⟨n, hchars, -, -⟩ := style.exists_chars_eq hx
  rw [hchars]
  exact isLiteral_chars n _

end LoadPlan.Json
