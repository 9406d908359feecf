import LoadPlan.Decimal.Style
import LoadPlan.Text.Blank
import Mathlib.Data.List.Basic
/-!
# The characters of a written double

Whatever the style, a finite double is written with digits, a point, a minus or plus sign and
the `e` of an exponent; the letters of `NaN` and `inf` are the only others. None of them is white
space.
-/

namespace LoadPlan.Decimal

/-- A character of a number: a digit, or one of `-`, `+`, `.` and `e`. -/
def isNumberChar (c : Char) : Bool := c.isDigit || ['-', '+', '.', 'e'].contains c

/-- A character of a written double: of a number, or a letter of `NaN` or `inf`. -/
def isFloatChar (c : Char) : Bool := isNumberChar c || ['N', 'a', 'i', 'n', 'f'].contains c

/-- A character of a written double is not white space. -/
theorem isBlank_of_isFloatChar {c : Char} (h : isFloatChar c) : Text.isBlank c = false := by
  have hrange : 0x21 ≤ c.toNat ∧ c.toNat ≤ 0x7E := by
    simp only [isFloatChar, isNumberChar, Bool.or_eq_true, List.contains_iff_mem, List.mem_cons,
      List.not_mem_nil, or_false, Char.isDigit, Bool.and_eq_true, decide_eq_true_eq] at h
    rcases h with (⟨hlow, hhigh⟩ | h) | h
    · have hlow' : 0x30 ≤ c.toNat := hlow
      have hhigh' : c.toNat ≤ 0x39 := hhigh
      omega
    · rcases h with rfl | rfl | rfl | rfl <;> decide
    · rcases h with rfl | rfl | rfl | rfl | rfl <;> decide
  simp only [Text.isBlank, Bool.or_eq_false_iff, Bool.and_eq_false_iff, decide_eq_false_iff_not,
    beq_eq_false_iff_ne]
  omega

theorem isBlank_of_isDigit {c : Char} (h : c.isDigit) : Text.isBlank c = false :=
  isBlank_of_isFloatChar (by simp [isFloatChar, isNumberChar, h])

/-- Digits are characters of a number. -/
theorem all_isNumberChar_toDigits (n : Nat) : (Nat.toDigits 10 n).all isNumberChar := by
  rw [List.all_eq_true]
  intro c hc
  have hdigit := Nat.isDigit_of_mem_toDigits (by decide) (by decide) hc
  simp [isNumberChar, hdigit]

theorem all_isNumberChar_positionalChars {digits : List Char} (hdigits : digits.all isNumberChar)
    (pointZero : Bool) (lead : Int) : (positionalChars pointZero digits lead).all isNumberChar := by
  have hzeros : ∀ n, (List.replicate n '0').all isNumberChar := fun n => by
    simp [show isNumberChar '0' by decide]
  have hpoint : isNumberChar '.' := by decide
  unfold positionalChars
  by_cases hlead : lead < 0
  · -- below one
    rw [if_pos hlead, List.cons_append, List.cons_append, List.all_cons, List.all_cons,
      List.all_append, hdigits, hzeros]
    decide
  · rw [if_neg hlead]
    dsimp only
    split
    · -- a whole number
      rw [List.all_append, List.all_append, hdigits, hzeros]
      cases pointZero <;> decide
    · -- a point between two digits
      rw [List.all_eq_true] at hdigits
      rw [List.all_append, List.all_cons, hpoint, Bool.and_eq_true, Bool.true_and,
        List.all_eq_true, List.all_eq_true]
      exact ⟨fun c hc => hdigits c (List.mem_of_mem_take hc),
        fun c hc => hdigits c (List.mem_of_mem_drop hc)⟩

theorem all_isNumberChar_exponentChars {digits : List Char} (hdigits : digits.all isNumberChar)
    (plusSign : Bool) (lead : Int) : (exponentChars plusSign digits lead).all isNumberChar := by
  have hmark : isNumberChar '.' ∧ isNumberChar 'e' := by decide
  unfold exponentChars
  rw [List.all_append, List.all_append, List.all_cons, all_isNumberChar_toDigits, hmark.2,
    Bool.and_true, Bool.true_and, Bool.and_eq_true]
  constructor
  · cases digits with
    | nil => rfl
    | cons d rest =>
      cases rest with
      | nil => exact hdigits
      | cons e rest =>
        simp only [List.all_cons, Bool.and_eq_true] at hdigits ⊢
        exact ⟨hdigits.1, hmark.1, hdigits.2⟩
  · split
    · decide
    · cases plusSign <;> decide

namespace Style

variable (style : Style)

/-- **A magnitude is written with characters of a number.** -/
theorem all_isNumberChar_magnitude (b : Nat) : (style.magnitude b).all isNumberChar := by
  unfold magnitude
  dsimp only
  split
  · exact all_isNumberChar_positionalChars (all_isNumberChar_toDigits _) _ _
  · exact all_isNumberChar_exponentChars (all_isNumberChar_toDigits _) _ _

/-- **Any double is written with digits, signs, points and the letters of `e`, `NaN`, `inf`.** -/
theorem all_isFloatChar_chars (x : Float) : (style.chars x).all isFloatChar := by
  unfold chars
  split
  · decide
  · rw [List.all_append, Bool.and_eq_true]
    constructor
    · split <;> decide
    · split
      · decide
      · have hnumber := List.all_eq_true.1 (style.all_isNumberChar_magnitude (pattern x))
        exact List.all_eq_true.2 fun c hc => by simp [isFloatChar, hnumber c hc]

end Style

end LoadPlan.Decimal
