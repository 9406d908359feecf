import LoadPlan.Decimal.Reading
import LoadPlan.Decimal.Style
import LoadPlan.Proofs.Decimal.Nearest
/-!
# Numerals of doubles

Every finite double is written, in any style, as a sign and a `Numeral`: whole digits, digits after
a point, an exponent (`Style.exists_chars_eq`). A reader takes a numeral apart as it was put
together (`Numeral.takeDecimal_chars`), and its value is read as the shortest decimal is
(`Style.exists_numeral`).
-/

namespace LoadPlan.Decimal

/-! ## Digits -/

/-- No digit begins the text. -/
def NoDigitFirst (cs : List Char) : Prop := ∀ c, cs.head? = some c → c.isDigit = false

theorem noDigitFirst_nil : NoDigitFirst [] := fun _ h => by cases h

theorem noDigitFirst_cons {c : Char} (hc : c.isDigit = false) (cs : List Char) :
    NoDigitFirst (c :: cs) := fun _ h => by
  cases h
  exact hc

section Digits

variable {digits rest : List Char} (hdigits : digits.all Char.isDigit) (hrest : NoDigitFirst rest)
include hdigits hrest

/-- Digits are taken as far as they go. -/
theorem takeWhile_digits : (digits ++ rest).takeWhile Char.isDigit = digits := by
  rw [List.takeWhile_append_of_pos (List.all_eq_true.1 hdigits)]
  cases rest with
  | nil => simp
  | cons c rest => simp [hrest c rfl]

theorem dropWhile_digits : (digits ++ rest).dropWhile Char.isDigit = rest := by
  rw [List.dropWhile_append_of_pos (List.all_eq_true.1 hdigits)]
  cases rest with
  | nil => rfl
  | cons c rest => simp [hrest c rfl]

end Digits

theorem all_isDigit_toDigits (n : Nat) : (Nat.toDigits 10 n).all Char.isDigit :=
  List.all_eq_true.2 fun _ => Nat.isDigit_of_mem_toDigits (by decide) (by decide)

/-- A written number is read. -/
theorem takeNat_toDigits (n : Nat) : takeNat (Nat.toDigits 10 n) = some n := by
  have hne : (Nat.toDigits 10 n).isEmpty = false := by simp [Nat.toDigits_ne_nil]
  rw [takeNat, hne, all_isDigit_toDigits, Nat.ofDigitChars_ten_toDigits]
  rfl

/-- **Only zero is written with a zero in front.** -/
theorem head?_toDigits_eq_zero_iff (n : Nat) : (Nat.toDigits 10 n).head? = some '0' ↔ n = 0 := by
  induction n using Nat.strongRecOn with
  | ind n ih =>
    by_cases hsmall : n < 10
    · have hone : ∀ n < 10, ([n.digitChar].head? = some '0' ↔ n = 0) := by decide
      rw [Nat.toDigits_of_lt_base hsmall]
      exact hone n hsmall
    · obtain ⟨c, rest, hfront⟩ := List.exists_cons_of_ne_nil (Nat.toDigits_ne_nil (n := n / 10))
      have hfirst := ih (n / 10) (by omega)
      rw [Nat.toDigits_of_base_le (by decide) (by omega)]
      rw [hfront] at hfirst ⊢
      rw [List.cons_append, List.head?_cons, ← List.head?_cons (l := rest), hfirst]
      omega

theorem toLower_of_isDigit {c : Char} (hc : c.isDigit) : c.toLower = c := by
  simp only [Char.isDigit, Bool.and_eq_true, decide_eq_true_eq] at hc
  have hupper : ¬(c.val ≥ 'A'.val ∧ c.val ≤ 'Z'.val) := fun h =>
    absurd (UInt32.le_trans h.1 hc.2) (by decide)
  exact dif_neg hupper

/-! ## Numerals -/

/-- **A written number without its sign.** A zero in front stands alone. -/
structure Numeral where
  whole : List Char
  /-- The digits after the point. There is no point if there are none. -/
  fraction : List Char
  /-- The exponent, if there is one, and whether a plus sign may stand before it. -/
  exponent : Option (Bool × Int)
  whole_digits : whole.all Char.isDigit
  whole_ne_nil : whole ≠ []
  whole_of_zero : whole.head? = some '0' → whole = ['0']
  fraction_digits : fraction.all Char.isDigit

namespace Numeral

/-- The sign and the digits of an exponent. -/
def exponentDigits (plusSign : Bool) (e : Int) : List Char :=
  (if e < 0 then ['-'] else if plusSign then ['+'] else []) ++ Nat.toDigits 10 e.natAbs

variable (n : Numeral)

/-- What is written after the digits. -/
def exponentChars : List Char :=
  match n.exponent with
  | none => []
  | some (plusSign, e) => 'e' :: exponentDigits plusSign e

/-- The point and what is written after it. -/
def pointChars : List Char :=
  if n.fraction = [] then n.exponentChars else '.' :: n.fraction ++ n.exponentChars

/-- The text of a numeral. -/
def chars : List Char := n.whole ++ n.pointChars

/-- The number that a numeral stands for. -/
def value : Decimal :=
  ⟨Nat.ofDigitChars 10 (n.whole ++ n.fraction) 0,
    (match n.exponent with
      | none => 0
      | some (_, e) => e) - n.fraction.length⟩

theorem noDigitFirst_exponentChars : NoDigitFirst n.exponentChars := by
  unfold exponentChars
  split
  · exact noDigitFirst_nil
  · exact noDigitFirst_cons (by decide) _

theorem noDigitFirst_pointChars : NoDigitFirst n.pointChars := by
  unfold pointChars
  split
  · exact n.noDigitFirst_exponentChars
  · exact noDigitFirst_cons (by decide) _

/-- Digits have no sign before them. -/
theorem takeSign_toDigits (m : Nat) :
    takeSign (Nat.toDigits 10 m) = (false, Nat.toDigits 10 m) := by
  have hall := all_isDigit_toDigits m
  cases h : Nat.toDigits 10 m with
  | nil => rfl
  | cons c rest =>
    rw [h, List.all_cons, Bool.and_eq_true] at hall
    have hsign : c ≠ '-' ∧ c ≠ '+' := by
      constructor <;> rintro rfl <;> exact absurd hall.1 (by decide)
    unfold takeSign
    split <;> simp_all

/-- An exponent is read. -/
theorem takeExponent_exponentDigits (plusSign : Bool) (e : Int) :
    takeExponent (exponentDigits plusSign e) = some e := by
  have hsign : takeSign (exponentDigits plusSign e) =
      (decide (e < 0), Nat.toDigits 10 e.natAbs) := by
    unfold exponentDigits
    split
    · next hneg => simp [takeSign, hneg]
    · next hpos =>
      cases plusSign with
      | false => simpa [hpos] using takeSign_toDigits e.natAbs
      | true => simp [takeSign, hpos]
  have hvalue : (if decide (e < 0) then -(e.natAbs : Int) else e.natAbs) = e := by
    simp only [decide_eq_true_eq]
    omega
  rw [takeExponent, hsign]
  simp only [takeNat_toDigits]
  exact congrArg some hvalue

/-- A numeral is taken apart. -/
theorem splitNumber_chars : splitNumber n.chars = (n.whole, n.fraction, n.exponentChars) := by
  unfold splitNumber chars
  rw [takeWhile_digits n.whole_digits n.noDigitFirst_pointChars,
    dropWhile_digits n.whole_digits n.noDigitFirst_pointChars]
  by_cases hfraction : n.fraction = []
  · -- an exponent does not begin with a point
    rw [pointChars, if_pos hfraction, hfraction]
    unfold exponentChars
    cases n.exponent <;> rfl
  · rw [pointChars, if_neg hfraction, List.cons_append]
    show (n.whole, (n.fraction ++ n.exponentChars).takeWhile Char.isDigit,
      (n.fraction ++ n.exponentChars).dropWhile Char.isDigit) = _
    rw [takeWhile_digits n.fraction_digits n.noDigitFirst_exponentChars,
      dropWhile_digits n.fraction_digits n.noDigitFirst_exponentChars]

/-- **A numeral is read as its value.** -/
theorem takeDecimal_chars : takeDecimal n.chars = some n.value := by
  have hne : n.whole.isEmpty = false := by simp [n.whole_ne_nil]
  unfold takeDecimal
  rw [n.splitNumber_chars]
  simp only [hne, Bool.false_and, Bool.false_eq_true, if_false, value, exponentChars]
  cases n.exponent with
  | none => rfl
  | some mark =>
    obtain ⟨plusSign, e⟩ := mark
    simp [takeExponent_exponentDigits]

/-! ## The shapes of written magnitudes -/

/-- No digit is lost in front of others. -/
theorem ofDigitChars_zeros_append (k m : Nat) :
    Nat.ofDigitChars 10 (List.replicate k '0' ++ Nat.toDigits 10 m) 0 = m := by
  rw [Nat.ofDigitChars_append, Nat.ofDigitChars_replicate_zero, Nat.mul_zero,
    Nat.ofDigitChars_ten_toDigits]

/-- Zeros behind the digits are a power of ten. -/
theorem ofDigitChars_append_zeros (m k : Nat) :
    Nat.ofDigitChars 10 (Nat.toDigits 10 m ++ List.replicate k '0') 0 = 10 ^ k * m := by
  rw [Nat.ofDigitChars_append, Nat.ofDigitChars_ten_toDigits, Nat.ofDigitChars_replicate_zero]

theorem all_isDigit_replicate (k : Nat) : (List.replicate k '0').all Char.isDigit := by
  simp [show Char.isDigit '0' by decide]

theorem toDigits_eq_of_head? {m : Nat} (h : (Nat.toDigits 10 m).head? = some '0') :
    Nat.toDigits 10 m = ['0'] := by
  rw [(head?_toDigits_eq_zero_iff m).1 h]
  rfl

/-- Zeros behind the point, then the digits. -/
def below (m k : Nat) : Numeral where
  whole := ['0']
  fraction := List.replicate k '0' ++ Nat.toDigits 10 m
  exponent := none
  whole_digits := by decide
  whole_ne_nil := by simp
  whole_of_zero _ := rfl
  fraction_digits := by rw [List.all_append, all_isDigit_replicate, all_isDigit_toDigits]; rfl

theorem chars_below (m k : Nat) :
    (below m k).chars = '0' :: '.' :: List.replicate k '0' ++ Nat.toDigits 10 m := by
  simp [below, chars, pointChars, exponentChars, Nat.toDigits_ne_nil]

theorem value_below (m k : Nat) :
    (below m k).value = ⟨m, -(k + (Nat.toDigits 10 m).length : Nat)⟩ := by
  have hdigits := ofDigitChars_zeros_append (k + 1) m
  rw [List.replicate_succ, List.cons_append] at hdigits
  simp [below, value, hdigits]

/-- The digits, then zeros. -/
def integral (pointZero : Bool) (m k : Nat) (h : m = 0 → k = 0) : Numeral where
  whole := Nat.toDigits 10 m ++ List.replicate k '0'
  fraction := if pointZero then ['0'] else []
  exponent := none
  whole_digits := by rw [List.all_append, all_isDigit_replicate, all_isDigit_toDigits]; rfl
  whole_ne_nil := by simp [Nat.toDigits_ne_nil]
  whole_of_zero hfirst := by
    obtain ⟨c, rest, hc⟩ := List.exists_cons_of_ne_nil (Nat.toDigits_ne_nil (n := m))
    have hm : m = 0 := by
      rw [← head?_toDigits_eq_zero_iff, hc]
      rw [hc] at hfirst
      exact hfirst
    rw [hm, h hm]
    rfl
  fraction_digits := by cases pointZero <;> decide

theorem chars_integral (pointZero : Bool) (m k : Nat) (h : m = 0 → k = 0) :
    (integral pointZero m k h).chars =
      Nat.toDigits 10 m ++ List.replicate k '0' ++ (if pointZero then ['.', '0'] else []) := by
  cases pointZero <;> simp [integral, chars, pointChars, exponentChars]

/-- Zeros behind the digits do not matter to reading. -/
theorem nearest_integral (pointZero : Bool) (m k : Nat) (h : m = 0 → k = 0) :
    nearest (integral pointZero m k h).value = nearest ⟨m, k⟩ := by
  cases pointZero with
  | false =>
    have hvalue : (integral false m k h).value = ⟨10 ^ k * m, 0⟩ := by
      simp [integral, value, ofDigitChars_append_zeros]
    rw [hvalue, nearest_mul_ten_pow, Int.zero_add]
  | true =>
    have hzeros : Nat.toDigits 10 m ++ List.replicate k '0' ++ ['0'] =
        Nat.toDigits 10 m ++ List.replicate (k + 1) '0' := by
      rw [List.append_assoc, ← List.replicate_succ']
    have hvalue : (integral true m k h).value = ⟨10 ^ (k + 1) * m, -1⟩ := by
      simp only [integral, value, if_true, hzeros, ofDigitChars_append_zeros]
      rfl
    rw [hvalue, nearest_mul_ten_pow]
    congr 2
    push_cast
    omega

theorem all_isDigit_take (m w : Nat) : ((Nat.toDigits 10 m).take w).all Char.isDigit :=
  List.all_eq_true.2 fun c hc =>
    List.all_eq_true.1 (all_isDigit_toDigits m) c (List.mem_of_mem_take hc)

theorem all_isDigit_drop (m w : Nat) : ((Nat.toDigits 10 m).drop w).all Char.isDigit :=
  List.all_eq_true.2 fun c hc =>
    List.all_eq_true.1 (all_isDigit_toDigits m) c (List.mem_of_mem_drop hc)

/-- The digits with a point between two of them, and maybe an exponent. -/
def split (m w : Nat) (hw : 0 < w) (exponent : Option (Bool × Int)) : Numeral where
  whole := (Nat.toDigits 10 m).take w
  fraction := (Nat.toDigits 10 m).drop w
  exponent := exponent
  whole_digits := all_isDigit_take m w
  whole_ne_nil := by
    have hpos := Nat.length_toDigits_pos (b := 10) (n := m)
    rw [← List.length_pos_iff, List.length_take]
    omega
  whole_of_zero hfirst := by
    rw [List.head?_take, if_neg (Nat.ne_of_gt hw)] at hfirst
    rw [toDigits_eq_of_head? hfirst]
    exact List.take_of_length_le hw
  fraction_digits := all_isDigit_drop m w

theorem value_split (m w : Nat) (hw : 0 < w) (exponent : Option (Bool × Int)) :
    (split m w hw exponent).value = ⟨m, (match exponent with
      | none => 0
      | some (_, e) => e) - ((Nat.toDigits 10 m).length - w : Nat)⟩ := by
  simp only [split, value, List.take_append_drop, Nat.ofDigitChars_ten_toDigits, List.length_drop]

theorem chars_split {m w : Nat} (hw : 0 < w) (h : w < (Nat.toDigits 10 m).length) :
    (split m w hw none).chars =
      (Nat.toDigits 10 m).take w ++ '.' :: (Nat.toDigits 10 m).drop w := by
  have hne : (Nat.toDigits 10 m).drop w ≠ [] := by simpa [List.drop_eq_nil_iff] using h
  simp [split, chars, pointChars, exponentChars, hne]

/-- One digit, the others behind a point, and an exponent. -/
theorem chars_split_exponent (m : Nat) (plusSign : Bool) (e : Int) :
    (split m 1 Nat.one_pos (some (plusSign, e))).chars =
      Decimal.exponentChars plusSign (Nat.toDigits 10 m) e := by
  obtain ⟨c, rest, hdigits⟩ := List.exists_cons_of_ne_nil (Nat.toDigits_ne_nil (n := m) (b := 10))
  have hwhole : (split m 1 Nat.one_pos (some (plusSign, e))).whole = [c] := by simp [split, hdigits]
  have hfraction : (split m 1 Nat.one_pos (some (plusSign, e))).fraction = rest := by
    simp [split, hdigits]
  have hexponent : (split m 1 Nat.one_pos (some (plusSign, e))).exponentChars =
      'e' :: exponentDigits plusSign e := rfl
  rw [chars, pointChars, hwhole, hfraction, hexponent, hdigits]
  unfold Decimal.exponentChars
  cases rest <;> simp [exponentDigits]

/-- The first character of a numeral is a digit. -/
theorem exists_chars_eq_cons : ∃ c rest, n.chars = c :: rest ∧ c.isDigit := by
  obtain ⟨c, rest, hwhole⟩ := List.exists_cons_of_ne_nil n.whole_ne_nil
  have hdigits := n.whole_digits
  rw [hwhole, List.all_cons, Bool.and_eq_true] at hdigits
  exact ⟨c, rest ++ n.pointChars, by rw [chars, hwhole, List.cons_append], hdigits.1⟩

/-- **A numeral with a fraction or an exponent names no whole number.** -/
theorem takeNat_chars (h : n.fraction ≠ [] ∨ n.exponent.isSome) : takeNat n.chars = none := by
  have hmark : ∃ c ∈ n.pointChars, c.isDigit = false := by
    unfold pointChars
    by_cases hfraction : n.fraction = []
    · obtain ⟨mark, hmark⟩ := Option.isSome_iff_exists.1 (h.resolve_left (not_not_intro hfraction))
      exact ⟨'e', by simp [hfraction, exponentChars, hmark], by decide⟩
    · exact ⟨'.', by simp [hfraction], by decide⟩
  obtain ⟨c, hc, hdigit⟩ := hmark
  have hall : n.chars.all Char.isDigit = false := by
    rw [List.all_eq_false]
    exact ⟨c, List.mem_append_right _ hc, by simp [hdigit]⟩
  simp [takeNat, hall]

/-- **A numeral with or without a minus sign is read as its double.** -/
theorem readChars_chars (negative : Bool) :
    readChars ((if negative then ['-'] else []) ++ n.chars) =
      some (toFloat negative (nearest n.value)) := by
  obtain ⟨c, rest, hchars, hc⟩ := n.exists_chars_eq_cons
  have hsign : takeSign ((if negative then ['-'] else []) ++ n.chars) = (negative, n.chars) := by
    cases negative with
    | true => rfl
    | false =>
      have hne : c ≠ '-' ∧ c ≠ '+' := by
        constructor <;> rintro rfl <;> exact absurd hc (by decide)
      simp [hchars, takeSign, hne]
  have hlower : c.toLower = c := toLower_of_isDigit hc
  have hword : n.chars.map Char.toLower ∉ infinityWords ∧
      n.chars.map Char.toLower ≠ "nan".toList := by
    rw [hchars, List.map_cons, hlower]
    constructor
    · intro h
      simp only [infinityWords, List.mem_cons, List.not_mem_nil, or_false] at h
      rcases h with h | h
      all_goals
        rw [(List.cons.inj h).1] at hc
        exact absurd hc (by decide)
    · intro h
      rw [(List.cons.inj h).1] at hc
      exact absurd hc (by decide)
  have hinfinity : infinityWords.contains (n.chars.map Char.toLower) = false := by
    simpa using hword.1
  rw [readChars, hsign]
  dsimp only
  rw [hinfinity, if_neg hword.2, n.takeDecimal_chars]
  rfl

end Numeral

/-! ## Written doubles -/

/-- Only zero has no digits but a zero, and then no exponent either. -/
theorem exponent_shortest_eq_zero (tie : Tie) {b : Nat} (hb : b < infinityPattern)
    (h : (shortest tie b).digits = 0) : (shortest tie b).exponent = 0 := by
  have hread := nearest_shortest tie hb
  rw [nearest, if_pos h] at hread
  rw [← hread]
  rfl

/-- **Positional writing gives a numeral** that is read as the number it is given. -/
theorem exists_numeral_positional (pointZero : Bool) {m : Nat} {e : Int} (hzero : m = 0 → e = 0) :
    ∃ n : Numeral, positionalChars pointZero (Nat.toDigits 10 m)
        (e + (Nat.toDigits 10 m).length - 1) = n.chars ∧
      nearest n.value = nearest ⟨m, e⟩ ∧ (pointZero → n.fraction ≠ []) := by
  have hpos := Nat.length_toDigits_pos (b := 10) (n := m)
  unfold positionalChars
  by_cases hbelow : e + (Nat.toDigits 10 m).length - 1 < 0
  · -- below one
    rw [if_pos hbelow]
    refine ⟨.below m _, (Numeral.chars_below m _).symm, ?_, fun _ => ?_⟩
    · rw [Numeral.value_below]
      congr 2
      omega
    · simp [Numeral.below, Nat.toDigits_ne_nil]
  · rw [if_neg hbelow]
    dsimp only
    by_cases hwhole : (Nat.toDigits 10 m).length ≤ (e + (Nat.toDigits 10 m).length - 1).toNat + 1
    · -- a whole number
      rw [if_pos hwhole]
      refine ⟨.integral pointZero m _ fun hm => ?_, (Numeral.chars_integral ..).symm, ?_,
        fun hpoint => by simp [Numeral.integral, hpoint]⟩
      · have he := hzero hm
        omega
      · rw [Numeral.nearest_integral]
        congr 2
        omega
    · -- a point between two digits
      rw [if_neg hwhole]
      refine ⟨.split m _ (Nat.succ_pos _) none, (Numeral.chars_split _ (by omega)).symm, ?_,
        fun _ => ?_⟩
      · rw [Numeral.value_split]
        congr 2
        dsimp only
        omega
      · simp only [Numeral.split, ne_eq, List.drop_eq_nil_iff]
        omega

namespace Style

variable (style : Style)

/-- **A magnitude is written as a numeral that is read as the pattern.** With `pointZero` it has a
fraction or an exponent. -/
theorem exists_numeral {b : Nat} (hb : b < infinityPattern) :
    ∃ n : Numeral, style.magnitude b = n.chars ∧ nearest n.value = b ∧
      (style.pointZero → n.fraction ≠ [] ∨ n.exponent.isSome) := by
  have hread := nearest_shortest style.tie hb
  have hzero := exponent_shortest_eq_zero style.tie hb
  unfold magnitude
  dsimp only
  generalize shortest style.tie b = d at hread hzero ⊢
  obtain ⟨m, e⟩ := d
  by_cases hpositional : style.positional (e + (Nat.toDigits 10 m).length - 1)
  · obtain ⟨n, hchars, hvalue, hpoint⟩ := exists_numeral_positional style.pointZero hzero
    rw [if_pos hpositional]
    exact ⟨n, hchars, hvalue.trans hread, fun h => .inl (hpoint h)⟩
  · rw [if_neg hpositional]
    refine ⟨.split m 1 Nat.one_pos (some (style.plusSign, _)),
      (Numeral.chars_split_exponent ..).symm, ?_, fun _ => .inr rfl⟩
    rw [Numeral.value_split, ← hread]
    have hpos := Nat.length_toDigits_pos (b := 10) (n := m)
    congr 2
    dsimp only
    omega

end Style

theorem isFinite_iff {x : Float} : isFinite x ↔ pattern x < infinityPattern := decide_eq_true_iff

/-- A finite double is written as a sign and a magnitude. -/
theorem Style.chars_of_isFinite (style : Style) {x : Float} (hx : isFinite x) :
    style.chars x = (if signed x then ['-'] else []) ++ style.magnitude (pattern x) := by
  have hpattern := isFinite_iff.1 hx
  have hnan : ¬pattern x > infinityPattern := by omega
  rw [Style.chars, if_neg hnan, if_neg (Nat.ne_of_lt hpattern)]

/-- **A finite double is written as a sign and a numeral** that is read as its pattern. With
`pointZero` the numeral has a fraction or an exponent. -/
theorem Style.exists_chars_eq (style : Style) {x : Float} (hx : isFinite x) :
    ∃ n : Numeral, style.chars x = (if signed x then ['-'] else []) ++ n.chars ∧
      nearest n.value = pattern x ∧ (style.pointZero → n.fraction ≠ [] ∨ n.exponent.isSome) := by
  have hpattern := isFinite_iff.1 hx
  obtain ⟨n, hchars, hread⟩ := style.exists_numeral hpattern
  exact ⟨n, by rw [style.chars_of_isFinite hx, hchars], hread⟩

end LoadPlan.Decimal
