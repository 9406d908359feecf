import LoadPlan.Proofs.Decimal.Alphabet
import LoadPlan.Proofs.Decimal.Numeral
import LoadPlan.Proofs.Plan.Calendar
import LoadPlan.Plan.TimestampReading
/-!
# Points in time are read back

A point in time is written part by part, each of known width or with a mark behind it, and read in
the same order. The date is read back as the day it is the date of, the time of day as its second,
and a sixtieth second as the leap second that it is (`Timestamp.read_write`).
-/

namespace LoadPlan.Timestamp

/-! ## Padded numbers -/

section Numbers

open Decimal (NoDigitFirst)

variable {width n : Nat}

theorem toList_padded (width n : Nat) : (padded width n).toList =
    List.replicate (width - (Nat.toDigits 10 n).length) '0' ++ Nat.toDigits 10 n := by
  simp [padded]

theorem all_isDigit_padded (width n : Nat) : (padded width n).toList.all Char.isDigit := by
  rw [toList_padded, List.all_append, Decimal.Numeral.all_isDigit_replicate, Decimal.all_isDigit_toDigits]
  rfl

theorem ofDigitChars_padded (width n : Nat) :
    Nat.ofDigitChars 10 (padded width n).toList 0 = n := by
  rw [toList_padded, Decimal.Numeral.ofDigitChars_zeros_append]

theorem length_padded (hwidth : 0 < width) (hn : n < 10 ^ width) :
    (padded width n).toList.length = width := by
  have := (Nat.length_toDigits_le_iff (by decide) hwidth).2 hn
  rw [toList_padded, List.length_append, List.length_replicate]
  omega

theorem exists_padded (width n : Nat) : ∃ c rest, (padded width n).toList = c :: rest ∧ c.isDigit := by
  have hall := all_isDigit_padded width n
  cases h : (padded width n).toList with
  | nil =>
    rw [toList_padded] at h
    exact absurd (List.append_eq_nil_iff.1 h).2 Nat.toDigits_ne_nil
  | cons c rest =>
    rw [h, List.all_cons, Bool.and_eq_true] at hall
    exact ⟨c, rest, rfl, hall.1⟩

section Taking

variable {most : Nat} (rest : List Char) (hfits : (padded width n).toList.length ≤ most)
  (hend : (padded width n).toList.length = most ∨ NoDigitFirst rest)
include hfits hend

/-- The digits of a number are all that is taken, if the bound or the digits end with it. -/
theorem takeWhile_padded : (((padded width n).toList ++ rest).take most).takeWhile Char.isDigit =
    (padded width n).toList := by
  have hstop : NoDigitFirst (rest.take (most - (padded width n).toList.length)) := by
    rcases hend with hend | hend
    · rw [hend, Nat.sub_self, List.take_zero]
      exact Decimal.noDigitFirst_nil
    · intro c hc
      rw [List.head?_take] at hc
      split at hc
      · cases hc
      · exact hend c hc
  rw [List.take_append, List.take_of_length_le hfits,
    Decimal.takeWhile_digits (all_isDigit_padded width n) hstop]

/-- **A padded number is taken.** -/
theorem takeNumber_padded :
    takeNumber most ((padded width n).toList ++ rest) = some (n, rest) := by
  obtain ⟨c, more, hcons, -⟩ := exists_padded width n
  rw [takeNumber, takeWhile_padded rest hfits hend, hcons]
  dsimp only
  rw [← hcons, ofDigitChars_padded, List.drop_left]

end Taking

end Numbers

/-! ## Parts of a text -/

theorem skipBlanks_cons {c : Char} (hc : Text.isBlank c = false) (cs : List Char) :
    skipBlanks (c :: cs) = c :: cs := by
  rw [skipBlanks, List.dropWhile_cons_of_neg (by simp [hc])]

theorem skipBlanks_padded (width n : Nat) (rest : List Char) :
    skipBlanks ((padded width n).toList ++ rest) = (padded width n).toList ++ rest := by
  obtain ⟨c, more, hcons, hc⟩ := exists_padded width n
  rw [hcons, List.cons_append, skipBlanks_cons (Decimal.isBlank_of_isDigit hc)]

/-- A mark is taken where it stands. -/
theorem takeMark_cons {c : Char} (hc : Text.isBlank c = false) (cs : List Char) :
    takeMark c (c :: cs) = some cs := by
  rw [takeMark, skipBlanks_cons hc]
  exact if_pos rfl

/-- Two digits are taken. -/
theorem takePair_padded {n : Nat} (hn : n < 100) (rest : List Char) :
    takePair ((padded 2 n).toList ++ rest) = some (n, rest) := by
  have hlength := length_padded (show 0 < 2 by decide) (show n < 10 ^ 2 from hn)
  rw [takePair, skipBlanks_padded, takeNumber_padded rest hlength.le (.inl hlength)]

theorem takeYear_minus (rest : List Char) : takeYear ('-' :: rest) =
    (takeNumber rest.length rest).map fun p => (-(p.1 : Int), p.2) := by
  rw [takeYear, skipBlanks_cons (by decide)]
  rfl

theorem takeYear_plus (rest : List Char) : takeYear ('+' :: rest) =
    (takeNumber rest.length rest).map fun p => ((p.1 : Int), p.2) := by
  rw [takeYear, skipBlanks_cons (by decide)]
  rfl

theorem takeYear_digit {c : Char} (hc : c.isDigit) (rest : List Char) : takeYear (c :: rest) =
    (takeNumber 4 (c :: rest)).map fun p => ((p.1 : Int), p.2) := by
  have hminus : c ≠ '-' := by
    rintro rfl
    exact absurd hc (by decide)
  have hplus : c ≠ '+' := by
    rintro rfl
    exact absurd hc (by decide)
  rw [takeYear, skipBlanks_cons (Decimal.isBlank_of_isDigit hc)]
  split
  · rename_i heq
    exact absurd (List.cons.inj heq).1 hminus
  · rename_i heq
    exact absurd (List.cons.inj heq).1 hplus
  · rfl

/-- **A year is taken up to the mark behind it.** -/
theorem takeYear_yearText (year : Int) (rest : List Char) :
    takeYear ((yearText year).toList ++ '-' :: rest) = some (year, '-' :: rest) := by
  by_cases hshort : 0 ≤ year ∧ year ≤ 9999
  · have hlength := length_padded (show 0 < 4 by decide) (show year.toNat < 10 ^ 4 by omega)
    have htake := takeNumber_padded ('-' :: rest) hlength.le (.inl hlength)
    obtain ⟨c, more, hcons, hc⟩ := exists_padded 4 year.toNat
    rw [yearText, if_pos hshort]
    rw [hcons, List.cons_append] at htake ⊢
    rw [takeYear_digit hc, htake, Option.map_some, Int.toNat_of_nonneg hshort.1]
  · -- all digits after the sign belong to the year
    have hfits : (padded 4 year.natAbs).toList.length ≤
        ((padded 4 year.natAbs).toList ++ '-' :: rest).length := by simp
    have htake := takeNumber_padded ('-' :: rest) hfits
      (.inr (Decimal.noDigitFirst_cons (by decide) rest))
    rw [yearText, if_neg hshort, String.toList_append, List.append_assoc]
    by_cases hneg : year < 0
    · have hyear : -(year.natAbs : Int) = year := by omega
      have hsign : "-".toList = ['-'] := rfl
      rw [if_pos hneg, hsign, List.singleton_append, takeYear_minus, htake, Option.map_some, hyear]
    · have hyear : (year.natAbs : Int) = year := by omega
      have hsign : "+".toList = ['+'] := rfl
      rw [if_neg hneg, hsign, List.singleton_append, takeYear_plus, htake, Option.map_some, hyear]

/-- Digits behind the point are shifted to nanoseconds. -/
theorem takeFraction_padded {width n : Nat} (hwidth : 0 < width) (hmost : width ≤ 9)
    (hn : n < 10 ^ width) {rest : List Char} (hrest : Decimal.NoDigitFirst rest) :
    takeFraction ('.' :: ((padded width n).toList ++ rest)) =
      some (n * Nat.pow 10 (9 - width), rest) := by
  have hlength := length_padded hwidth hn
  have hfits : (padded width n).toList.length ≤ 9 := hlength.trans_le hmost
  have hdigits := all_isDigit_padded width n
  simp only [takeFraction, takeNumber_padded rest hfits (.inr hrest),
    takeWhile_padded rest hfits (.inr hrest), hlength, Decimal.dropWhile_digits hdigits hrest]
  rfl

/-- **The fraction of a second is taken up to the end mark.** -/
theorem takeFraction_fractionText {n : Nat} (hn : n < 1000000000) :
    takeFraction ((fractionText n).toList ++ ['Z']) = some (n, ['Z']) := by
  have hmark : Decimal.NoDigitFirst ['Z'] := Decimal.noDigitFirst_cons (by decide) []
  have htake : ∀ width m : Nat, 0 < width → width ≤ 9 → m < 10 ^ width →
      n = m * Nat.pow 10 (9 - width) →
      takeFraction (("." ++ padded width m).toList ++ ['Z']) = some (n, ['Z']) := by
    intro width m hwidth hmost hm hvalue
    rw [String.toList_append, hvalue]
    exact takeFraction_padded hwidth hmost hm hmark
  unfold fractionText
  split_ifs with h0 h6 h3
  · rw [h0]
    rfl
  · exact htake 3 _ (by decide) (by decide) (by omega) (by norm_num; omega)
  · exact htake 6 _ (by decide) (by decide) (by omega) (by norm_num; omega)
  · exact htake 9 _ (by decide) (by decide) (by omega) (by norm_num)

/-! ## The whole text -/

/-- **A point in time of the calendar.** Only the last second of a minute has a leap second in it,
and the year is one that can be read. -/
@[mk_iff]
structure Valid (t : Timestamp) : Prop where
  second : t.second < 86400
  nanosecond : t.nanosecond < 1000000000 ∨ t.second % 60 = 59 ∧ t.nanosecond < 2000000000
  year : isYear (date (t.day + epoch)).1

instance (t : Timestamp) : Decidable t.Valid := decidable_of_iff' _ (valid_iff t)

/-- **A point in time is found again from its date and its time of day.** -/
theorem ofLocal_date {t : Timestamp} (h : t.Valid) :
    ofLocal (date (t.day + epoch)).1 (date (t.day + epoch)).2.1 (date (t.day + epoch)).2.2
      (t.second / 3600) (t.second / 60 % 60) (t.second % 60 + t.nanosecond / 1000000000)
      (t.nanosecond % 1000000000) 0 = some t := by
  obtain ⟨day, second, nanosecond⟩ := t
  obtain ⟨hsecond, hnanosecond, hyear⟩ := h
  simp only at hsecond hnanosecond hyear ⊢
  have hmonth := month_date (day + epoch)
  have hday := day_date (day + epoch)
  have hnumber := dayNumber_date (day + epoch)
  -- the sixtieth second is the leap second again
  have hleap : (second % 60 + nanosecond / 1000000000) / 60 = nanosecond / 1000000000 := by omega
  have hmoment : 3600 * ((second / 3600 : Nat) : Int) + 60 * ((second / 60 % 60 : Nat) : Int) +
      ((second % 60 + nanosecond / 1000000000 - nanosecond / 1000000000 : Nat) : Int) - 0 =
        second := by omega
  have hsame : day + epoch + (second : Int) / 86400 = day + epoch := by omega
  have hin : (isYear (date (day + epoch)).1 && decide (1 ≤ (date (day + epoch)).2.1) &&
      decide ((date (day + epoch)).2.1 ≤ 12) && decide (1 ≤ (date (day + epoch)).2.2) &&
      decide ((date (day + epoch)).2.2 ≤
        daysInMonth (date (day + epoch)).1 (date (day + epoch)).2.1) &&
      decide (second / 3600 < 24) && decide (second / 60 % 60 < 60) &&
      decide (second % 60 + nanosecond / 1000000000 ≤ 60)) = true := by
    simp only [hyear, hmonth, hday, Bool.and_eq_true, decide_eq_true_eq, true_and, and_true]
    omega
  rw [ofLocal, if_pos hin]
  simp only [hleap, hmoment, hnumber, hsame, hyear, if_true, Option.some.injEq, mk.injEq]
  omega

/-- The parts of a written point in time. -/
theorem toList_write (t : Timestamp) : t.write.toList =
    (yearText (date (t.day + epoch)).1).toList ++ '-' ::
      ((padded 2 (date (t.day + epoch)).2.1).toList ++ '-' ::
      ((padded 2 (date (t.day + epoch)).2.2).toList ++ 'T' ::
      ((padded 2 (t.second / 3600)).toList ++ ':' ::
      ((padded 2 (t.second / 60 % 60)).toList ++ ':' ::
      ((padded 2 (t.second % 60 + t.nanosecond / 1000000000)).toList ++
      ((fractionText (t.nanosecond % 1000000000)).toList ++ ['Z'])))))) := by
  simp [write]

/-- **A point in time is read back from its text.** -/
theorem read_write {t : Timestamp} (h : t.Valid) : read t.write = some t := by
  have hmonth := month_date (t.day + epoch)
  have hday := day_date (t.day + epoch)
  have hdays : daysInMonth (date (t.day + epoch)).1 (date (t.day + epoch)).2.1 ≤ 31 := by
    unfold daysInMonth
    split
    · split <;> decide
    all_goals decide
  have hsecond := h.second
  have hleap := h.nanosecond
  have hdash : Text.isBlank '-' = false := by decide
  have hcolon : Text.isBlank ':' = false := by decide
  have hoffset : takeOffset (skipBlanks ['Z']) = some (0, []) := rfl
  have hnext : ∀ {α β : Type} (a : α) (f : α → Option β), (some a >>= f) = f a := fun _ _ => rfl
  -- the date
  rw [read, toList_write, takeYear_yearText, hnext]
  dsimp only
  rw [takeMark_cons hdash, hnext, takePair_padded (by omega), hnext]
  dsimp only
  rw [takeMark_cons hdash, hnext, takePair_padded (by omega), hnext]
  dsimp only
  -- the time of day
  rw [if_pos (by decide), hnext, takePair_padded (by omega), hnext]
  dsimp only
  rw [takeMark_cons hcolon, hnext, takePair_padded (by omega), hnext]
  dsimp only
  rw [takeMark_cons hcolon, hnext, takePair_padded (by omega), hnext]
  dsimp only
  rw [takeFraction_fractionText (by omega), hnext]
  dsimp only
  rw [hoffset, hnext]
  exact ofLocal_date h

end LoadPlan.Timestamp
