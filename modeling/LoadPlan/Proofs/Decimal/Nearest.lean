import LoadPlan.Decimal.Shortest
import Mathlib.Order.Monotone.Basic
import Mathlib.Tactic.Ring
/-!
# Reading the shortest decimal

The magnitudes of the patterns grow, and the midpoint of two neighbours lies strictly between
them. So a decimal rounds to at most a pattern from one pattern on, which is what `nearest`
finds, and the exact expansion of a pattern is read as that pattern. Whatever else the search for
the shortest decimal ends with has been read back already; trailing zeros do not matter
(`nearest_mul_ten`). Together, `nearest_shortest`.
-/

namespace LoadPlan.Decimal

/-! ## Searching by halves -/

/-- **The search finds where a test begins to hold.** -/
theorem leastFrom_eq {p : Nat → Bool} {lo k c : Nat}
    (h : ∀ i, lo ≤ i → i < lo + 2 ^ k → (p i ↔ c ≤ i)) (hlo : lo ≤ c) (hc : c < lo + 2 ^ k) :
    leastFrom p lo k = c := by
  induction k generalizing lo with
  | zero =>
    rw [pow_zero] at hc
    rw [leastFrom]
    omega
  | succ k ih =>
    have hhalves : 2 ^ (k + 1) = 2 ^ k + 2 ^ k := by ring
    have hpos : 0 < 2 ^ k := Nat.two_pow_pos k
    rw [leastFrom]
    simp only [Nat.pow_eq]
    have hmiddle := h (lo + 2 ^ k - 1) (by omega) (by omega)
    by_cases hp : p (lo + 2 ^ k - 1)
    · rw [if_pos hp]
      have hle := hmiddle.1 hp
      exact ih (fun i hi hi' => h i hi (by omega)) hlo (by omega)
    · rw [if_neg hp]
      have hgt : ¬c ≤ lo + 2 ^ k - 1 := fun hle => hp (hmiddle.2 hle)
      exact ih (fun i hi hi' => h i (by omega) (by omega)) (by omega) (by omega)

/-! ## Magnitudes -/

/-- The magnitude of a pattern by exponent and fraction. -/
theorem scaled_add_mul {r : Nat} (q : Nat) (hr : r < Nat.pow 2 52) :
    scaled (r + Nat.pow 2 52 * q) =
      if q = 0 then 2 * r else 2 * (Nat.pow 2 52 + r) * 2 ^ (q - 1) := by
  have hpos : 0 < Nat.pow 2 52 := by decide
  unfold scaled
  generalize Nat.pow 2 52 = step at *
  dsimp only
  rw [Nat.add_mul_mod_self_left, Nat.add_mul_div_left _ _ hpos, Nat.mod_eq_of_lt hr,
    Nat.div_eq_of_lt hr, Nat.zero_add]
  rcases Nat.eq_zero_or_pos q with rfl | hq
  · rw [Nat.mul_zero, Nat.add_zero, if_pos hr, if_pos rfl]
  · have hle : step ≤ step * q := Nat.le_mul_of_pos_right step hq
    rw [if_neg (by omega), if_neg (by omega), Nat.pow_eq]

/-- Neighbours are at least two units apart: their midpoint is strictly between them. -/
theorem scaled_add_two_le (b : Nat) : scaled b + 2 ≤ scaled (b + 1) := by
  have hpos : 0 < Nat.pow 2 52 := by decide
  obtain ⟨q, r, hr, rfl⟩ : ∃ q r, r < Nat.pow 2 52 ∧ b = r + Nat.pow 2 52 * q :=
    ⟨b / Nat.pow 2 52, b % Nat.pow 2 52, Nat.mod_lt b hpos, (Nat.mod_add_div b _).symm⟩
  rw [scaled_add_mul q hr]
  by_cases hlast : r + 1 < Nat.pow 2 52
  · -- the next fraction
    have hnext : r + Nat.pow 2 52 * q + 1 = (r + 1) + Nat.pow 2 52 * q := by omega
    rw [hnext, scaled_add_mul q hlast]
    generalize Nat.pow 2 52 = step
    split
    · omega
    · have hunit : 0 < 2 ^ (q - 1) := Nat.two_pow_pos _
      calc 2 * (step + r) * 2 ^ (q - 1) + 2
          ≤ 2 * (step + r) * 2 ^ (q - 1) + 2 * 2 ^ (q - 1) := by omega
        _ = 2 * (step + (r + 1)) * 2 ^ (q - 1) := by ring
  · -- the next exponent
    have hnext : r + Nat.pow 2 52 * q + 1 = 0 + Nat.pow 2 52 * (q + 1) := by
      rw [Nat.mul_succ]
      omega
    rw [hnext, scaled_add_mul (q + 1) hpos, if_neg (Nat.succ_ne_zero q), Nat.add_zero,
      Nat.add_sub_cancel]
    generalize Nat.pow 2 52 = step at *
    obtain rfl : step = r + 1 := by omega
    split
    · next hq =>
      subst hq
      omega
    · next hq =>
      have hunit : 0 < 2 ^ (q - 1) := Nat.two_pow_pos _
      have hdouble : 2 ^ q = 2 * 2 ^ (q - 1) := by
        rw [← Nat.pow_succ', Nat.succ_eq_add_one, Nat.sub_add_cancel (Nat.pos_of_ne_zero hq)]
      calc 2 * (r + 1 + r) * 2 ^ (q - 1) + 2
          ≤ 2 * (r + 1 + r) * 2 ^ (q - 1) + 2 * 2 ^ (q - 1) := by omega
        _ = 2 * (r + 1) * 2 ^ q := by rw [hdouble]; ring

theorem scaled_strictMono : StrictMono scaled :=
  strictMono_nat_of_lt_succ fun b => by
    have := scaled_add_two_le b
    omega

theorem scaled_pos {b : Nat} (hb : 0 < b) : 0 < scaled b :=
  Nat.lt_of_le_of_lt (Nat.zero_le _) (scaled_strictMono hb)

/-- **A midpoint is strictly between the magnitudes** of its pattern and the next. -/
theorem scaled_lt_midpoint (b : Nat) : scaled b < midpoint b ∧ midpoint b < scaled (b + 1) := by
  have hgap := scaled_add_two_le b
  unfold midpoint
  omega

/-- Magnitudes and midpoints alternate. -/
theorem scaled_lt_midpoint_iff {b i : Nat} : scaled b < midpoint i ↔ b ≤ i := by
  constructor
  · intro h
    by_contra hlt
    have hle : scaled (i + 1) ≤ scaled b := scaled_strictMono.monotone (by omega)
    have hmid := (scaled_lt_midpoint i).2
    omega
  · intro h
    have hle := scaled_strictMono.monotone h
    have hmid := (scaled_lt_midpoint i).1
    omega

theorem scaled_ne_midpoint (b i : Nat) : scaled b ≠ midpoint i := by
  intro heq
  by_cases hle : b ≤ i
  · have hlt := scaled_lt_midpoint_iff.2 hle
    omega
  · have hle : scaled (i + 1) ≤ scaled b := scaled_strictMono.monotone (by omega)
    have hmid := (scaled_lt_midpoint i).2
    omega

/-! ## Rounding -/

/-- How many half units of the least subnormal make one. -/
def one : Nat := Nat.pow 2 1075

/-- A number rounds to at most a pattern if it is below the midpoint to the next, or at it and the
pattern is even. -/
theorem roundsAtMost_iff {d : Decimal} {i : Nat} :
    roundsAtMost d i ↔ infinityPattern ≤ i ∨ d.num * one < midpoint i * d.den ∨
      d.num * one = midpoint i * d.den ∧ i % 2 = 0 := by
  unfold roundsAtMost one
  simp only [Bool.or_eq_true, Bool.and_eq_true, beq_iff_eq, decide_eq_true_eq, or_assoc]

/-- A pattern lies below the limit of the search. -/
theorem infinityPattern_lt : infinityPattern < 0 + 2 ^ 63 := by decide

/-- If the digits have one of two factors of a power of ten, the number is a fraction over the other
one. -/
theorem num_mul_of_digits {d : Decimal} {m k p q : Nat} (hdigits : d.digits = m * p)
    (hexponent : d.exponent = -(k : Int)) (hten : p * q = Nat.pow 10 k) :
    d.num * q = m * d.den := by
  have hnum : d.num = m * p := by simp [num, hdigits, hexponent]
  have hden : d.den = Nat.pow 10 k := by simp [den, hexponent]
  rw [hnum, hden, Nat.mul_assoc, hten]

/-- The exact expansion has the magnitude of its pattern. -/
theorem num_exact_mul_one (b : Nat) : (exact b).num * one = scaled b * (exact b).den :=
  num_mul_of_digits (k := 1075) (p := Nat.pow 5 1075) rfl rfl (by decide +kernel)

theorem den_exact_pos (b : Nat) : 0 < (exact b).den := Nat.pow_pos (by decide)

/-- **The exact expansion of a pattern rounds to the patterns from it on.** -/
theorem roundsAtMost_exact {b i : Nat} (hb : b < infinityPattern) :
    roundsAtMost (exact b) i ↔ b ≤ i := by
  have hpos := den_exact_pos b
  rw [roundsAtMost_iff, num_exact_mul_one, Nat.mul_lt_mul_right hpos, Nat.mul_left_inj hpos.ne',
    scaled_lt_midpoint_iff]
  have hne := scaled_ne_midpoint b i
  omega

/-- A number has more digits than the powers of ten below it say. -/
theorem lt_width {n k : Nat} (h : Nat.pow 10 k ≤ n) : k < width n := by
  rcases Nat.eq_zero_or_pos k with rfl | hk
  · exact Nat.length_toDigits_pos
  · by_contra hle
    have hlt := (Nat.length_toDigits_le_iff (by decide) hk).1 (Nat.le_of_not_lt hle)
    exact absurd h (Nat.not_le_of_lt hlt)

/-- **The exact expansion of a pattern is read as that pattern.** -/
theorem nearest_exact {b : Nat} (hpos : 0 < b) (hb : b < infinityPattern) :
    nearest (exact b) = b := by
  have hdigits : Nat.pow 10 675 ≤ scaled b * Nat.pow 5 1075 :=
    calc Nat.pow 10 675 ≤ Nat.pow 5 1075 := by decide +kernel
      _ ≤ scaled b * Nat.pow 5 1075 := Nat.le_mul_of_pos_left _ (scaled_pos hpos)
  have hwidth := lt_width hdigits
  have hfive : 0 < Nat.pow 5 1075 := by decide +kernel
  have hnonzero : scaled b * Nat.pow 5 1075 ≠ 0 := (Nat.mul_pos (scaled_pos hpos) hfive).ne'
  have hinfinity := infinityPattern_lt
  have hsearch : leastFrom (roundsAtMost (exact b)) 0 63 = b :=
    leastFrom_eq (fun i _ _ => roundsAtMost_exact hb) (Nat.zero_le b) (by omega)
  unfold nearest
  rw [hsearch]
  unfold exact
  generalize scaled b * Nat.pow 5 1075 = n at *
  dsimp only
  rw [if_neg hnonzero, if_neg (by omega), if_neg (by decide)]

/-! ## Trailing zeros -/

/-- Numbers that are the same fraction round alike. -/
theorem roundsAtMost_congr {d d' : Decimal} {c : Nat} (hc : 0 < c)
    (h : d.num = c * d'.num ∧ d.den = c * d'.den ∨ d.num = d'.num ∧ d.den = d'.den) :
    roundsAtMost d = roundsAtMost d' := by
  funext i
  rw [Bool.eq_iff_iff, roundsAtMost_iff, roundsAtMost_iff]
  rcases h with ⟨hnum, hden⟩ | ⟨hnum, hden⟩
  · have hvalue : d.num * one = c * (d'.num * one) := by rw [hnum, Nat.mul_assoc]
    have hlimit : midpoint i * d.den = c * (midpoint i * d'.den) := by
      rw [hden, Nat.mul_left_comm]
    rw [hvalue, hlimit, Nat.mul_lt_mul_left hc, Nat.mul_right_inj hc.ne']
  · rw [hnum, hden]

/-- A zero at the end of the digits does not matter to rounding. -/
theorem roundsAtMost_mul_ten (n : Nat) (e : Int) :
    roundsAtMost ⟨10 * n, e⟩ = roundsAtMost ⟨n, e + 1⟩ := by
  refine roundsAtMost_congr (by decide : 0 < 10) ?_
  simp only [num, den, Nat.pow_eq]
  rcases lt_or_ge e 0 with hneg | hpos
  · -- a factor of both parts of the fraction
    left
    obtain ⟨k, rfl⟩ : ∃ k : Nat, e = -((k : Int) + 1) := ⟨(-e - 1).toNat, by omega⟩
    have hnum : (-((k : Int) + 1)).toNat = 0 ∧ (-((k : Int) + 1) + 1).toNat = 0 := by omega
    have hden : (-(-((k : Int) + 1))).toNat = k + 1 ∧ (-(-((k : Int) + 1) + 1)).toNat = k := by
      omega
    rw [hnum.1, hnum.2, hden.1, hden.2]
    exact ⟨by ring, by ring⟩
  · -- a digit becomes a power
    right
    have hnum : (e + 1).toNat = e.toNat + 1 := by omega
    have hden : (-e).toNat = 0 ∧ (-(e + 1)).toNat = 0 := by omega
    rw [hnum, hden.1, hden.2]
    exact ⟨by ring, rfl⟩

/-- With a great exponent a number is at least a power of ten. -/
theorem lt_num_mul {n k x q : Nat} (hn : n ≠ 0) {e : Int} (he : (k : Int) < e)
    (hx : x < Nat.pow 10 k * q) : x < (Decimal.mk n e).num * q := by
  have hnum : 10 ^ k ≤ (Decimal.mk n e).num :=
    calc 10 ^ k ≤ 10 ^ e.toNat := Nat.pow_le_pow_right (by decide) (by omega)
      _ ≤ n * 10 ^ e.toNat := Nat.le_mul_of_pos_left _ (Nat.pos_of_ne_zero hn)
  exact Nat.lt_of_lt_of_le hx (Nat.mul_le_mul_right q hnum)

/-- A number too great for a double is read as infinity. -/
theorem leastFrom_roundsAtMost_of_large {n : Nat} (hn : n ≠ 0) {e : Int} (he : 400 < e) :
    leastFrom (roundsAtMost ⟨n, e⟩) 0 63 = infinityPattern := by
  have hlarge : scaled infinityPattern < (Decimal.mk n e).num * one :=
    lt_num_mul (k := 400) hn (by omega) (by decide +kernel)
  have hden : (Decimal.mk n e).den = 1 := by
    rw [den]
    have hzero : (-e).toNat = 0 := by omega
    rw [hzero]
  refine leastFrom_eq (fun i _ _ => ?_) (Nat.zero_le _) infinityPattern_lt
  rw [roundsAtMost_iff, hden, Nat.mul_one]
  constructor
  · intro h
    by_contra hlt
    have hmid : midpoint i < scaled infinityPattern :=
      Nat.lt_of_lt_of_le (scaled_lt_midpoint i).2 (scaled_strictMono.monotone (by omega))
    omega
  · exact .inl

/-- **A zero at the end of the digits does not matter to reading.** -/
theorem nearest_mul_ten (n : Nat) (e : Int) : nearest ⟨10 * n, e⟩ = nearest ⟨n, e + 1⟩ := by
  rcases Nat.eq_zero_or_pos n with rfl | hn
  · simp [nearest]
  have hwidth : width (10 * n) = width n + 1 := by
    rw [width, Nat.toDigits_of_base_le (by decide) (by omega), List.length_append,
      Nat.mul_div_cancel_left n (by decide)]
    rfl
  unfold nearest
  dsimp only
  rw [hwidth, if_neg (by omega), if_neg (Nat.ne_of_gt hn), roundsAtMost_mul_ten]
  have hsame : e + ↑(width n + 1) = e + 1 + ↑(width n) := by omega
  rw [hsame]
  by_cases hlarge : e + 1 > 400
  · -- at the limit only one side is searched
    rw [if_pos hlarge, leastFrom_roundsAtMost_of_large (Nat.ne_of_gt hn) hlarge, ite_self]
  · rw [if_neg hlarge, if_neg (show ¬e > 400 by omega)]

theorem nearest_trim (d : Decimal) : nearest (trim d) = nearest d := by
  induction d using trim.induct with
  | case1 d h ih =>
    obtain ⟨n, e⟩ := d
    have hten : n = 10 * (n / 10) := by
      have := h.2
      dsimp only at this
      omega
    rw [trim, dif_pos h, ih, ← nearest_mul_ten]
    dsimp only
    rw [← hten]
  | case2 d h => rw [trim, dif_neg h]

/-- Zeros at the end of the digits do not matter to reading. -/
theorem nearest_mul_ten_pow (n k : Nat) (e : Int) :
    nearest ⟨10 ^ k * n, e⟩ = nearest ⟨n, e + k⟩ := by
  induction k generalizing e with
  | zero => simp
  | succ k ih =>
    have hpow : 10 ^ (k + 1) * n = 10 * (10 ^ k * n) := by ring
    rw [hpow, nearest_mul_ten, ih]
    congr 2
    push_cast
    ring

/-! ## The shortest decimal -/

/-- What a grid offers has been read back. -/
theorem nearest_of_onGrid {tie : Tie} {b : Nat} {e : Int} {d : Decimal}
    (h : onGrid tie b e = some d) : nearest d = b := by
  unfold onGrid at h
  dsimp only at h
  split at h
  · next hlow hhigh =>
    rw [← Option.some.inj h, apply_ite nearest, beq_iff_eq.1 hlow, beq_iff_eq.1 hhigh, ite_self]
  · next hlow _ => rw [← Option.some.inj h, beq_iff_eq.1 hlow]
  · next _ hhigh => rw [← Option.some.inj h, beq_iff_eq.1 hhigh]
  · cases h

theorem nearest_search {tie : Tie} {b : Nat} (hpos : 0 < b) (hb : b < infinityPattern) (e : Int)
    (fuel : Nat) : nearest (search tie b e fuel) = b := by
  induction fuel generalizing e with
  | zero =>
    rw [search]
    exact nearest_exact hpos hb
  | succ fuel ih =>
    rw [search]
    cases h : onGrid tie b e with
    | none => exact ih (e - 1)
    | some d => exact nearest_of_onGrid h

/-- **The shortest decimal of a finite pattern is read as that pattern.** -/
theorem nearest_shortest (tie : Tie) {b : Nat} (hb : b < infinityPattern) :
    nearest (shortest tie b) = b := by
  unfold shortest
  split
  · next hzero =>
    simp [nearest, hzero]
  · next hne => rw [nearest_trim, nearest_search (Nat.pos_of_ne_zero hne) hb]

end LoadPlan.Decimal
