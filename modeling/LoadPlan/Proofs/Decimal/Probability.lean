import LoadPlan.Behavior.Validation
import LoadPlan.Proofs.Decimal.Nearest
import Mathlib.Algebra.Order.Field.Power
import Mathlib.Algebra.Order.Ring.Rat
import Mathlib.Tactic.Positivity
/-!
# Numbers between zero and one

Validation compares a probability with zero and one as doubles are compared, so a `NaN` fails both
comparisons and an infinity one of them. What passes is finite (`isFinite_of_isProbability`) and not
negative: either it is a zero of any sign, or its sign is plus (`unpack_of_isProbability`). A
comparison reads a double unpacked, into a sign, a mantissa and an exponent (`unpack_cases`); these
also give the exact number, as a fraction, which is between zero and one as well (`exactly_nonneg`
and `exactly_le_one`), and they bound the pattern (`pattern_lt_of_isProbability`).
-/

namespace LoadPlan

open Float.Model

namespace Decimal

/-- **The exact number that a finite double is.** -/
def exactly (x : Float) : ℚ :=
  match x.toModel.unpack with
  | .finite sign mantissa exponent _ => sign.apply (mantissa : ℤ) * 2 ^ exponent
  | _ => 0

/-! ## Unpacked doubles -/

theorem le_iff_unpack {x y : Float} : x ≤ y ↔ x.toModel.unpack.le y.toModel.unpack = true := by
  change decide (x.toModel.le y.toModel = true) = true ↔ _
  rw [decide_eq_true_iff]
  exact Iff.rfl

/-- The exponent is the eleven bits above the mantissa. -/
theorem toNat_unpackExponent (x : Float) :
    (@UnpackedFloat.unpackExponent Format.binary64 x.toModel.toBits.toBitVec).toNat =
      pattern x / 2 ^ 52 := by
  have hbits : x.toModel.toBits.toBitVec.toNat = x.toBits.toNat := rfl
  have hexponent : x.toBits.toNat / 2 ^ 52 % 2 ^ 11 = pattern x / 2 ^ 52 := by
    simp only [pattern, signPattern]
    omega
  rw [← hexponent, ← hbits]
  simp only [UnpackedFloat.unpackExponent, BitVec.toNat_cast, BitVec.extractLsb_toNat,
    Nat.shiftRight_eq_div_pow]

/-- **What a double is unpacked into.** The greatest exponent is kept for infinities and `NaN`. A
mantissa has 53 bits: those of the pattern, and one in front of them unless the exponent is the
least one, which zeros have as well. -/
theorem unpack_cases (x : Float) :
    (infinityPattern ≤ pattern x ∧
      ((∃ sign, x.toModel.unpack = .infinity sign) ∨ x.toModel.unpack = .notANumber)) ∨
    (pattern x < 2 ^ 52 ∧ ∃ sign, x.toModel.unpack = .zero sign) ∨
    (pattern x < infinityPattern ∧ ∃ sign mantissa exponent hpos,
      x.toModel.unpack = .finite sign mantissa exponent hpos ∧ mantissa < 2 ^ 53 ∧
        (pattern x / 2 ^ 52 : ℕ) ≤ exponent + 1075) := by
  have hbits := toNat_unpackExponent x
  have hbound : pattern x < signPattern := Nat.mod_lt _ (by decide)
  have hunpack : x.toModel.unpack = UnpackedFloat.unpack Format.binary64
    x.toModel.toBits.toBitVec := rfl
  rw [hunpack]
  unfold UnpackedFloat.unpack
  dsimp only
  generalize x.toModel.toBits.toBitVec = bits at hbits
  by_cases hones : @UnpackedFloat.unpackExponent Format.binary64 bits = -1#_
  · rw [if_pos hones]
    have hexponent : pattern x / 2 ^ 52 = 2047 := by rw [← hbits, hones]; rfl
    refine .inl ⟨by simp only [infinityPattern]; omega, ?_⟩
    split
    · exact .inl ⟨_, rfl⟩
    · exact .inr rfl
  · rw [if_neg hones]
    have hexponent : pattern x / 2 ^ 52 ≠ 2047 := fun h =>
      hones (BitVec.eq_of_toNat_eq (hbits.trans h))
    have hfinite : pattern x < infinityPattern := by
      simp only [infinityPattern, signPattern] at hbound ⊢
      omega
    by_cases hleast : @UnpackedFloat.unpackExponent Format.binary64 bits = 0#_
    · rw [if_pos hleast]
      have hzero : pattern x / 2 ^ 52 = 0 := by rw [← hbits, hleast]; rfl
      by_cases hmantissa : @UnpackedFloat.unpackMantissa Format.binary64 bits = 0#_
      · rw [dif_pos hmantissa]
        exact .inr (.inl ⟨by omega, _, rfl⟩)
      · rw [dif_neg hmantissa]
        have hpos : 0 < (@UnpackedFloat.unpackMantissa Format.binary64 bits).toNat :=
          Nat.pos_of_ne_zero fun h => hmantissa (BitVec.eq_of_toNat_eq h)
        refine .inr (.inr ⟨hfinite, _, _, _, hpos, rfl, (BitVec.isLt _).trans (by decide), ?_⟩)
        rw [hleast, hzero]
        decide
    · rw [if_neg hleast]
      generalize_proofs hpos
      refine .inr (.inr ⟨hfinite, _, _, _, hpos, rfl, BitVec.isLt _, ?_⟩)
      rw [hbits]
      simp only [Format.exponentBias]
      omega

/-- The exponent of a finite double is at least what its bits say. -/
theorem range_of_unpack {x : Float} {sign : UnpackedFloat.Sign} {mantissa : ℕ} {exponent : ℤ}
    {hpos : 0 < mantissa} (h : x.toModel.unpack = .finite sign mantissa exponent hpos) :
    mantissa < 2 ^ 53 ∧ (pattern x / 2 ^ 52 : ℕ) ≤ exponent + 1075 := by
  rcases unpack_cases x with ⟨-, ⟨_, hx⟩ | hx⟩ | ⟨-, _, hx⟩ | ⟨-, _, _, _, _, hx, hrange⟩
  · cases h.symm.trans hx
  · cases h.symm.trans hx
  · cases h.symm.trans hx
  · cases h.symm.trans hx
    exact hrange

/-! ## Probabilities -/

variable {p : Float}

/-- **A probability is a zero, or a finite double with the sign plus.** -/
theorem unpack_of_isProbability (h : BehaviorModel.isProbability p) :
    (∃ sign, p.toModel.unpack = .zero sign) ∨
      ∃ mantissa exponent hpos, p.toModel.unpack = .finite .positive mantissa exponent hpos := by
  simp only [BehaviorModel.isProbability, Bool.and_eq_true, decide_eq_true_eq, le_iff_unpack] at h
  obtain ⟨hzero, hone⟩ := h
  have h0 : (Float.toModel 0.0).unpack = .zero .positive := rfl
  have h1 : (Float.toModel 1.0).unpack = .finite .positive (2 ^ 52) (-52) (by decide) := rfl
  rw [h0] at hzero
  rw [h1] at hone
  cases hp : p.toModel.unpack with
  | notANumber => rw [hp] at hzero; cases hzero
  | infinity sign =>
    rw [hp] at hzero hone
    cases sign with
    | negative => cases hzero
    | positive => cases hone
  | zero sign => exact .inl ⟨sign, rfl⟩
  | finite sign mantissa exponent hpos =>
    rw [hp] at hzero
    cases sign with
    | negative => cases hzero
    | positive => exact .inr ⟨mantissa, exponent, hpos, rfl⟩

/-- A probability is finite. -/
theorem isFinite_of_isProbability (h : BehaviorModel.isProbability p) : isFinite p := by
  rw [isFinite, decide_eq_true_eq]
  rcases unpack_cases p with ⟨-, hother⟩ | ⟨hlt, -⟩ | ⟨hlt, -⟩
  · -- neither a zero nor a finite double is an infinity or a `NaN`
    obtain ⟨sign, hzero⟩ | ⟨mantissa, exponent, hpos, hfinite⟩ := unpack_of_isProbability h <;>
      obtain ⟨sign, hother⟩ | hother := hother
    · cases hzero.symm.trans hother
    · cases hzero.symm.trans hother
    · cases hfinite.symm.trans hother
    · cases hfinite.symm.trans hother
  · exact hlt.trans (by decide)
  · exact hlt

/-- A probability is not negative. -/
theorem exactly_nonneg (h : BehaviorModel.isProbability p) : 0 ≤ exactly p := by
  rw [exactly]
  rcases unpack_of_isProbability h with ⟨sign, hp⟩ | ⟨mantissa, exponent, hpos, hp⟩
  · rw [hp]
  · rw [hp]
    simp only [UnpackedFloat.Sign.apply]
    positivity

/-- A probability that is not zero compares with one by its exponent, then by its mantissa. -/
theorem le_of_isProbability (h : BehaviorModel.isProbability p)
    {mantissa : ℕ} {exponent : ℤ} {hpos : 0 < mantissa}
    (hp : p.toModel.unpack = .finite .positive mantissa exponent hpos) :
    exponent ≤ -52 ∧ (exponent < -52 ∨ mantissa ≤ 2 ^ 52) := by
  have hone : p ≤ 1.0 := by
    simp only [BehaviorModel.isProbability, Bool.and_eq_true, decide_eq_true_eq] at h
    exact h.2
  have h1 : (Float.toModel 1.0).unpack = .finite .positive (2 ^ 52) (-52) (by decide) := rfl
  rw [le_iff_unpack, hp, h1] at hone
  have hcompared : ((compare exponent (-52)).then (compare mantissa (2 ^ 52))).isLE := hone
  rwa [Ordering.isLE_then_iff_and, Int.isLE_compare, Int.compare_eq_lt, Nat.isLE_compare]
    at hcompared

/-- A probability is at most one. -/
theorem exactly_le_one (h : BehaviorModel.isProbability p) : exactly p ≤ 1 := by
  rw [exactly]
  rcases unpack_of_isProbability h with ⟨sign, hp⟩ | ⟨mantissa, exponent, hpos, hp⟩
  · rw [hp]
    exact zero_le_one
  · -- the mantissa is a double's, so only the exponent of one allows it all its bits
    have hmantissa : mantissa < 2 ^ 53 := (range_of_unpack hp).1
    have hscale : ∀ k : ℕ, mantissa ≤ 2 ^ k → exponent ≤ -k → (mantissa : ℚ) * 2 ^ exponent ≤ 1 := by
      intro k hle hexponent
      calc (mantissa : ℚ) * 2 ^ exponent
          ≤ 2 ^ k * 2 ^ (-k : ℤ) :=
            mul_le_mul (mod_cast hle) (zpow_le_zpow_right₀ one_le_two hexponent) (by positivity)
              (by positivity)
        _ = 1 := by rw [zpow_neg, zpow_natCast, mul_inv_cancel₀ (by positivity)]
    rw [hp]
    obtain ⟨hexponent, hless | hle⟩ := le_of_isProbability h hp
    · exact hscale 53 hmantissa.le (by push_cast; omega)
    · exact hscale 52 hle (by push_cast; omega)

/-- The pattern of a probability is below that of two. -/
theorem pattern_lt_of_isProbability (h : BehaviorModel.isProbability p) : pattern p < 2 ^ 62 := by
  rcases unpack_of_isProbability h with ⟨sign, hp⟩ | ⟨mantissa, exponent, hpos, hp⟩
  · rcases unpack_cases p with ⟨-, ⟨_, hx⟩ | hx⟩ | ⟨hlt, -⟩ | ⟨-, _, _, _, _, hx, -⟩
    · cases hp.symm.trans hx
    · cases hp.symm.trans hx
    · exact hlt.trans (by decide)
    · cases hp.symm.trans hx
  · have hbits := (range_of_unpack hp).2
    have hexponent := (le_of_isProbability h hp).1
    omega

end Decimal

end LoadPlan
