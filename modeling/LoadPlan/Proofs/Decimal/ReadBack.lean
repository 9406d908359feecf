import LoadPlan.Proofs.Decimal.Numeral
import Mathlib
/-!
# Reading a written double back

The numeral of a double is read as its magnitude, and magnitude and sign make the double again
(`toFloat_pattern`). So reading undoes writing: `Style.readChars_chars`.
-/

namespace LoadPlan.Decimal

/-- Sign and pattern make the double. -/
theorem toFloat_pattern (x : Float) : toFloat (signed x) (pattern x) = x := by
  have hbits : pattern x + (if signed x then signPattern else 0) = x.toBits.toNat := by
    have hbound : x.toBits.toNat < 2 * signPattern := x.toBits.toNat_lt
    unfold pattern
    by_cases hsigned : signed x
    · have hle : signPattern ≤ x.toBits.toNat := by simpa [signed] using hsigned
      rw [if_pos hsigned, Nat.mod_eq_sub_mod hle, Nat.mod_eq_of_lt (by omega),
        Nat.sub_add_cancel hle]
    · have hlt : x.toBits.toNat < signPattern := by simpa [signed] using hsigned
      rw [if_neg hsigned, Nat.mod_eq_of_lt hlt, Nat.add_zero]
  -- the last lemma comes with the whole library, and with no smaller part of it
  rw [toFloat, hbits, UInt64.ofNat_toNat, Float.ofBits_toBits]

/-- **A written double is read back**, in any style, if it is finite. -/
theorem Style.readChars_chars (style : Style) {x : Float} (hx : isFinite x) :
    readChars (style.chars x) = some x := by
  obtain ⟨n, hchars, hvalue, -⟩ := style.exists_chars_eq hx
  rw [hchars, n.readChars_chars, hvalue, toFloat_pattern]

end LoadPlan.Decimal
