import LoadPlan.Proofs.Decimal.Minimal
import LoadPlan.Proofs.Decimal.Numeral
import LoadPlan.Proofs.Decimal.Probability
/-!
# Numbers that are written with a fraction

A text keeps a fraction if a point stands between two of its digits. Positional writing always has
one where whole numbers end in `.0`; exponent writing has one only if there are digits to put behind
the point (`Style.keepsFraction_magnitude_iff`). So a number between zero and one is written
precisely and without a fraction if it is below `0.0001` and some decimal of one digit is read as it,
and in no other case: `keepsFraction_precise_iff`.
-/

namespace LoadPlan.Decimal

/-- **A text keeps a fraction**: a point stands between two digits. -/
def KeepsFraction (cs : List Char) : Prop :=
  ∃ front c d rest, cs = front ++ c :: '.' :: d :: rest ∧ c.isDigit ∧ d.isDigit

/-- **A lone digit**: the number is not zero, and it is the double nearest to one digit in the fifth
place behind the point, or further behind it. -/
def IsLoneDigit (x : Float) : Prop :=
  pattern x ≠ 0 ∧ ∃ d k : ℕ, d < 10 ∧ 5 ≤ k ∧ nearest ⟨d, -k⟩ = pattern x

/-! ## Texts -/

theorem KeepsFraction.mem {cs : List Char} (h : KeepsFraction cs) : '.' ∈ cs := by
  obtain ⟨front, c, d, rest, rfl, -⟩ := h
  simp

/-- A sign does not matter. -/
theorem keepsFraction_sign_iff (negative : Bool) {cs : List Char} :
    KeepsFraction ((if negative then ['-'] else []) ++ cs) ↔ KeepsFraction cs := by
  cases negative with
  | false => rfl
  | true =>
    constructor
    · rintro ⟨front, c, d, rest, hcs, hc, hd⟩
      cases front with
      | nil =>
        obtain ⟨rfl, -⟩ := List.cons.inj hcs
        exact absurd hc (by decide)
      | cons sign front =>
        obtain ⟨-, hcs⟩ := List.cons.inj hcs
        exact ⟨front, c, d, rest, hcs, hc, hd⟩
    · rintro ⟨front, c, d, rest, rfl, hc, hd⟩
      exact ⟨'-' :: front, c, d, rest, rfl, hc, hd⟩

theorem not_mem_of_all_isDigit {cs : List Char} (h : cs.all Char.isDigit) : '.' ∉ cs := fun hmem =>
  absurd (List.all_eq_true.1 h _ hmem) (by decide)

theorem Numeral.not_mem_exponentChars (n : Numeral) : '.' ∉ n.exponentChars := by
  unfold exponentChars
  split
  · exact List.not_mem_nil
  · next plusSign e _ =>
    have hdigits := not_mem_of_all_isDigit (all_isDigit_toDigits e.natAbs)
    have hsign : '.' ∉ (if e < 0 then ['-'] else if plusSign then ['+'] else []) := by
      split_ifs <;> simp
    simp [exponentDigits, hdigits, hsign]

/-- **A numeral keeps the fraction that it has.** -/
theorem Numeral.keepsFraction_iff (n : Numeral) : KeepsFraction n.chars ↔ n.fraction ≠ [] := by
  constructor
  · intro h hnone
    have hmem := h.mem
    rw [chars, pointChars, if_pos hnone, List.mem_append] at hmem
    exact hmem.elim (not_mem_of_all_isDigit n.whole_digits) n.not_mem_exponentChars
  · intro hsome
    obtain ⟨front, c, hwhole⟩ :=
      (List.eq_nil_or_concat' n.whole).resolve_left n.whole_ne_nil
    obtain ⟨d, rest, hfraction⟩ := List.exists_cons_of_ne_nil hsome
    refine ⟨front, c, d, rest ++ n.exponentChars, ?_, ?_, ?_⟩
    · rw [chars, pointChars, if_neg hsome, hwhole, hfraction]
      simp
    · exact List.all_eq_true.1 n.whole_digits c (by simp [hwhole])
    · exact List.all_eq_true.1 n.fraction_digits d (by simp [hfraction])

/-! ## Magnitudes -/

/-- The digits behind the first. -/
theorem drop_toDigits_ne_nil_iff {m : ℕ} : (Nat.toDigits 10 m).drop 1 ≠ [] ↔ 10 ≤ m := by
  rw [ne_eq, List.drop_eq_nil_iff, Nat.length_toDigits_le_iff (by decide) (by decide), Nat.not_lt]

/-- **A magnitude is written without a fraction** if it has an exponent and a single digit. -/
theorem Style.keepsFraction_magnitude_iff (style : Style) (hpoint : style.pointZero) {b : ℕ}
    (hb : b < infinityPattern) :
    KeepsFraction (style.magnitude b) ↔
      style.positional ((shortest style.tie b).exponent + width (shortest style.tie b).digits - 1) ∨
        10 ≤ (shortest style.tie b).digits := by
  have hzero := exponent_shortest_eq_zero style.tie hb
  unfold magnitude width
  dsimp only
  generalize shortest style.tie b = d at hzero ⊢
  obtain ⟨m, e⟩ := d
  by_cases hpositional : style.positional (e + (Nat.toDigits 10 m).length - 1)
  · obtain ⟨n, hchars, -, hfraction⟩ := exists_numeral_positional style.pointZero hzero
    rw [if_pos hpositional, hchars, n.keepsFraction_iff]
    exact iff_of_true (hfraction hpoint) (.inl hpositional)
  · rw [if_neg hpositional, ← Numeral.chars_split_exponent, Numeral.keepsFraction_iff]
    exact drop_toDigits_ne_nil_iff.trans (or_iff_right hpositional).symm

/-- The leading digit bounds the pattern from below. -/
theorem nearest_le_of_lead {d : Decimal} (hd : d.digits ≠ 0) {e : ℤ}
    (he : e ≤ d.exponent + width d.digits - 1) : nearest ⟨1, e⟩ ≤ nearest d := by
  refine nearest_mono ?_
  calc (⟨1, e⟩ : Decimal).toRat
      = 10 ^ e := by rw [toRat, Nat.cast_one, one_mul]
    _ ≤ 10 ^ (d.exponent + width d.digits - 1) := zpow_le_zpow_right₀ (by norm_num) he
    _ ≤ d.toRat := (toRat_bounds hd).1

/-- A lone digit is below the fourth place. -/
theorem IsLoneDigit.pattern_lt {x : Float} (h : IsLoneDigit x) : pattern x < nearest ⟨1, -4⟩ := by
  obtain ⟨-, d, k, hd, hk, hread⟩ := h
  have hle : nearest ⟨d, -k⟩ ≤ nearest ⟨9, -5⟩ := by
    have hdigit : (d : ℚ) ≤ 9 := by exact_mod_cast Nat.le_of_lt_succ hd
    refine nearest_mono (mul_le_mul hdigit ?_ (by positivity) (by norm_num))
    have hplace : -(k : ℤ) ≤ -5 := by omega
    exact zpow_le_zpow_right₀ (by norm_num) hplace
  have hlt : nearest ⟨9, -5⟩ < nearest ⟨1, -4⟩ := by decide +kernel
  exact hread ▸ hle.trans_lt hlt

variable {p : Float}

/-- Ten to the sixteenth is far above one. -/
theorem lead_lt_of_isProbability (h : BehaviorModel.isProbability p) {d : Decimal}
    (hd : d.digits ≠ 0) (hread : nearest d = pattern p) : d.exponent + width d.digits - 1 < 16 := by
  by_contra hge
  have hle := nearest_le_of_lead hd (Int.not_lt.1 hge)
  have hhuge : 2 ^ 62 ≤ nearest ⟨1, 16⟩ := by decide +kernel
  have hlt := pattern_lt_of_isProbability h
  omega

/-- A decimal of one digit leads with it. -/
theorem width_eq_one {m : ℕ} (hm : m < 10) : width m = 1 :=
  Nat.le_antisymm ((Nat.length_toDigits_le_iff (b := 10) (by decide) Nat.one_pos).2 hm)
    Nat.length_toDigits_pos

/-- **A number between zero and one is a lone digit** if its shortest decimal has one digit and is
not written positionally. -/
theorem isLoneDigit_iff (h : BehaviorModel.isProbability p) :
    IsLoneDigit p ↔ ¬ (precise.positional ((shortest .up (pattern p)).exponent +
      width (shortest .up (pattern p)).digits - 1) ∨ 10 ≤ (shortest .up (pattern p)).digits) := by
  have hb := isFinite_iff.1 (isFinite_of_isProbability h)
  have hread := nearest_shortest .up hb
  have hfewest := digits_shortest_lt_iff .up hb (k := 0) (by decide)
  rcases Nat.eq_zero_or_pos (pattern p) with hzero | hpos
  · refine iff_of_false (fun hlone => hlone.1 hzero) (not_not_intro (.inl ?_))
    rw [hzero]
    rfl
  generalize shortest .up (pattern p) = s at hread hfewest ⊢
  have hs : s.digits ≠ 0 := by
    intro hnone
    rw [nearest, if_pos hnone] at hread
    omega
  have hpositional : precise.positional (s.exponent + width s.digits - 1) ↔
      -4 ≤ s.exponent + width s.digits - 1 := by
    simp [precise, lead_lt_of_isProbability h hs hread]
  rw [not_or, hpositional, Int.not_le, Nat.not_le]
  constructor
  · intro hlone
    have hlt := hlone.pattern_lt
    obtain ⟨-, d, k, hd, -, hdigit⟩ := hlone
    refine ⟨?_, hfewest.2 ⟨⟨d, -k⟩, hd, hdigit⟩⟩
    by_contra hge
    have hle := nearest_le_of_lead hs (Int.not_lt.1 hge)
    omega
  · rintro ⟨hsmall, hdigit⟩
    have hwidth := width_eq_one hdigit
    refine ⟨hpos.ne', s.digits, (-s.exponent).toNat, hdigit, by omega, ?_⟩
    have hexponent : -((-s.exponent).toNat : ℤ) = s.exponent := by omega
    rw [hexponent]
    exact hread

/-- **A number between zero and one keeps a fraction unless it is a lone digit**, when it is written
precisely. -/
theorem keepsFraction_precise_iff (h : BehaviorModel.isProbability p) :
    KeepsFraction (precise.chars p) ↔ ¬ IsLoneDigit p := by
  have hfinite := isFinite_of_isProbability h
  have hb := isFinite_iff.1 hfinite
  rw [precise.chars_of_isFinite hfinite, keepsFraction_sign_iff,
    precise.keepsFraction_magnitude_iff rfl hb, isLoneDigit_iff h, not_not]
  rfl

end LoadPlan.Decimal
