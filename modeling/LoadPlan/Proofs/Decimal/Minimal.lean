import LoadPlan.Proofs.Decimal.Nearest
import Mathlib.Algebra.Order.Field.Power
import Mathlib.Algebra.Order.Ring.Rat
import Mathlib.Tactic.Positivity
/-!
# No shorter decimal

Reading goes by the number that a decimal stands for and keeps its order (`nearest_mono`), so what
lies between two decimals that are read as a pattern is read as the pattern, too. The exact
expansion is read as its pattern, so the decimals of a grid that are read as it come as near to the
expansion as the grid allows: if there is one, one of the two neighbours is another
(`exists_onGrid`). The search takes the first grid that has one, and the shortest decimal has as few
digits as any decimal that is read as the pattern: `digits_shortest_lt_iff`.
-/

namespace LoadPlan.Decimal

/-! ## The order of decimals -/

/-- The number that a decimal stands for. -/
def toRat (d : Decimal) : ℚ := d.digits * 10 ^ d.exponent

variable {d d' : Decimal} {b i : ℕ}

theorem toRat_mul_den (d : Decimal) : d.toRat * d.den = d.num := by
  obtain ⟨n, e⟩ := d
  have hpower : (10 : ℚ) ^ e * 10 ^ (-e).toNat = 10 ^ e.toNat := by
    rw [← zpow_natCast, ← zpow_natCast, ← zpow_add₀ (by norm_num)]
    congr 1
    omega
  simp only [toRat, num, den, Nat.pow_eq]
  push_cast
  rw [mul_assoc, hpower]

theorem den_pos (d : Decimal) : (0 : ℚ) < d.den := by
  have hpos : 0 < d.den := Nat.pow_pos (by decide)
  exact_mod_cast hpos

theorem cast_one_pos : (0 : ℚ) < one := by
  have hpos : 0 < one := by decide +kernel
  exact_mod_cast hpos

/-- A number rounds by its value. -/
theorem roundsAtMost_iff_toRat :
    roundsAtMost d i ↔ infinityPattern ≤ i ∨ d.toRat * one < midpoint i ∨
      d.toRat * one = midpoint i ∧ i % 2 = 0 := by
  have hden := d.den_pos
  have hvalue : ((d.num * one : ℕ) : ℚ) = d.toRat * one * d.den := by
    rw [Nat.cast_mul, ← toRat_mul_den]
    ring
  rw [roundsAtMost_iff, ← Nat.cast_lt (α := ℚ), ← Nat.cast_inj (R := ℚ), hvalue, Nat.cast_mul,
    mul_lt_mul_iff_left₀ hden, mul_left_inj' hden.ne']

/-- What a number rounds to at most, a smaller one does. -/
theorem roundsAtMost_of_le (hle : d.toRat ≤ d'.toRat) (h : roundsAtMost d' i) :
    roundsAtMost d i := by
  have hle' : d.toRat * one ≤ d'.toRat * one := mul_le_mul_of_nonneg_right hle cast_one_pos.le
  rw [roundsAtMost_iff_toRat] at h ⊢
  rcases h with htop | hlt | ⟨heq, heven⟩
  · exact .inl htop
  · exact .inr (.inl (hle'.trans_lt hlt))
  · rw [heq] at hle'
    exact .inr (hle'.lt_or_eq.imp_right fun heq' => ⟨heq', heven⟩)

theorem midpoint_strictMono : StrictMono midpoint :=
  strictMono_nat_of_lt_succ fun i => (scaled_lt_midpoint i).2.trans (scaled_lt_midpoint (i + 1)).1

/-- A number that rounds to at most a pattern rounds to at most a greater one. -/
theorem roundsAtMost_mono {j : ℕ} (hij : i ≤ j) (h : roundsAtMost d i) : roundsAtMost d j := by
  rcases hij.eq_or_lt with rfl | hlt
  · exact h
  · have hmid : (midpoint i : ℚ) < midpoint j := by exact_mod_cast midpoint_strictMono hlt
    rw [roundsAtMost_iff_toRat] at h ⊢
    rcases h with htop | hvalue | ⟨hvalue, -⟩
    · exact .inl (htop.trans hij)
    · exact .inr (.inl (hvalue.trans hmid))
    · exact .inr (.inl (hvalue.trans_lt hmid))

/-! ## The range of a decimal -/

theorem lt_pow_width (n : ℕ) : n < 10 ^ width n := by
  by_contra hle
  exact absurd (lt_width (Nat.le_of_not_lt hle)) (Nat.lt_irrefl _)

theorem pow_le_of_width {n k : ℕ} (hn : n ≠ 0) (h : width n = k + 1) : 10 ^ k ≤ n := by
  rcases Nat.eq_zero_or_pos k with rfl | hk
  · exact Nat.pos_of_ne_zero hn
  · by_contra hlt
    have hle := (Nat.length_toDigits_le_iff (by decide) hk).2 (Nat.lt_of_not_le hlt)
    rw [width] at h
    omega

/-- **A decimal has the magnitude that its leading digit says.** -/
theorem toRat_bounds (hd : d.digits ≠ 0) :
    (10 : ℚ) ^ (d.exponent + width d.digits - 1) ≤ d.toRat ∧
      d.toRat < 10 ^ (d.exponent + width d.digits) := by
  obtain ⟨n, e⟩ := d
  obtain ⟨k, hk⟩ : ∃ k, width n = k + 1 :=
    ⟨width n - 1, (Nat.sub_add_cancel (Nat.length_toDigits_pos (b := 10))).symm⟩
  have hlow : (10 : ℚ) ^ k ≤ n := by exact_mod_cast pow_le_of_width hd hk
  have hhigh : (n : ℚ) < 10 ^ (k + 1) := by exact_mod_cast hk ▸ lt_pow_width n
  have hunit : (0 : ℚ) < 10 ^ e := by positivity
  dsimp only [toRat]
  rw [hk]
  constructor
  · calc (10 : ℚ) ^ (e + (k + 1 : ℕ) - 1)
        = 10 ^ k * 10 ^ e := by
          rw [← zpow_natCast, ← zpow_add₀ (by norm_num)]
          congr 1
          push_cast
          ring
      _ ≤ n * 10 ^ e := mul_le_mul_of_nonneg_right hlow hunit.le
  · calc (n : ℚ) * 10 ^ e
        < 10 ^ (k + 1) * 10 ^ e := mul_lt_mul_of_pos_right hhigh hunit
      _ = 10 ^ (e + (k + 1 : ℕ)) := by
          rw [← zpow_natCast, ← zpow_add₀ (by norm_num), add_comm]

/-! ## Reading keeps the order -/

/-- A search in all patterns finds the first one that passes. -/
theorem leastFrom_le_iff {p : ℕ → Bool} (hp : ∀ i j, i ≤ j → p i → p j)
    (htop : p infinityPattern) : leastFrom p 0 63 ≤ i ↔ p i := by
  have hex : ∃ i, p i := ⟨_, htop⟩
  have hfirst : ∀ i, p i ↔ Nat.find hex ≤ i := fun i =>
    ⟨fun hi => Nat.find_min' hex hi, fun hle => hp _ _ hle (Nat.find_spec hex)⟩
  have hfound : leastFrom p 0 63 = Nat.find hex :=
    leastFrom_eq (fun i _ _ => hfirst i) (Nat.zero_le _)
      (Nat.lt_of_le_of_lt (Nat.find_min' hex htop) infinityPattern_lt)
  rw [hfound, ← hfirst]

/-- A number below the least subnormal's half is read as zero. -/
theorem leastFrom_roundsAtMost_of_small (h : d.toRat * one < 1) :
    leastFrom (roundsAtMost d) 0 63 = 0 := by
  refine leastFrom_eq (fun i _ _ => ⟨fun _ => Nat.zero_le i, fun _ => ?_⟩) le_rfl (by decide)
  have hmid : (1 : ℚ) ≤ midpoint i := by
    exact_mod_cast Nat.lt_of_le_of_lt (Nat.zero_le _) (scaled_lt_midpoint i).1
  exact roundsAtMost_iff_toRat.2 (.inr (.inl (h.trans_le hmid)))

/-- Numbers that are out of range are read as the search would read them. -/
theorem nearest_eq_leastFrom (d : Decimal) : nearest d = leastFrom (roundsAtMost d) 0 63 := by
  unfold nearest
  split_ifs with hzero hsmall hlarge
  · refine (leastFrom_roundsAtMost_of_small ?_).symm
    rw [toRat, hzero, Nat.cast_zero, zero_mul, zero_mul]
    exact zero_lt_one
  · refine (leastFrom_roundsAtMost_of_small ?_).symm
    have hone : (one : ℚ) ≤ 10 ^ 400 := by exact_mod_cast (by decide +kernel : one ≤ 10 ^ 400)
    calc d.toRat * one
        < 10 ^ (d.exponent + width d.digits) * one :=
          mul_lt_mul_of_pos_right (toRat_bounds hzero).2 cast_one_pos
      _ ≤ 10 ^ (-400 : ℤ) * 10 ^ 400 :=
          mul_le_mul (zpow_le_zpow_right₀ (by norm_num) hsmall.le) hone cast_one_pos.le (by positivity)
      _ = 1 := by rw [← zpow_natCast, ← zpow_add₀ (by norm_num)]; rfl
  · exact (leastFrom_roundsAtMost_of_large hzero hlarge).symm
  · rfl

/-- **A decimal is read as the first pattern that it rounds to at most.** -/
theorem nearest_le_iff : nearest d ≤ i ↔ roundsAtMost d i := by
  rw [nearest_eq_leastFrom]
  exact leastFrom_le_iff (fun _ _ => roundsAtMost_mono) (roundsAtMost_iff.2 (.inl le_rfl))

/-- **Reading keeps the order** of decimals. -/
theorem nearest_mono (h : d.toRat ≤ d'.toRat) : nearest d ≤ nearest d' :=
  nearest_le_iff.2 (roundsAtMost_of_le h (nearest_le_iff.1 le_rfl))

/-- The same number is read alike. -/
theorem nearest_congr (h : d.toRat = d'.toRat) : nearest d = nearest d' :=
  (nearest_mono h.le).antisymm (nearest_mono h.ge)

/-- **What lies between two decimals that are read as a pattern is read as it.** -/
theorem nearest_between {low high : Decimal} (hlow : nearest low = b) (hhigh : nearest high = b)
    (h : low.toRat ≤ d.toRat) (h' : d.toRat ≤ high.toRat) : nearest d = b :=
  (hhigh ▸ nearest_mono h').antisymm (hlow ▸ nearest_mono h)

/-! ## The neighbours on a grid -/

/-- The decimals up to the exact expansion of a pattern. -/
theorem toRat_le_exact_iff : d.toRat ≤ (exact b).toRat ↔ d.num * one ≤ scaled b * d.den := by
  have hexact : (exact b).toRat * one = scaled b := by
    have hden := (exact b).den_pos
    have hscaled : (exact b).toRat * one * (exact b).den = scaled b * (exact b).den := by
      calc (exact b).toRat * one * (exact b).den
          = (exact b).toRat * (exact b).den * one := by ring
        _ = ((exact b).num * one : ℕ) := by rw [toRat_mul_den, Nat.cast_mul]
        _ = scaled b * (exact b).den := by rw [num_exact_mul_one, Nat.cast_mul]
    exact mul_right_cancel₀ hden.ne' hscaled
  calc d.toRat ≤ (exact b).toRat
      ↔ d.toRat * one * d.den ≤ (exact b).toRat * one * d.den := by
        rw [mul_le_mul_iff_left₀ d.den_pos, mul_le_mul_iff_left₀ cast_one_pos]
    _ ↔ ((d.num * one : ℕ) : ℚ) ≤ ((scaled b * d.den : ℕ) : ℚ) := by
        rw [hexact, Nat.cast_mul, Nat.cast_mul, ← toRat_mul_den, mul_right_comm]
    _ ↔ d.num * one ≤ scaled b * d.den := Nat.cast_le

variable {e : ℤ} {n : ℕ}

/-- **The neighbours enclose the exact expansion.** -/
theorem neighbour_bounds (b : ℕ) (e : ℤ) :
    (⟨(neighbour b e).1, e⟩ : Decimal).toRat ≤ (exact b).toRat ∧
      (exact b).toRat < (⟨(neighbour b e).1 + 1, e⟩ : Decimal).toRat := by
  have hpos : 0 < one * Nat.pow 10 e.toNat :=
    Nat.mul_pos (by decide +kernel) (Nat.pow_pos (by decide))
  have hbelow : (neighbour b e).1 =
      scaled b * Nat.pow 10 (-e).toNat / (one * Nat.pow 10 e.toNat) := by
    unfold neighbour one
    dsimp only
  rw [← not_le, toRat_le_exact_iff, toRat_le_exact_iff, hbelow]
  simp only [num, den]
  generalize scaled b * Nat.pow 10 (-e).toNat = value
  generalize one = unit at *
  generalize Nat.pow 10 e.toNat = power at *
  constructor
  · calc value / (unit * power) * power * unit
        = value / (unit * power) * (unit * power) := by ring
      _ ≤ value := Nat.div_mul_le_self _ _
  · rw [not_le]
    calc value
        < unit * power * (value / (unit * power) + 1) := Nat.lt_mul_div_succ value hpos
      _ = (value / (unit * power) + 1) * power * unit := by ring

/-- Decimals of one grid are ordered as their digits. -/
theorem toRat_le_toRat_of_le {m : ℕ} (h : n ≤ m) :
    (⟨n, e⟩ : Decimal).toRat ≤ (⟨m, e⟩ : Decimal).toRat := by
  have hle : (n : ℚ) ≤ m := by exact_mod_cast h
  exact mul_le_mul_of_nonneg_right hle (by positivity)

/-- **If a decimal of a grid reads back, one of the neighbours does.** -/
theorem exists_onGrid (tie : Tie) (hpos : 0 < b) (hb : b < infinityPattern)
    (h : nearest ⟨n, e⟩ = b) : ∃ d, onGrid tie b e = some d := by
  obtain ⟨hlow, hhigh⟩ := neighbour_bounds b e
  have hexact := nearest_exact hpos hb
  have hread : readsBack b ⟨(neighbour b e).1, e⟩ ∨ readsBack b ⟨(neighbour b e).1 + 1, e⟩ := by
    simp only [readsBack, beq_iff_eq]
    rcases Nat.lt_or_ge (neighbour b e).1 n with hlt | hge
    · exact .inr (nearest_between hexact h hhigh.le (toRat_le_toRat_of_le hlt))
    · exact .inl (nearest_between h hexact (toRat_le_toRat_of_le hge) hlow)
  unfold onGrid
  dsimp only
  split
  · exact ⟨_, rfl⟩
  · exact ⟨_, rfl⟩
  · exact ⟨_, rfl⟩
  · next hnotLow hnotHigh =>
    rw [hnotLow, hnotHigh] at hread
    simp at hread

/-- What a grid offers is a neighbour. -/
theorem digits_of_onGrid {tie : Tie} (h : onGrid tie b e = some d) :
    d.digits ≤ (neighbour b e).1 + 1 := by
  unfold onGrid at h
  dsimp only at h
  split at h
  · rw [← Option.some.inj h, apply_ite digits]
    split_ifs
    · exact le_rfl
    · exact Nat.le_succ _
  · simp [← Option.some.inj h]
  · simp [← Option.some.inj h]
  · cases h

/-! ## The fewest digits -/

/-- **The search goes no further than a grid with a decimal that reads back.** -/
theorem digits_search_le (tie : Tie) (hpos : 0 < b) (hb : b < infinityPattern) {j fuel : ℕ}
    (hj : j < fuel) (h : nearest ⟨n, e - j⟩ = b) :
    ∃ i ≤ j, (search tie b e fuel).digits ≤ (neighbour b (e - i)).1 + 1 := by
  induction fuel generalizing e j with
  | zero => omega
  | succ fuel ih =>
    rw [search]
    cases hgrid : onGrid tie b e with
    | some d =>
      refine ⟨0, Nat.zero_le j, ?_⟩
      simpa using digits_of_onGrid hgrid
    | none =>
      cases j with
      | zero =>
        obtain ⟨d, hd⟩ := exists_onGrid tie hpos hb (e := e) (by simpa using h)
        rw [hgrid] at hd
        cases hd
      | succ j =>
        have hfiner : e - (j + 1 : ℕ) = e - 1 - j := by
          push_cast
          ring
        obtain ⟨i, hi, hle⟩ := ih (e := e - 1) (Nat.lt_of_succ_lt_succ hj) (hfiner ▸ h)
        refine ⟨i + 1, Nat.succ_le_succ hi, ?_⟩
        have hgrid' : e - (i + 1 : ℕ) = e - 1 - i := by
          push_cast
          ring
        rw [hgrid']
        exact hle

/-- The exact expansion has its leading digit where it is said to be. -/
theorem exact_bounds (hpos : 0 < b) :
    (10 : ℚ) ^ leading b ≤ (exact b).toRat ∧ (exact b).toRat < 10 ^ (leading b + 1) := by
  have hfive : 0 < Nat.pow 5 1075 := by decide +kernel
  have hne : (exact b).digits ≠ 0 := (Nat.mul_pos (scaled_pos hpos) hfive).ne'
  obtain ⟨hlow, hhigh⟩ := toRat_bounds hne
  have hleading : (exact b).exponent + width (exact b).digits = leading b + 1 := by
    simp only [leading, exact]
    omega
  rw [hleading] at hlow hhigh
  rw [add_sub_cancel_right] at hlow
  exact ⟨hlow, hhigh⟩

/-- On the grid of the leading digit a neighbour has one digit, and one more on every next. -/
theorem neighbour_lt (hpos : 0 < b) (i : ℕ) :
    (neighbour b (leading b - i)).1 < 10 ^ (i + 1) := by
  have hunit : (0 : ℚ) < 10 ^ (leading b - i) := by positivity
  have hlt : ((neighbour b (leading b - i)).1 : ℚ) * 10 ^ (leading b - i) <
      10 ^ (i + 1) * 10 ^ (leading b - i) :=
    calc ((neighbour b (leading b - i)).1 : ℚ) * 10 ^ (leading b - i)
        = (⟨(neighbour b (leading b - i)).1, leading b - i⟩ : Decimal).toRat := rfl
      _ ≤ (exact b).toRat := (neighbour_bounds b _).1
      _ < 10 ^ (leading b + 1) := (exact_bounds hpos).2
      _ = 10 ^ (i + 1) * 10 ^ (leading b - i) := by
          rw [← zpow_natCast, ← zpow_add₀ (by norm_num)]
          congr 1
          push_cast
          ring
  exact_mod_cast lt_of_mul_lt_mul_right hlt hunit.le

/-- **A decimal with few digits that reads back has company on a grid as coarse**, counted from the
leading digit of the pattern. -/
theorem exists_nearest_on_grid (hpos : 0 < b) (hb : b < infinityPattern) {k : ℕ}
    (hd : d.digits < 10 ^ (k + 1)) (h : nearest d = b) :
    ∃ n, nearest ⟨n, leading b - k⟩ = b := by
  obtain ⟨n, e⟩ := d
  rcases le_or_gt (leading b - k) e with hcoarse | hfine
  · -- the decimal is on the grid itself
    obtain ⟨j, rfl⟩ : ∃ j : ℕ, e = leading b - k + j := ⟨(e - (leading b - k)).toNat, by omega⟩
    refine ⟨n * 10 ^ j, (nearest_congr ?_).trans h⟩
    simp only [toRat]
    push_cast
    rw [zpow_add₀ (by norm_num), zpow_natCast]
    ring
  · -- the leading digit alone is nearer
    refine ⟨10 ^ k, nearest_between h (nearest_exact hpos hb) ?_ ?_⟩
    · have hn : (n : ℚ) ≤ 10 ^ (k + 1) := by exact_mod_cast hd.le
      calc (n : ℚ) * 10 ^ e
          ≤ 10 ^ (k + 1) * 10 ^ (leading b - k - 1) :=
            mul_le_mul hn (zpow_le_zpow_right₀ (by norm_num) (by omega)) (by positivity)
              (by positivity)
        _ = ((10 ^ k : ℕ) : ℚ) * 10 ^ (leading b - k) := by
            rw [zpow_sub_one₀ (by norm_num)]
            push_cast
            ring
    · calc ((10 ^ k : ℕ) : ℚ) * 10 ^ (leading b - k)
          = 10 ^ leading b := by
            push_cast
            rw [← zpow_natCast, ← zpow_add₀ (by norm_num)]
            congr 1
            ring
        _ ≤ (exact b).toRat := (exact_bounds hpos).1

theorem digits_trim_le (d : Decimal) : (trim d).digits ≤ d.digits := by
  induction d using trim.induct with
  | case1 d h ih =>
    rw [trim, dif_pos h]
    exact ih.trans (Nat.div_le_self _ _)
  | case2 d h => rw [trim, dif_neg h]

/-- A power of ten is trimmed. -/
theorem digits_trim_lt {k : ℕ} (h : d.digits ≤ 10 ^ (k + 1)) : (trim d).digits < 10 ^ (k + 1) := by
  rcases h.lt_or_eq with hlt | heq
  · exact (digits_trim_le d).trans_lt hlt
  · have hzero : d.digits ≠ 0 ∧ d.digits % 10 = 0 := by
      rw [heq, Nat.pow_succ]
      exact ⟨(Nat.mul_pos (Nat.pow_pos (by decide)) (by decide)).ne', Nat.mul_mod_left _ _⟩
    rw [trim, dif_pos hzero]
    calc (trim ⟨d.digits / 10, d.exponent + 1⟩).digits
        ≤ d.digits / 10 := digits_trim_le _
      _ < d.digits := Nat.div_lt_self (Nat.pos_of_ne_zero hzero.1) (by decide)
      _ = 10 ^ (k + 1) := heq

/-- **The shortest decimal is the shortest**: it has a number of digits or fewer if and only if some
decimal that is read as the pattern has. -/
theorem digits_shortest_lt_iff (tie : Tie) (hb : b < infinityPattern) {k : ℕ} (hk : k < 800) :
    (shortest tie b).digits < 10 ^ (k + 1) ↔ ∃ d, d.digits < 10 ^ (k + 1) ∧ nearest d = b := by
  constructor
  · exact fun h => ⟨shortest tie b, h, nearest_shortest tie hb⟩
  · rintro ⟨d, hd, hread⟩
    unfold shortest
    split
    · exact Nat.pow_pos (by decide)
    · next hne =>
      have hpos := Nat.pos_of_ne_zero hne
      obtain ⟨n, hn⟩ := exists_nearest_on_grid hpos hb hd hread
      obtain ⟨i, hi, hle⟩ := digits_search_le tie hpos hb hk hn
      refine digits_trim_lt (hle.trans ?_)
      exact (Nat.succ_le_of_lt (neighbour_lt hpos i)).trans
        (Nat.pow_le_pow_right (by decide) (Nat.succ_le_succ hi))

end LoadPlan.Decimal
