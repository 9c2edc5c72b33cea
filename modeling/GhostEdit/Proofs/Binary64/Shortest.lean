import GhostEdit.Proofs.Binary64.Rounding
import Mathlib.Algebra.Order.Field.Power
import Mathlib.Tactic.NormNum
import Mathlib.Tactic.Positivity

/-!
# The shortest decimal rounds back

A number is written as the shortest decimal that rounds to it. Decimals are taken as quotients of
whole numbers here, so that the range of what rounds to a number is an interval. With seventeen
digits the decimal grid is finer than that interval is wide, so the search ends; what it finds lies
in the interval, and whatever decimal of that value is read, with zeros added or taken away, gives
the number again.

## Main definitions

* `Binary64.Decimal.value`: the number that a decimal stands for

## Main results

* `Binary64.withDigits_ne_none`: seventeen digits are enough
* `Binary64.ofDecimal_of_contains`: what is in the range of a number is read as that number
* `Binary64.ofDecimal_shortest`: so is any way to write its shortest decimal
-/

namespace GhostEdit

namespace Binary64

/-! ## Decimals as quotients -/

theorem cast_pow10 (n : Nat) : ((pow10 n : Nat) : ℚ) = 10 ^ n := Nat.cast_pow 10 n

/-- The number that a decimal stands for. -/
def Decimal.value (d : Decimal) : ℚ := d.digits * (10 : ℚ) ^ d.exponent

/-- A decimal is compared as the number it stands for. -/
theorem Decimal.exists_scale (d : Decimal) (quarters : Nat) :
    ∃ (a b : Nat) (scale : ℚ), d.compareTo quarters = compare a b ∧ 0 < scale ∧
      4 * (d.value * one) * scale = a ∧ quarters * scale = b := by
  rw [compareTo]
  split
  · next h =>
    obtain ⟨e, he⟩ := Int.eq_ofNat_of_zero_le h
    refine ⟨_, _, 1, rfl, one_pos, ?_, mul_one _⟩
    rw [value, he, zpow_natCast, Int.toNat_natCast]
    push_cast
    rw [cast_pow10]
    ring
  · next h =>
    obtain ⟨e, he⟩ := Int.eq_ofNat_of_zero_le (show 0 ≤ -d.exponent by omega)
    have hexponent : d.exponent = -(e : Int) := by omega
    have hpos : (0 : ℚ) < 10 ^ e := by positivity
    refine ⟨_, _, 10 ^ e, rfl, hpos, ?_, ?_⟩
    · rw [value, hexponent, zpow_neg, zpow_natCast]
      push_cast
      generalize (one : ℚ) = units
      field_simp
    · rw [he, Int.toNat_natCast]
      push_cast
      rw [cast_pow10]

theorem Decimal.compareTo_eq_lt {d : Decimal} {quarters : Nat} :
    d.compareTo quarters = .lt ↔ 4 * (d.value * one) < quarters := by
  obtain ⟨a, b, scale, hcompare, hpos, ha, hb⟩ := d.exists_scale quarters
  rw [hcompare, Nat.compare_eq_lt, ← mul_lt_mul_iff_of_pos_right hpos, ha, hb, Nat.cast_lt]

theorem Decimal.compareTo_eq_eq {d : Decimal} {quarters : Nat} :
    d.compareTo quarters = .eq ↔ 4 * (d.value * one) = quarters := by
  obtain ⟨a, b, scale, hcompare, hpos, ha, hb⟩ := d.exists_scale quarters
  rw [hcompare, Nat.compare_eq_eq, ← mul_left_inj' hpos.ne', ha, hb, Nat.cast_inj]

theorem Decimal.compareTo_eq_gt {d : Decimal} {quarters : Nat} :
    d.compareTo quarters = .gt ↔ (quarters : ℚ) < 4 * (d.value * one) := by
  obtain ⟨a, b, scale, hcompare, hpos, ha, hb⟩ := d.exists_scale quarters
  rw [hcompare, Nat.compare_eq_gt, ← mul_lt_mul_iff_of_pos_right hpos, ha, hb, Nat.cast_lt]

/-! ## The range -/

/-- What is held by a range is in it. -/
theorem Basin.contains_of_holds {b : Basin} {d : Decimal} (hwide : b.low < b.high)
    (h : b.holds d = true) : b.Contains (d.value * one) := by
  have hwide : (b.low : ℚ) < b.high := by exact_mod_cast hwide
  rw [holds] at h
  split at h
  · next hlow hhigh =>
    rw [Decimal.compareTo_eq_gt] at hlow
    rw [Decimal.compareTo_eq_lt] at hhigh
    exact ⟨hlow.le, hhigh.le, fun _ => ⟨hlow, hhigh⟩⟩
  · next hlow =>
    rw [Decimal.compareTo_eq_eq] at hlow
    exact ⟨hlow.ge, by linarith, fun hopen => absurd h (by simp [hopen])⟩
  · next hhigh _ =>
    rw [Decimal.compareTo_eq_eq] at hhigh
    exact ⟨by linarith, hhigh.le, fun hopen => absurd h (by simp [hopen])⟩
  · cases h

theorem Basin.holds_of_inside {b : Basin} {d : Decimal} (hlow : (b.low : ℚ) < 4 * (d.value * one))
    (hhigh : 4 * (d.value * one) < b.high) : b.holds d = true := by
  rw [holds, Decimal.compareTo_eq_gt.mpr hlow, Decimal.compareTo_eq_lt.mpr hhigh]

/-! ## Digits -/

/-- A number has as many digits as it takes. -/
theorem pow_le_of_digits {n : Nat} (hn : 0 < n) : 10 ^ ((Nat.toDigits 10 n).length - 1) ≤ n := by
  by_cases hlen : (Nat.toDigits 10 n).length - 1 = 0
  · rw [hlen]
    exact hn
  · by_contra hless
    have hshort := (Nat.length_toDigits_le_iff (by decide) (Nat.pos_of_ne_zero hlen)).mpr
      (Nat.lt_of_not_le hless)
    omega

/-- **The decimal exponent** is no larger than the number. -/
theorem one_mul_pow_le {k : Nat} (hk : 0 < k) :
    (one : ℚ) * 10 ^ decimalExponent k ≤ k := by
  have hone : 0 < one := pow2_pos 1074
  rw [decimalExponent]
  split
  · next h =>
    have hdigits := pow_le_of_digits (Nat.div_pos h hone)
    have hlength := @Nat.length_toDigits_pos 10 (k / one)
    have hexponent : ((Nat.toDigits 10 (k / one)).length : Int) - 1
        = ((Nat.toDigits 10 (k / one)).length - 1 : Nat) := by omega
    have hbound : one * 10 ^ ((Nat.toDigits 10 (k / one)).length - 1) ≤ k :=
      (Nat.mul_le_mul_left one hdigits).trans (Nat.mul_div_le k one)
    rw [hexponent, zpow_natCast]
    exact_mod_cast hbound
  · next h =>
    have hscale : one ≤ k * pow10 330 :=
      (show one ≤ pow10 330 by decide +kernel).trans (Nat.le_mul_of_pos_left _ hk)
    have hdigits := pow_le_of_digits (Nat.div_pos hscale hone)
    have hlength := @Nat.length_toDigits_pos 10 (k * pow10 330 / one)
    have hexponent : ((Nat.toDigits 10 (k * pow10 330 / one)).length : Int) - 331
        = ((Nat.toDigits 10 (k * pow10 330 / one)).length - 1 : Nat) - (330 : Nat) := by omega
    have hbound : one * 10 ^ ((Nat.toDigits 10 (k * pow10 330 / one)).length - 1)
        ≤ k * pow10 330 := (Nat.mul_le_mul_left one hdigits).trans (Nat.mul_div_le _ one)
    have hpos : (0 : ℚ) < 10 ^ 330 := by positivity
    rw [hexponent, zpow_sub₀ (by norm_num), zpow_natCast, zpow_natCast, ← mul_div_assoc,
      div_le_iff₀ hpos, ← cast_pow10 330]
    exact_mod_cast hbound

/-! ## The search -/

variable {k m s : Nat}

/-- The neighbours of a number on a decimal grid. -/
theorem exists_neighbours (k : Nat) (e : Int) :
    ∃ d side, neighbours k e = (⟨d, e⟩, ⟨d + 1, e⟩, side) ∧
      (d : ℚ) * (one * 10 ^ e) ≤ k ∧ (k : ℚ) < (d + 1) * (one * 10 ^ e) := by
  have hone : 0 < one := pow2_pos 1074
  refine ⟨_, _, rfl, ?_⟩
  by_cases he : 0 ≤ e
  · obtain ⟨n, rfl⟩ := Int.eq_ofNat_of_zero_le he
    have hgrid : 0 < one * pow10 n := Nat.mul_pos hone (Nat.pow_pos (by decide))
    have hlow : k / (one * pow10 n) * (one * pow10 n) ≤ k := Nat.div_mul_le_self ..
    have hhigh : k < (k / (one * pow10 n) + 1) * (one * pow10 n) :=
      (Nat.div_lt_iff_lt_mul hgrid).mp (Nat.lt_succ_self _)
    rw [if_pos he, if_pos he, Int.toNat_natCast, zpow_natCast, ← cast_pow10]
    exact ⟨by exact_mod_cast hlow, by exact_mod_cast hhigh⟩
  · obtain ⟨n, hn⟩ := Int.eq_ofNat_of_zero_le (show 0 ≤ -e by omega)
    obtain rfl : e = -(n : Int) := by omega
    have hpos : (0 : ℚ) < 10 ^ n := by positivity
    have hlow : k * pow10 n / one * one ≤ k * pow10 n := Nat.div_mul_le_self ..
    have hhigh : k * pow10 n < (k * pow10 n / one + 1) * one :=
      (Nat.div_lt_iff_lt_mul hone).mp (Nat.lt_succ_self _)
    rw [if_neg he, if_neg he, hn, Int.toNat_natCast, zpow_neg, zpow_natCast, ← div_eq_mul_inv,
      ← mul_div_assoc, ← mul_div_assoc, div_le_iff₀ hpos, lt_div_iff₀ hpos, ← cast_pow10]
    exact ⟨by exact_mod_cast hlow, by exact_mod_cast hhigh⟩

/-- What is found rounds back and is not zero. -/
theorem holds_of_withDigits {n : Nat} {d : Decimal} (h : withDigits k n = some d) :
    (basin k).holds d = true ∧ d.digits ≠ 0 := by
  obtain ⟨j, side, hneighbours, -⟩ := exists_neighbours k (decimalExponent k - (n : Int) + 1)
  unfold withDigits at h
  rw [hneighbours] at h
  dsimp only at h
  split at h
  · next hlower hupper =>
    rw [Bool.and_eq_true, decide_eq_true_eq] at hlower
    have hboth : d = ⟨j, decimalExponent k - n + 1⟩ ∨ d = ⟨j + 1, decimalExponent k - n + 1⟩ := by
      split at h
      · exact .inl (Option.some.inj h).symm
      · exact .inr (Option.some.inj h).symm
      · rw [← Option.some.inj h]
        split
        · exact .inl rfl
        · exact .inr rfl
    rcases hboth with rfl | rfl
    · exact hlower
    · exact ⟨hupper, Nat.succ_ne_zero j⟩
  · next hlower _ =>
    cases h
    rwa [Bool.and_eq_true, decide_eq_true_eq] at hlower
  · next hupper =>
    cases h
    exact ⟨hupper, Nat.succ_ne_zero j⟩
  · cases h

/-- Where nothing is found neither neighbour rounds back, if the lower one is not zero. -/
theorem not_holds_of_withDigits {n j : Nat} {e : Int} {side : Ordering}
    (h : withDigits k n = none) (he : decimalExponent k - (n : Int) + 1 = e)
    (hneighbours : neighbours k e = (⟨j, e⟩, ⟨j + 1, e⟩, side)) (hj : j ≠ 0) :
    (basin k).holds ⟨j, e⟩ ≠ true ∧ (basin k).holds ⟨j + 1, e⟩ ≠ true := by
  unfold withDigits at h
  rw [he, hneighbours] at h
  dsimp only at h
  split at h
  · split at h <;> cases h
  · cases h
  · cases h
  · next hlower hupper =>
    rw [Bool.and_eq_false_iff, decide_eq_false_iff_not] at hlower
    exact ⟨fun hholds => by simp [hholds, hj] at hlower, fun hholds => by simp [hholds] at hupper⟩

/-- How far the range of a scaled count reaches on either side. -/
theorem Scaled.bounds (h : Scaled m s k) (hk : 0 < k) :
    pow2 s ≤ k ∧ ((basin k).high : ℚ) = 4 * k + 2 * pow2 s ∧
      ((basin k).low : ℚ) = 4 * k - if m = pow2 52 ∧ 0 < s then (pow2 s : ℚ) else 2 * pow2 s := by
  have hm : 0 < m := Nat.pos_of_ne_zero (by
    rintro rfl
    rw [h.eq, Nat.zero_mul] at hk
    exact absurd hk (by decide))
  have hstep : pow2 s ≤ k := by
    rw [h.eq]
    exact Nat.le_mul_of_pos_left _ hm
  refine ⟨hstep, ?_, ?_⟩
  · rw [h.basin_eq]
    push_cast
    ring
  · rw [h.basin_eq]
    dsimp only
    split
    · rw [Nat.cast_sub (by omega)]
      push_cast
      ring
    · rw [Nat.cast_sub (by omega)]
      push_cast
      ring

/-- **Seventeen digits are enough**: on that grid one of the neighbours is nearer than any bound of
the range. -/
theorem withDigits_ne_none (h : Scaled m s k) (hk : 0 < k) : withDigits k 17 ≠ none := by
  intro hnone
  obtain ⟨e, he⟩ : ∃ e, decimalExponent k - ((17 : Nat) : Int) + 1 = e := ⟨_, rfl⟩
  obtain ⟨j, side, hneighbours, hlow, hhigh⟩ := exists_neighbours k e
  have hleading := one_mul_pow_le hk
  have hexponent : decimalExponent k = e + (16 : Nat) := by omega
  have hone : (0 : ℚ) < one := by exact_mod_cast (pow2_pos 1074 : 0 < one)
  have hstep : (0 : ℚ) < pow2 s := by exact_mod_cast pow2_pos s
  obtain ⟨-, htop, hbottom⟩ := h.bounds hk
  rw [hexponent, zpow_add₀ (by norm_num), zpow_natCast, ← mul_assoc] at hleading
  have hgrid : (0 : ℚ) < one * 10 ^ e := mul_pos hone (by positivity)
  have hlower : (⟨j, e⟩ : Decimal).value * one = j * (one * 10 ^ e) := by
    rw [Decimal.value]
    ring
  have hupper : (⟨j + 1, e⟩ : Decimal).value * one = (j + 1) * (one * 10 ^ e) := by
    rw [Decimal.value]
    push_cast
    ring
  generalize (one : ℚ) * 10 ^ e = grid at *
  have hj : j ≠ 0 := by
    rintro rfl
    rw [Nat.cast_zero, zero_add, one_mul] at hhigh
    linarith only [hhigh, hleading, hgrid]
  have hm : (k : ℚ) < 2 ^ 53 * pow2 s := by
    have hlt : k < pow2 53 * pow2 s := by
      rw [h.eq]
      exact Nat.mul_lt_mul_of_pos_right h.lt (pow2_pos s)
    have hcast : ((pow2 53 * pow2 s : Nat) : ℚ) = 2 ^ 53 * pow2 s := by
      rw [Nat.cast_mul, pow2, Nat.pow_eq]
      push_cast
      rfl
    rw [← hcast]
    exact_mod_cast hlt
  obtain ⟨hlowerOut, hupperOut⟩ := not_holds_of_withDigits hnone he hneighbours hj
  by_cases hedge : m = pow2 52 ∧ 0 < s
  · -- just above a power of two the grid is so fine that the upper neighbour is near enough
    have hk' : (k : ℚ) = 2 ^ 52 * pow2 s := by
      rw [h.eq, hedge.1, pow2, Nat.pow_eq]
      push_cast
      rfl
    have hfine : 2 * grid < pow2 s := by linarith only [hleading, hk', hstep]
    refine hupperOut (Basin.holds_of_inside ?_ ?_)
    · rw [hupper, hbottom, if_pos hedge]
      linarith only [hhigh, hstep]
    · rw [hupper, htop]
      linarith only [hlow, hfine]
  · have hfine : grid < pow2 s := by linarith only [hleading, hm, hstep]
    rw [if_neg hedge] at hbottom
    rcases le_total (2 * (k - j * grid)) grid with hnear | hfar
    · refine hlowerOut (Basin.holds_of_inside ?_ ?_)
      · rw [hlower, hbottom]
        linarith only [hnear, hfine]
      · rw [hlower, htop]
        linarith only [hlow, hstep]
    · refine hupperOut (Basin.holds_of_inside ?_ ?_)
      · rw [hupper, hbottom]
        linarith only [hhigh, hstep]
      · rw [hupper, htop]
        linarith only [hfar, hfine]

/-- **The shortest decimal** rounds back and is not zero. -/
theorem holds_shortest (h : Scaled m s k) (hk : 0 < k) :
    (basin k).holds (shortest k) = true ∧ (shortest k).digits ≠ 0 := by
  cases hfound : (List.range' 1 17).findSome? (withDigits k) with
  | none =>
    exact absurd (List.findSome?_eq_none_iff.mp hfound 17 (by decide)) (withDigits_ne_none h hk)
  | some d =>
    obtain ⟨n, -, hd⟩ := List.exists_of_findSome?_eq_some hfound
    have hdigits := holds_of_withDigits hd
    rw [shortest, hfound]
    exact hdigits

/-! ## Reading a decimal -/

/-- Leading zeros apart, a decimal is at least as large as its length tells. -/
theorem Decimal.pow_le_value {d : Decimal} (hd : d.digits ≠ 0) :
    (10 : ℚ) ^ (((Nat.toDigits 10 d.digits).length : Int) + d.exponent - 1) ≤ d.value := by
  have hlength := @Nat.length_toDigits_pos 10 d.digits
  have hdigits := pow_le_of_digits (Nat.pos_of_ne_zero hd)
  have hexponent : ((Nat.toDigits 10 d.digits).length : Int) + d.exponent - 1
      = ((Nat.toDigits 10 d.digits).length - 1 : Nat) + d.exponent := by omega
  rw [hexponent, zpow_add₀ (by norm_num), zpow_natCast, value]
  refine mul_le_mul_of_nonneg_right ?_ (by positivity)
  exact_mod_cast hdigits

/-- A decimal is smaller than the next length. -/
theorem Decimal.value_lt_pow (d : Decimal) :
    d.value < (10 : ℚ) ^ (((Nat.toDigits 10 d.digits).length : Int) + d.exponent) := by
  have hdigits : d.digits < 10 ^ (Nat.toDigits 10 d.digits).length :=
    (Nat.length_toDigits_le_iff (by decide) Nat.length_toDigits_pos).mp le_rfl
  rw [zpow_add₀ (by norm_num), zpow_natCast, value]
  refine mul_lt_mul_of_pos_right ?_ (by positivity)
  exact_mod_cast hdigits

/-- The range of a number that is not zero reaches neither down to zero nor far beyond. -/
theorem Scaled.contains_bounds (h : Scaled m s k) (hk : 0 < k) {q : ℚ}
    (hin : (basin k).Contains q) : 1 ≤ 2 * q ∧ q < 2 * k := by
  obtain ⟨hstep, htop, hbottom⟩ := h.bounds hk
  have hlow := hin.low
  have hhigh := hin.high
  have hone : (1 : ℚ) ≤ k := by exact_mod_cast hk
  have hstep : (pow2 s : ℚ) ≤ k := by exact_mod_cast hstep
  have hpos : (0 : ℚ) < pow2 s := by exact_mod_cast pow2_pos s
  rw [htop] at hhigh
  rw [hbottom] at hlow
  refine ⟨?_, by linarith only [hhigh, hstep, hone]⟩
  split at hlow
  · linarith only [hlow, hstep, hone]
  · linarith only [hlow, hstep, hone]

/-- A decimal that is no less than half a unit is not taken for zero. -/
theorem Decimal.size_ge {d : Decimal} (h : 1 ≤ 2 * (d.value * one)) :
    -400 ≤ ((Nat.toDigits 10 d.digits).length : Int) + d.exponent := by
  by_contra hless
  have hpos : (0 : ℚ) < 10 ^ 400 := by positivity
  have hone : (0 : ℚ) < one := by exact_mod_cast (pow2_pos 1074 : 0 < one)
  have hvalue : d.value ≤ 1 / 10 ^ 400 := by
    have hlt := d.value_lt_pow.trans_le (zpow_le_zpow_right₀ (by norm_num : (1 : ℚ) ≤ 10)
      (show _ ≤ -((400 : Nat) : Int) by omega))
    rw [zpow_neg, zpow_natCast] at hlt
    exact hlt.le.trans_eq (one_div _).symm
  have hscale : 2 * one < pow10 400 := by decide +kernel
  have hscale : (2 * one : ℚ) < 10 ^ 400 := by
    rw [← cast_pow10]
    exact_mod_cast hscale
  have hlarge : 1 ≤ 2 * (1 / 10 ^ 400 * (one : ℚ)) :=
    h.trans (mul_le_mul_of_nonneg_left (mul_le_mul_of_nonneg_right hvalue hone.le) two_pos.le)
  rw [one_div_mul_eq_div, ← mul_div_assoc, le_div_iff₀ hpos, one_mul] at hlarge
  exact absurd hscale hlarge.not_gt

/-- A decimal in the range of finite numbers is not taken for an infinity. -/
theorem Decimal.size_le {d : Decimal} (hd : d.digits ≠ 0) (h : d.value * one < 2 * overflow) :
    ((Nat.toDigits 10 d.digits).length : Int) + d.exponent ≤ 400 := by
  by_contra hmore
  have hone : (0 : ℚ) < one := by exact_mod_cast (pow2_pos 1074 : 0 < one)
  have hvalue : ((10 : ℚ) ^ 400) ≤ d.value := by
    rw [← zpow_natCast]
    exact (zpow_le_zpow_right₀ (by norm_num) (by omega)).trans (pow_le_value hd)
  have hscale : 2 * overflow ≤ pow10 400 * one := by decide +kernel
  have hscale : (2 * overflow : ℚ) ≤ 10 ^ 400 * one := by
    rw [← cast_pow10]
    exact_mod_cast hscale
  have hproduct := mul_le_mul_of_nonneg_right hvalue hone.le
  exact absurd h (hscale.trans hproduct).not_gt

/-- **What is in the range of a number is read as that number.** -/
theorem ofDecimal_of_contains (h : Scaled m s k) (hk : 0 < k) (hsmall : k < overflow)
    {d : Decimal} (hin : (basin k).Contains (d.value * one)) (negative : Bool) :
    ofDecimal negative d.digits d.exponent = ofMagnitude negative k := by
  obtain ⟨hlow, hhigh⟩ := h.contains_bounds hk hin
  have hd : d.digits ≠ 0 := by
    intro hzero
    rw [Decimal.value, hzero, Nat.cast_zero, zero_mul, zero_mul, mul_zero] at hlow
    exact absurd hlow (not_le.mpr one_pos)
  have hsmall : (k : ℚ) < overflow := by exact_mod_cast hsmall
  have hmax := Decimal.size_le hd (hhigh.trans (mul_lt_mul_of_pos_left hsmall two_pos))
  have hmin := Decimal.size_ge hlow
  rw [ofDecimal, if_neg hd]
  dsimp only
  rw [if_neg (by omega), if_neg (by omega)]
  split
  · next he =>
    obtain ⟨e, he⟩ := Int.eq_ofNat_of_zero_le he
    rw [Decimal.value, he, zpow_natCast, ← cast_pow10] at hin
    rw [ofRatio, roundRatio_of_contains h one_pos]
    rw [he, Int.toNat_natCast, Nat.cast_one, div_one]
    exact_mod_cast hin
  · next he =>
    obtain ⟨e, he⟩ := Int.eq_ofNat_of_zero_le (show 0 ≤ -d.exponent by omega)
    have hexponent : d.exponent = -(e : Int) := by omega
    have hpos : 0 < pow10 e := Nat.pow_pos (by decide)
    rw [Decimal.value, hexponent, zpow_neg, zpow_natCast, ← cast_pow10, ← div_eq_mul_inv,
      div_mul_eq_mul_div, ← Nat.cast_mul] at hin
    rw [ofRatio, he, Int.toNat_natCast, roundRatio_of_contains h hpos hin]

/-- A finite number is less than what is out of range. -/
theorem magnitude_lt_overflow {x : Binary64} (h : x.isFinite = true) :
    x.magnitude < overflow := by
  have hfraction := fractionField_lt x
  have hexponent := exponentField_lt h
  have hdouble : pow2 53 = pow2 52 + pow2 52 := rfl
  have hrange : pow2 (53 + (x.exponentField - 1)) ≤ overflow := pow2_le_pow2 (by omega)
  have hpos := pow2_pos (x.exponentField - 1)
  rw [pow2_add] at hrange
  rw [magnitude]
  split
  · have hle : pow2 52 ≤ overflow := pow2_le_pow2 (by decide)
    omega
  · exact (Nat.mul_lt_mul_of_pos_right (by omega) hpos).trans_le hrange

/-- The bits of a number are its sign, its exponent and its fraction. -/
theorem bits_eq (x : Binary64) :
    x.bits.toNat = (if x.isNegative = true then pow2 63 else 0)
      + (x.exponentField * pow2 52 + x.fractionField) := by
  have h11 : pow2 11 = 2048 := rfl
  have h52 : pow2 52 = 4503599627370496 := rfl
  have h63 : pow2 63 = 9223372036854775808 := rfl
  have hbits := x.bits.toNat_lt
  rw [isNegative, exponentField, fractionField, h11, h52, h63]
  simp only [decide_eq_true_eq]
  split <;> omega

/-- **A finite number put together** from its sign and its magnitude is that number. -/
theorem ofMagnitude_magnitude {x : Binary64} (h : x.isFinite = true) :
    ofMagnitude x.isNegative x.magnitude = x := by
  rw [ofMagnitude, magnitudeBits_magnitude h, ← bits_eq, UInt64.ofNat_toNat]

/-- A number that is neither finite nor no number at all is one of the infinities. -/
theorem eq_infinity {x : Binary64} (hnan : x.isNaN = false) (h : x.isFinite = false) :
    x = infinity x.isNegative := by
  have hexponent : x.exponentField = 2047 := by simpa [isFinite] using h
  have hfraction : x.fractionField = 0 := by simpa [isNaN, hexponent] using hnan
  have hbits := bits_eq x
  rw [hexponent, hfraction, Nat.add_zero] at hbits
  rw [infinity, ofMagnitude, magnitudeBits, if_pos le_rfl, ← hbits, UInt64.ofNat_toNat]

/-- **Any way to write the shortest decimal** is read as the number it was made for. -/
theorem ofDecimal_shortest {x : Binary64} (h : x.isFinite = true) (hne : x.magnitude ≠ 0)
    {d : Decimal} (hd : d.value = (shortest x.magnitude).value) :
    ofDecimal x.isNegative d.digits d.exponent = x := by
  have hpos := Nat.pos_of_ne_zero hne
  obtain ⟨m, s, hscaled⟩ := exists_scaled x
  have hwide : (basin x.magnitude).low < (basin x.magnitude).high := by
    have hstep := pow2_pos s
    rw [hscaled.basin_eq]
    show 4 * x.magnitude - _ < 4 * x.magnitude + 2 * pow2 s
    omega
  have hin := Basin.contains_of_holds hwide (holds_shortest hscaled hpos).1
  rw [← hd] at hin
  rw [ofDecimal_of_contains hscaled hpos (magnitude_lt_overflow h) hin, ofMagnitude_magnitude h]

end Binary64

end GhostEdit
