import GhostEdit.Binary64.Shortest
import GhostEdit.Proofs.Clock
import Mathlib.Algebra.Order.Field.Basic
import Mathlib.Data.Rat.Cast.Order
import Mathlib.Tactic.FieldSimp
import Mathlib.Tactic.Linarith
import Mathlib.Tactic.Ring

/-!
# What rounds to a number

The numbers that are kept are counts of units with at most 53 significant bits, and each is the
nearest to everything between two bounds halfway to its neighbours. Which bits are left out depends
on the number that is rounded, so a quotient just below a power of two needs a case of its own: it
has one bit less, and the counts there lie closer together.

## Main definitions

* `Binary64.Scaled`: a count with at most 53 significant bits
* `Binary64.Basin.Contains`: a quotient is in the range of what rounds to a number

## Main results

* `Binary64.exists_scaled`: every magnitude is such a count
* `Binary64.roundRatio_of_contains`: what is in its range rounds to a number
-/

namespace GhostEdit

/-- A quotient is rounded to the whole number that it is within a half of; at a half exactly, to an
even one. -/
theorem roundHalfEven_eq {a b m : Nat} (hb : 0 < b) (hlow : 2 * (m * b) ≤ 2 * a + b)
    (hhigh : 2 * a ≤ 2 * (m * b) + b)
    (hodd : m % 2 = 1 → 2 * (m * b) < 2 * a + b ∧ 2 * a < 2 * (m * b) + b) :
    roundHalfEven a b = m := by
  have hsplit := Nat.div_add_mod a b
  have hrest := Nat.mod_lt a hb
  rw [roundHalfEven]
  rcases Nat.lt_or_ge a (m * b) with hbelow | habove
  · -- just below, the floor is one less and the rest at least a half
    obtain ⟨n, rfl⟩ := Nat.exists_eq_add_one_of_ne_zero
      (show m ≠ 0 by rintro rfl; simp at hbelow)
    have hstep : (n + 1) * b = n * b + b := Nat.succ_mul n b
    have hfloor : a / b = n := Nat.div_eq_of_lt_le (by omega) (by omega)
    rw [hfloor] at hsplit ⊢
    have hcomm : b * n = n * b := Nat.mul_comm b n
    rw [if_pos (by omega)]
  · have hstep : (m + 1) * b = m * b + b := Nat.succ_mul m b
    have hfloor : a / b = m := Nat.div_eq_of_lt_le habove (by omega)
    rw [hfloor] at hsplit ⊢
    have hcomm : b * m = m * b := Nat.mul_comm b m
    rw [if_neg (by omega)]

namespace Binary64

/-- A count of units with at most 53 significant bits: `m` times a power of two, with as few bits
left out as there can be. -/
structure Scaled (m s k : Nat) : Prop where
  eq : k = m * pow2 s
  lt : m < pow2 53
  full : 0 < s → pow2 52 ≤ m

/-- A number has such a magnitude. -/
theorem exists_scaled (x : Binary64) : ∃ m s, Scaled m s x.magnitude := by
  have hfraction := fractionField_lt x
  have hdouble : pow2 53 = pow2 52 + pow2 52 := rfl
  rw [magnitude]
  split
  · exact ⟨x.fractionField, 0, (Nat.mul_one _).symm, by omega, by omega⟩
  · exact ⟨pow2 52 + x.fractionField, x.exponentField - 1, rfl, by omega, fun _ => by omega⟩

variable {m s k : Nat}

/-- How many bits are left out. -/
theorem Scaled.shift (h : Scaled m s k) : k.log2 + 1 - 53 = s := by
  have hlt := h.lt
  by_cases hs : 0 < s
  · have hfull := h.full hs
    have hpos := pow2_pos 52
    have hlog : k.log2 = 52 + s := by
      refine (Nat.log2_eq_iff ?_).mpr ⟨?_, ?_⟩
      · rw [h.eq]
        exact Nat.mul_ne_zero (by omega) (pow2_pos s).ne'
      · rw [h.eq]
        exact (pow2_add 52 s).trans_le (Nat.mul_le_mul_right _ hfull)
      · rw [h.eq, show 52 + s + 1 = 53 + s by omega]
        exact (Nat.mul_lt_mul_of_pos_right hlt (pow2_pos s)).trans_eq (pow2_add 53 s).symm
    omega
  · obtain rfl : s = 0 := by omega
    have hk : k < 2 ^ 53 := by
      rw [h.eq]
      exact (Nat.mul_one m).trans_lt hlt
    by_cases hzero : k = 0
    · rw [hzero]
      rfl
    · have hlog := (Nat.log2_lt hzero).mpr hk
      omega

/-- The range of what rounds to a scaled count. -/
theorem Scaled.basin_eq (h : Scaled m s k) :
    basin k
      = { low := 4 * k - if m = pow2 52 ∧ 0 < s then pow2 s else 2 * pow2 s
          value := 4 * k
          high := 4 * k + 2 * pow2 s
          closed := decide (m % 2 = 0) } := by
  have hm : k / pow2 s = m := by rw [h.eq, Nat.mul_div_cancel _ (pow2_pos s)]
  rw [basin]
  simp only [h.shift, hm]

/-- A quotient, in units, is in the range of what rounds to a number. -/
structure Basin.Contains (b : Basin) (q : ℚ) : Prop where
  low : (b.low : ℚ) ≤ 4 * q
  high : 4 * q ≤ b.high
  inside : b.closed = false → (b.low : ℚ) < 4 * q ∧ 4 * q < b.high

/-- The bounds of a quotient as whole numbers. -/
theorem Basin.Contains.natCast {r : Basin} {a b : Nat} (hb : 0 < b)
    (h : r.Contains ((a : ℚ) / b)) :
    r.low * b ≤ 4 * a ∧ 4 * a ≤ r.high * b ∧
      (r.closed = false → r.low * b < 4 * a ∧ 4 * a < r.high * b) := by
  have hpos : (0 : ℚ) < b := by exact_mod_cast hb
  have hquotient : 4 * ((a : ℚ) / b) = 4 * a / b := by ring
  obtain ⟨hlow, hhigh, hinside⟩ := h
  rw [hquotient] at hlow hhigh hinside
  rw [le_div_iff₀ hpos] at hlow
  rw [div_le_iff₀ hpos] at hhigh
  rw [lt_div_iff₀ hpos, div_lt_iff₀ hpos] at hinside
  refine ⟨?_, ?_, ?_⟩
  · exact_mod_cast hlow
  · exact_mod_cast hhigh
  · exact_mod_cast hinside

/-- Between powers of two the length is known. -/
theorem log2_eq {n e : Nat} (hlow : pow2 e ≤ n) (hhigh : n < pow2 (e + 1)) : n.log2 = e := by
  refine (Nat.log2_eq_iff ?_).mpr ⟨hlow, hhigh⟩
  have hpos := pow2_pos e
  omega

/-- A quotient of which `s` bits are left out is rounded to the multiple of `2 ^ s` that it is
within half of; at a half exactly, to an even one. -/
theorem roundRatio_eq {a b : Nat} (hb : 0 < b) (hquotient : a / b < pow2 (53 + s))
    (hfull : 0 < s → pow2 (52 + s) ≤ a / b)
    (hlow : 2 * (m * (b * pow2 s)) ≤ 2 * a + b * pow2 s)
    (hhigh : 2 * a ≤ 2 * (m * (b * pow2 s)) + b * pow2 s)
    (hodd : m % 2 = 1 → 2 * (m * (b * pow2 s)) < 2 * a + b * pow2 s ∧
      2 * a < 2 * (m * (b * pow2 s)) + b * pow2 s) :
    roundRatio a b = m * pow2 s := by
  have hshift : (a / b).log2 + 1 - 53 = s := by
    by_cases hs : 0 < s
    · rw [show 53 + s = 52 + s + 1 by omega] at hquotient
      rw [log2_eq (hfull hs) hquotient]
      omega
    · obtain rfl : s = 0 := by omega
      by_cases hzero : a / b = 0
      · rw [hzero]
        rfl
      · have hlog := (Nat.log2_lt hzero).mpr hquotient
        omega
  rw [roundRatio]
  simp only [hshift]
  rw [roundHalfEven_eq (Nat.mul_pos hb (pow2_pos s)) hlow hhigh hodd]

/-- **What is in its range rounds to a number.** Just below a power of two the counts lie closer
together by half, so there the range is smaller and one more bit is kept. -/
theorem roundRatio_of_contains (h : Scaled m s k) {a b : Nat} (hb : 0 < b)
    (hin : (basin k).Contains ((a : ℚ) / b)) : roundRatio a b = k := by
  obtain ⟨hlow, hhigh, hinside⟩ := hin.natCast hb
  rw [h.basin_eq] at hlow hhigh hinside
  have hgrid : 0 < b * pow2 s := Nat.mul_pos hb (pow2_pos s)
  have hkb : k * b = m * (b * pow2 s) := by
    rw [h.eq]
    ring
  have htop : (4 * k + 2 * pow2 s) * b = 4 * (m * (b * pow2 s)) + 2 * (b * pow2 s) := by
    rw [← hkb]
    ring
  have hfactor : b * pow2 (53 + s) = pow2 53 * (b * pow2 s) := by
    rw [pow2_add]
    ring
  have hfactor' : pow2 (52 + s) * b = pow2 52 * (b * pow2 s) := by
    rw [pow2_add]
    ring
  have hnext : (m + 1) * (b * pow2 s) ≤ pow2 53 * (b * pow2 s) := Nat.mul_le_mul_right _ h.lt
  rw [Nat.succ_mul] at hnext
  rw [htop] at hhigh hinside
  have hquotient : a / b < pow2 (53 + s) := Nat.div_lt_of_lt_mul (by omega)
  by_cases hedge : m = pow2 52 ∧ 0 < s
  · rw [if_pos hedge, Nat.sub_mul, Nat.mul_assoc, hkb, Nat.mul_comm (pow2 s)] at hlow hinside
    obtain ⟨rfl, hs⟩ := hedge
    by_cases hbelow : a < pow2 52 * (b * pow2 s)
    · obtain ⟨t, rfl⟩ := Nat.exists_eq_add_one_of_ne_zero hs.ne'
      have hhalf : b * pow2 (t + 1) = 2 * (b * pow2 t) := by
        rw [pow2_add, show pow2 1 = 2 from rfl]
        ring
      have hk : k = pow2 53 * pow2 t := by
        rw [h.eq, pow2_add t 1, show pow2 53 = pow2 52 * pow2 1 from rfl]
        ring
      have hlast : pow2 (52 + t) * b = pow2 52 * (b * pow2 t) := by
        rw [pow2_add]
        ring
      have hpower : b * pow2 (53 + t) = 2 * (pow2 52 * (b * pow2 t)) := by
        rw [pow2_add, show pow2 53 = pow2 52 * 2 from rfl]
        ring
      have hdouble : pow2 53 * (b * pow2 t) = 2 * (pow2 52 * (b * pow2 t)) := by
        rw [show pow2 53 = pow2 52 * 2 from rfl]
        ring
      have hmany : b * pow2 t ≤ pow2 52 * (b * pow2 t) := Nat.le_mul_of_pos_left _ (pow2_pos 52)
      rw [hhalf, Nat.mul_left_comm (pow2 52)] at hlow hbelow
      rw [hk]
      refine roundRatio_eq hb (Nat.div_lt_of_lt_mul (by omega)) (fun _ => ?_) (by omega) (by omega)
        fun hodd => absurd hodd (by decide)
      exact (Nat.le_div_iff_mul_le hb).mpr (by omega)
    · rw [h.eq]
      refine roundRatio_eq hb hquotient (fun _ => ?_) (by omega) (by omega)
        fun hodd => absurd hodd (by decide)
      exact (Nat.le_div_iff_mul_le hb).mpr (by omega)
  · rw [if_neg hedge, Nat.sub_mul, Nat.mul_assoc, hkb, Nat.mul_assoc, Nat.mul_comm (pow2 s)]
      at hlow hinside
    have hone : 0 < s → (pow2 52 + 1) * (b * pow2 s) ≤ m * (b * pow2 s) := by
      intro hs
      have hfull := h.full hs
      exact Nat.mul_le_mul_right _ (by omega)
    rw [h.eq]
    refine roundRatio_eq hb hquotient (fun hs => ?_) (by omega) (by omega) (fun hodd => ?_)
    · have hmore := hone hs
      rw [Nat.succ_mul] at hmore
      exact (Nat.le_div_iff_mul_le hb).mpr (by omega)
    · have hstrict := hinside (decide_eq_false (by omega))
      omega

end Binary64

end GhostEdit
