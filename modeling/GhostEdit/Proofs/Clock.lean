import GhostEdit.Clock

/-!
# Times, taken from each other and compared

How long a request took is the difference of two readings of the clock, and a difference that is no
finite number cannot be noted. A round reads the clock twice at the same time. Differences are
computed by adding the number with the other sign, which is put together again from its sign and its
magnitude, and so this file first shows that taking a finite number apart loses nothing.

Times are compared by their ranks. A reading that is no number has none and is neither before nor
after any other, so that "not before" says less than "at least" unless both are numbers.

## Main definitions

* `Seconds.isNumber`: whether a time has a place among others

## Main results

* `Binary64.parts_ofMagnitude`: a finite number put together from its magnitude
* `Seconds.toMillis_sub_self`: from a time to itself it is no time
* `Seconds.later_eq`: a number of seconds is added as the time it states
* `Seconds.isNumber_add`: no finite span leads from a number to what is none
-/

namespace GhostEdit

namespace Binary64

variable {x : Binary64}

theorem pow2_pos (n : Nat) : 0 < pow2 n := Nat.pow_pos (by decide)

theorem pow2_add (m n : Nat) : pow2 (m + n) = pow2 m * pow2 n := Nat.pow_add 2 m n

theorem pow2_le_pow2 {m n : Nat} (h : m ≤ n) : pow2 m ≤ pow2 n :=
  Nat.pow_le_pow_right (by decide) h

theorem fractionField_lt (x : Binary64) : x.fractionField < pow2 52 := Nat.mod_lt _ (pow2_pos 52)

theorem exponentField_lt (h : x.isFinite = true) : x.exponentField < 2047 := by
  have hlt : x.exponentField < pow2 11 := Nat.mod_lt _ (pow2_pos 11)
  have hne : x.exponentField ≠ 2047 := by simpa [isFinite] using h
  have hpow : pow2 11 = 2048 := rfl
  omega

/-- **The bits of the magnitude** of a finite number are its exponent and its fraction. -/
theorem magnitudeBits_magnitude (h : x.isFinite = true) :
    magnitudeBits x.magnitude = x.exponentField * pow2 52 + x.fractionField := by
  have hfraction := fractionField_lt x
  have hexponent := exponentField_lt h
  rw [magnitude]
  split
  · next hzero =>
    have hsmall : pow2 52 ≤ overflow := pow2_le_pow2 (by decide)
    rw [magnitudeBits, if_neg (by omega), if_pos hfraction, hzero, Nat.zero_mul, Nat.zero_add]
  · next hne =>
    -- with the leading bit the fraction has 53 bits, so that the exponent is read off the length
    generalize hshift : x.exponentField - 1 = shift
    have hpos := pow2_pos shift
    have hlow : pow2 (52 + shift) ≤ (pow2 52 + x.fractionField) * pow2 shift := by
      rw [pow2_add]
      exact Nat.mul_le_mul_right _ (Nat.le_add_right _ _)
    have hhigh : (pow2 52 + x.fractionField) * pow2 shift < pow2 (53 + shift) := by
      rw [pow2_add]
      refine Nat.mul_lt_mul_of_pos_right ?_ hpos
      have hdouble : pow2 53 = pow2 52 + pow2 52 := rfl
      omega
    have hrange : pow2 (53 + shift) ≤ overflow := pow2_le_pow2 (by omega)
    have hlarge : pow2 52 ≤ pow2 (52 + shift) := pow2_le_pow2 (by omega)
    have hlog : ((pow2 52 + x.fractionField) * pow2 shift).log2 = 52 + shift := by
      refine (Nat.log2_eq_iff ?_).mpr ⟨hlow, ?_⟩
      · have := pow2_pos (52 + shift)
        omega
      · rwa [Nat.add_right_comm]
    have hback : shift + 1 = x.exponentField := by omega
    rw [magnitudeBits, if_neg (by omega), if_neg (by omega), hlog, Nat.add_sub_cancel_left]
    dsimp only
    rw [Nat.mul_div_cancel _ hpos, Nat.add_sub_cancel_left, hback]

/-- The fields of what is put together from a sign and the bits of a magnitude. -/
theorem fields_ofMagnitude {k exponent fraction : Nat}
    (hbits : magnitudeBits k = exponent * pow2 52 + fraction) (hfraction : fraction < pow2 52)
    (hexponent : exponent ≤ 2047) (negative : Bool) :
    (ofMagnitude negative k).isNegative = negative ∧
      (ofMagnitude negative k).exponentField = exponent ∧
      (ofMagnitude negative k).fractionField = fraction := by
  have h11 : pow2 11 = 2048 := rfl
  have h52 : pow2 52 = 4503599627370496 := rfl
  have h63 : pow2 63 = 9223372036854775808 := rfl
  rw [h52] at hfraction
  have htoNat : (ofMagnitude negative k).bits.toNat
      = (if negative then 9223372036854775808 else 0)
        + (exponent * 4503599627370496 + fraction) := by
    rw [ofMagnitude, hbits, h52, h63]
    refine (UInt64.toNat_ofNat' ..).trans (Nat.mod_eq_of_lt ?_)
    split <;> omega
  refine ⟨?_, ?_, ?_⟩
  · rw [isNegative, htoNat, h63]
    cases negative with
    | false => exact decide_eq_false (by simp only [Bool.false_eq_true, if_false]; omega)
    | true => exact decide_eq_true (by simp only [if_true]; omega)
  · rw [exponentField, htoNat, h52, h11]
    split <;> omega
  · rw [fractionField, htoNat, h52]
    split <;> omega

/-- **A finite number put together** from a sign and its magnitude has these parts. -/
theorem parts_ofMagnitude (h : x.isFinite = true) (negative : Bool) :
    (ofMagnitude negative x.magnitude).parts = .finite negative x.magnitude := by
  obtain ⟨hsign, hexp, hfrac⟩ := fields_ofMagnitude (magnitudeBits_magnitude h)
    (fractionField_lt x) (Nat.le_of_lt (exponentField_lt h)) negative
  have hfinite : (ofMagnitude negative x.magnitude).isFinite = true := by
    rw [isFinite, hexp]
    exact h
  have hmagnitude : (ofMagnitude negative x.magnitude).magnitude = x.magnitude := by
    rw [magnitude, hexp, hfrac, ← magnitude]
  rw [parts, if_pos hfinite, hsign, hmagnitude]

/-- A finite number taken from itself leaves zero. -/
theorem sub_self (h : x.isFinite = true) : x.sub x = ofMagnitude false 0 := by
  have hparts : x.parts = .finite x.isNegative x.magnitude := by rw [parts, if_pos h]
  have hzero : signed x.isNegative x.magnitude + signed (!x.isNegative) x.magnitude = 0 := by
    cases x.isNegative with
    | false => exact Int.add_right_neg _
    | true => exact Int.add_left_neg _
  rw [sub, negate, hparts]
  dsimp only
  rw [add, hparts, parts_ofMagnitude h]
  dsimp only
  rw [addFinite, if_pos hzero]
  cases x.isNegative <;> rfl

end Binary64

/-- **From a time to itself** it is no time. -/
theorem Seconds.toMillis_sub_self {s : Seconds} (h : s.value.isFinite = true) :
    (s - s).toMillis = .ok 0 := by
  have hspan : (s - s).value = Binary64.ofMagnitude false 0 := Binary64.sub_self h
  have hmillis : ((Binary64.ofMagnitude false 0).times 1000).truncate? = some 0 := by
    decide +kernel
  rw [toMillis, hspan, hmillis]

/-! ## The order of times -/

namespace Binary64

/-- The bits of a magnitude are those of an exponent and a fraction; the largest exponent comes with
an empty fraction. -/
theorem exists_magnitudeBits_eq (k : Nat) :
    ∃ exponent fraction, magnitudeBits k = exponent * pow2 52 + fraction ∧ fraction < pow2 52 ∧
      exponent ≤ 2047 ∧ (exponent = 2047 → fraction = 0) := by
  have h52 : pow2 52 = 4503599627370496 := rfl
  rw [magnitudeBits]
  split
  · exact ⟨2047, 0, rfl, pow2_pos 52, by omega, fun _ => rfl⟩
  · next hrange =>
    split
    · next hsmall => exact ⟨0, k, by omega, hsmall, by omega, by omega⟩
    · next hlarge =>
      have hne : k ≠ 0 := by omega
      have hself : pow2 k.log2 ≤ k := Nat.log2_self_le hne
      have hnext : k < pow2 (k.log2 + 1) := Nat.lt_log2_self
      have hlog : k.log2 < 2098 := by
        refine Nat.lt_of_not_le fun hle => hrange ?_
        exact Nat.le_trans (pow2_le_pow2 hle) hself
      have hlog' : 52 ≤ k.log2 := (Nat.le_log2 hne).mpr (Nat.le_of_not_lt hlarge)
      generalize hshift : k.log2 - 52 = shift
      have hpos := pow2_pos shift
      rw [show k.log2 = 52 + shift by omega, pow2_add] at hself
      rw [show k.log2 + 1 = 53 + shift by omega, pow2_add] at hnext
      have hlow : pow2 52 ≤ k / pow2 shift := (Nat.le_div_iff_mul_le hpos).mpr hself
      have hhigh : k / pow2 shift < pow2 53 := (Nat.div_lt_iff_lt_mul hpos).mpr hnext
      have h53 : pow2 53 = pow2 52 + pow2 52 := rfl
      exact ⟨shift + 1, k / pow2 shift - pow2 52, rfl, by omega, by omega, by omega⟩

/-- **What is put together** from a sign and a magnitude is a number, however large the magnitude
is. -/
theorem isNaN_ofMagnitude (negative : Bool) (k : Nat) : (ofMagnitude negative k).isNaN = false := by
  obtain ⟨exponent, fraction, hbits, hfraction, hexponent, hempty⟩ := exists_magnitudeBits_eq k
  obtain ⟨_, hexp, hfrac⟩ := fields_ofMagnitude hbits hfraction hexponent negative
  rw [isNaN, hexp, hfrac]
  by_cases h : exponent = 2047
  · simp [hempty h]
  · simp [h]

/-- The numbers are what has a rank. -/
theorem isSome_rank? (x : Binary64) : x.rank?.isSome = !x.isNaN := by
  rw [rank?, parts]
  by_cases hfinite : x.isFinite = true
  · have hnan : x.isNaN = false := by
      have hexponent : x.exponentField ≠ 2047 := by simpa [isFinite] using hfinite
      simp [isNaN, hexponent]
    simp [hfinite, hnan]
  · by_cases hnan : x.isNaN = true
    · simp [hfinite, hnan]
    · simp [hfinite, hnan]

end Binary64

namespace Seconds

variable {s t u : Seconds}

/-- Whether a time is a number, which the infinities are. -/
def isNumber (s : Seconds) : Bool := !s.value.isNaN

theorem isNumber_iff : s.isNumber = true ↔ ∃ a, s.value.rank? = some a := by
  rw [isNumber, ← Binary64.isSome_rank?, Option.isSome_iff_exists]

theorem le_iff :
    s ≤ t ↔ ∃ a b, s.value.rank? = some a ∧ t.value.rank? = some b ∧ a ≤ b := by
  show Binary64.ranked (fun a b => a ≤ b) s.value.rank? t.value.rank? = true ↔ _
  cases s.value.rank? <;> cases t.value.rank? <;> simp [Binary64.ranked]

theorem lt_iff :
    s < t ↔ ∃ a b, s.value.rank? = some a ∧ t.value.rank? = some b ∧ a < b := by
  show Binary64.ranked (fun a b => a < b) s.value.rank? t.value.rank? = true ↔ _
  cases s.value.rank? <;> cases t.value.rank? <;> simp [Binary64.ranked]

theorem isNumber_of_le (h : s ≤ t) : s.isNumber = true ∧ t.isNumber = true := by
  obtain ⟨a, b, hs, ht, _⟩ := le_iff.mp h
  exact ⟨isNumber_iff.mpr ⟨a, hs⟩, isNumber_iff.mpr ⟨b, ht⟩⟩

theorem le_trans (hst : s ≤ t) (htu : t ≤ u) : s ≤ u := by
  obtain ⟨a, b, hs, ht, hab⟩ := le_iff.mp hst
  obtain ⟨b', c, ht', hu, hbc⟩ := le_iff.mp htu
  rw [ht] at ht'
  cases ht'
  exact le_iff.mpr ⟨a, c, hs, hu, by omega⟩

/-- A time is not before one that is at most as late. -/
theorem not_lt_of_le (h : s ≤ t) : ¬ t < s := by
  intro hlt
  obtain ⟨a, b, hs, ht, hle⟩ := le_iff.mp h
  obtain ⟨b', a', ht', hs', hlt⟩ := lt_iff.mp hlt
  rw [hs] at hs'
  rw [ht] at ht'
  cases hs'
  cases ht'
  omega

/-- Of two numbers, the one that is not before the other is at least the other. -/
theorem le_of_not_lt (hs : s.isNumber = true) (ht : t.isNumber = true) (h : ¬ s < t) : t ≤ s := by
  obtain ⟨a, ha⟩ := isNumber_iff.mp hs
  obtain ⟨b, hb⟩ := isNumber_iff.mp ht
  rcases Int.lt_or_le a b with hlt | hle
  · exact absurd (lt_iff.mpr ⟨a, b, ha, hb, hlt⟩) h
  · exact le_iff.mpr ⟨b, a, hb, ha, hle⟩

/-- **A finite span** leads from a number to a number. -/
theorem isNumber_add (hs : s.isNumber = true) (ht : t.value.isFinite = true) :
    (s + t).isNumber = true := by
  have hnan : s.value.isNaN = false := by simpa [isNumber] using hs
  have hsum : (s.value.add t.value).isNaN = false := by
    have hparts : t.value.parts = .finite t.value.isNegative t.value.magnitude := by
      rw [Binary64.parts, if_pos ht]
    rw [Binary64.add, hparts]
    by_cases hfinite : s.value.isFinite = true
    · rw [Binary64.parts, if_pos hfinite]
      simp only [Binary64.addFinite]
      split
      · exact Binary64.isNaN_ofMagnitude ..
      · exact Binary64.isNaN_ofMagnitude ..
    · rw [Binary64.parts, if_neg hfinite, hnan]
      exact hnan
  show (!(s.value.add t.value).isNaN) = true
  rw [hsum]
  rfl

/-- A whole number of seconds that can be told at all is finite. -/
theorem isFinite_of_ofValue_int {n : Int} (h : ofValue (.int n) = .ok s) :
    s.value.isFinite = true := by
  obtain ⟨x, hx, rfl⟩ := map_eq_ok h
  simp only [Value.floatOf] at hx
  split at hx
  · next hfinite =>
    rw [← Except.ok.inj hx]
    exact hfinite
  · cases hx

/-- A number of seconds is added as the time it states. -/
theorem later_eq {lifetime : Value} {ttl : Seconds} (hnumeric : lifetime.isNumeric = true)
    (httl : ofValue lifetime = .ok ttl) (now : Seconds) :
    now.later lifetime = .ok (now + ttl) := by
  have hsum : ∀ outcome : Except Failure Binary64, outcome.map Seconds.mk = .ok ttl →
      (outcome.map now.value.add).map Seconds.mk = .ok (now + ttl) := by
    rintro (_ | x) h
    · cases h
    · cases h
      rfl
  cases lifetime with
  | float x =>
    cases httl
    rfl
  | int n =>
    simp only [later, Value.addTo, Value.int?]
    exact hsum (Value.floatOf n) httl
  | bool b =>
    simp only [later, Value.addTo, Value.int?]
    exact hsum (Value.floatOf _) httl
  | _ => cases hnumeric

end Seconds

end GhostEdit
