/-!
# Binary64 numbers in exact arithmetic

Every finite binary64 number is a whole multiple of the least positive one, `2 ^ -1074`, its
*unit*. Counting units turns the order of such numbers into the order of integers and their
arithmetic into integer arithmetic followed by one rounding to 53 significant bits.

## Main definitions

* `Binary64`: a number by its bit pattern, infinities and not-a-number included
* `Binary64.units?`: the number of units of a finite number
* `roundRatio`: the nearest representable count of units, ties to even
* `Binary64.ofUnits`, `ofRatio`, `ofDecimal`: the nearest binary64 number of a count, a quotient
  and a decimal
-/

namespace GhostEdit

/-- A power of two. -/
def pow2 (n : Nat) : Nat := Nat.pow 2 n

/-- A power of ten. -/
def pow10 (n : Nat) : Nat := Nat.pow 10 n

/-- A binary64 number, given by its 64 bits. -/
structure Binary64 where
  bits : UInt64
deriving DecidableEq, Inhabited

/-- The quotient `a / b` rounded to the nearest whole number, a half to the even neighbour. -/
def roundHalfEven (a b : Nat) : Nat :=
  let q := a / b
  let r := a % b
  if b < 2 * r ∨ (2 * r = b ∧ q % 2 = 1) then q + 1 else q

/-- The quotient `a / b` rounded to a whole number of at most 53 significant bits. -/
def roundRatio (a b : Nat) : Nat :=
  let excess := (a / b).log2 + 1 - 53
  roundHalfEven a (b * pow2 excess) * pow2 excess

namespace Binary64

/-- The units in one. -/
def one : Nat := pow2 1074

/-- The least count of units that is out of range. -/
def overflow : Nat := pow2 2098

/-- The sign bit. -/
def isNegative (x : Binary64) : Bool := x.bits.toNat ≥ pow2 63

/-- The eleven exponent bits. -/
def exponentField (x : Binary64) : Nat := x.bits.toNat / pow2 52 % pow2 11

/-- The fifty-two fraction bits. -/
def fractionField (x : Binary64) : Nat := x.bits.toNat % pow2 52

/-- Whether the number is neither infinite nor not-a-number. -/
def isFinite (x : Binary64) : Bool := x.exponentField ≠ 2047

/-- Whether the bits stand for no number. -/
def isNaN (x : Binary64) : Bool := x.exponentField = 2047 && x.fractionField ≠ 0

/-- The units of the absolute value, for a finite number. -/
def magnitude (x : Binary64) : Nat :=
  if x.exponentField = 0 then x.fractionField
  else (pow2 52 + x.fractionField) * pow2 (x.exponentField - 1)

/-- The units of a finite number. -/
def units? (x : Binary64) : Option Int :=
  if x.isFinite then
    some (if x.isNegative then -(x.magnitude : Int) else x.magnitude)
  else none

/-- The bits of a representable count of units, without the sign. -/
def magnitudeBits (k : Nat) : Nat :=
  if overflow ≤ k then 2047 * pow2 52
  else if k < pow2 52 then k
  else
    let shift := k.log2 - 52
    (shift + 1) * pow2 52 + (k / pow2 shift - pow2 52)

/-- The number with the given sign whose magnitude is a representable count of units. -/
def ofMagnitude (negative : Bool) (k : Nat) : Binary64 :=
  ⟨UInt64.ofNat ((if negative then pow2 63 else 0) + magnitudeBits k)⟩

/-- The number nearest to a count of units. -/
def ofUnits (k : Int) : Binary64 := ofMagnitude (k < 0) (roundRatio k.natAbs 1)

/-- The number nearest to `± a / b`. -/
def ofRatio (negative : Bool) (a b : Nat) : Binary64 :=
  ofMagnitude negative (roundRatio (a * one) b)

/-- The number nearest to an integer. -/
def ofInt (n : Int) : Binary64 := ofRatio (n < 0) n.natAbs 1

/-- Positive infinity, or negative infinity. -/
def infinity (negative : Bool) : Binary64 := ofMagnitude negative overflow

/-- The number that stands for no number. -/
def nan : Binary64 := ⟨0x7ff8000000000000⟩

/-- The number nearest to `± m * 10 ^ e`. Exponents far outside the range of binary64 numbers are
decided by the count of digits alone, so that no huge power is computed. -/
def ofDecimal (negative : Bool) (m : Nat) (e : Int) : Binary64 :=
  if m = 0 then ofMagnitude negative 0
  else
    let size : Int := (Nat.toDigits 10 m).length + e
    if size > 400 then infinity negative
    else if size < -400 then ofMagnitude negative 0
    else if 0 ≤ e then ofRatio negative (m * pow10 e.toNat) 1
    else ofRatio negative m (pow10 (-e).toNat)

/-- The integer a finite number is, if it is one. -/
def toInt? (x : Binary64) : Option Int := do
  let k ← x.units?
  if k % (one : Int) = 0 then some (k / (one : Int)) else none

/-- The sixteen hexadecimal digits of the bits, most significant first. -/
def hex (x : Binary64) : String :=
  let digits := Nat.toDigits 16 x.bits.toNat
  String.ofList (List.replicate (16 - digits.length) '0' ++ digits)

end Binary64

end GhostEdit
