import GhostEdit.Binary64.Basic

/-!
# The shortest decimal of a binary64 number

Among the decimals that round to a given number, those with the fewest digits are the ones to
write, and of these the nearest. The search tries one digit, two digits and so on; with a given
count of digits only the two neighbours of the number on the decimal grid can be right.

## Main definitions

* `Binary64.shortest`: the digits and the decimal exponent
* `Binary64.render`: the written form, positional from `1e-4` up to but not including `1e16`
-/

namespace GhostEdit

namespace Binary64

/-- A decimal `digits * 10 ^ exponent`. -/
structure Decimal where
  digits : Nat
  exponent : Int

/-- The numbers that round to a given one, as a range of quarter units. -/
structure Basin where
  low : Nat
  value : Nat
  high : Nat
  closed : Bool

/-- The range of numbers that round to `k` units, for positive `k`. -/
def basin (k : Nat) : Basin :=
  let shift := k.log2 + 1 - 53
  let step := pow2 shift
  let m := k / step
  let down := if m = pow2 52 ∧ 0 < shift then step else 2 * step
  { low := 4 * k - down, value := 4 * k, high := 4 * k + 2 * step, closed := m % 2 = 0 }

/-- Compare a decimal with a count of quarter units, both brought to whole numbers. -/
def Decimal.compareTo (d : Decimal) (quarters : Nat) : Ordering :=
  let unit := 4 * one
  if 0 ≤ d.exponent then compare (d.digits * pow10 d.exponent.toNat * unit) quarters
  else compare (d.digits * unit) (quarters * pow10 (-d.exponent).toNat)

/-- Whether a decimal rounds to the number a basin belongs to. -/
def Basin.holds (b : Basin) (d : Decimal) : Bool :=
  match d.compareTo b.low, d.compareTo b.high with
  | .gt, .lt => true
  | .eq, _ => b.closed
  | _, .eq => b.closed
  | _, _ => false

/-- The largest `e` with `10 ^ e ≤ k / one`, found by counting digits of a scaled value. -/
def decimalExponent (k : Nat) : Int :=
  if one ≤ k then ((Nat.toDigits 10 (k / one)).length : Int) - 1
  else ((Nat.toDigits 10 (k * pow10 330 / one)).length : Int) - 331

/-- The two neighbours of `k` units on the grid of multiples of `10 ^ e`, the lower one with the
distance on either side as a comparison. -/
def neighbours (k : Nat) (e : Int) : Decimal × Decimal × Ordering :=
  let scaled := if 0 ≤ e then k else k * pow10 (-e).toNat
  let grid := if 0 ≤ e then one * pow10 e.toNat else one
  let d := scaled / grid
  (⟨d, e⟩, ⟨d + 1, e⟩, compare (2 * (scaled % grid)) grid)

/-- The best decimal with `n` digits, if one rounds to `k` units. -/
def withDigits (k n : Nat) : Option Decimal :=
  let b := basin k
  let (lower, upper, side) := neighbours k (decimalExponent k - (n : Int) + 1)
  match b.holds lower && lower.digits ≠ 0, b.holds upper with
  | true, true =>
    match side with
    | .lt => some lower
    | .gt => some upper
    | .eq => some (if lower.digits % 2 = 0 then lower else upper)
  | true, false => some lower
  | false, true => some upper
  | false, false => none

/-- The shortest decimal that rounds to `k` units, for positive `k`. -/
def shortest (k : Nat) : Decimal :=
  ((List.range' 1 17).findSome? (withDigits k)).getD ⟨0, 0⟩

/-- Drop the zeros at the end of a run of digits and count them. -/
def trimZeros (digits : List Char) : List Char × Nat :=
  let kept := (digits.reverse.dropWhile (· = '0')).reverse
  (kept, digits.length - kept.length)

/-- A decimal in positional notation when its leading digit stands between `10 ^ -4` and
`10 ^ 15`, else with an exponent of at least two digits. -/
def Decimal.render (d : Decimal) : String :=
  let (digits, dropped) := trimZeros (Nat.toDigits 10 d.digits)
  let point : Int := digits.length + dropped + d.exponent
  if -4 < point ∧ point ≤ 16 then
    if point ≤ 0 then
      String.ofList ("0.".toList ++ List.replicate (-point).toNat '0' ++ digits)
    else
      let whole := point.toNat
      if digits.length ≤ whole then
        String.ofList (digits ++ List.replicate (whole - digits.length) '0' ++ ".0".toList)
      else String.ofList (digits.take whole ++ '.' :: digits.drop whole)
  else
    let e := point - 1
    let eDigits := Nat.toDigits 10 e.natAbs
    let padded := List.replicate (2 - eDigits.length) '0' ++ eDigits
    let fraction := if digits.length ≤ 1 then [] else '.' :: digits.drop 1
    String.ofList
      (digits.take 1 ++ fraction ++ ['e', if e < 0 then '-' else '+'] ++ padded)

/-- The written form of a number. -/
def render (x : Binary64) : String :=
  if x.isNaN then "nan"
  else
    let sign := if x.isNegative then "-" else ""
    if !x.isFinite then sign ++ "inf"
    else if x.magnitude = 0 then sign ++ "0.0"
    else sign ++ (shortest x.magnitude).render

end Binary64

end GhostEdit
