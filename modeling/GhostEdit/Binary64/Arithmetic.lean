import GhostEdit.Binary64.Basic

/-!
# Arithmetic of binary64 numbers

A number is taken apart into its sign and its magnitude, or it is infinite, or no number at all.
Finite numbers are added exactly, as counts of units, and the sum is rounded once. Two numbers
are ordered by their *ranks*: the rank of a finite number is its count of units, the infinities
rank at both ends, and what is no number has no rank and compares with nothing.

## Main definitions

* `Binary64.parts`: a number taken apart
* `Binary64.add`, `sub`, `times`, `fraction`: sums, differences, multiples and fractions
* `Binary64.rank?`, with `lt` and `le`: the order
* `Binary64.truncate?`: the integer part of a finite number
-/

namespace GhostEdit

namespace Binary64

/-- What a number is made of. -/
inductive Parts where
  | finite (negative : Bool) (magnitude : Nat)
  | infinite (negative : Bool)
  | nan
deriving DecidableEq, Inhabited

/-- A number taken apart. -/
def parts (x : Binary64) : Parts :=
  if x.isFinite then .finite x.isNegative x.magnitude
  else if x.isNaN then .nan
  else .infinite x.isNegative

/-- The result of an operation that has none, such as the difference of two infinities. -/
def invalid : Binary64 := ⟨0xfff8000000000000⟩

/-- The count of units with a sign. -/
def signed (negative : Bool) (magnitude : Nat) : Int :=
  if negative then -(magnitude : Int) else magnitude

/-- The sum of two finite numbers. A sum of zero is negative only if both numbers are. -/
def addFinite (negX : Bool) (x : Nat) (negY : Bool) (y : Nat) : Binary64 :=
  let total := signed negX x + signed negY y
  if total = 0 then ofMagnitude (negX && negY) 0 else ofUnits total

/-- The sum of two numbers. -/
def add (x y : Binary64) : Binary64 :=
  match x.parts, y.parts with
  | .nan, _ => x
  | _, .nan => y
  | .infinite a, .infinite b => if a = b then x else invalid
  | .infinite _, .finite _ _ => x
  | .finite _ _, .infinite _ => y
  | .finite a m, .finite b n => addFinite a m b n

/-- The number with the other sign. -/
def negate (x : Binary64) : Binary64 :=
  match x.parts with
  | .nan => x
  | .infinite negative => infinity (!negative)
  | .finite negative magnitude => ofMagnitude (!negative) magnitude

/-- The difference of two numbers. -/
def sub (x y : Binary64) : Binary64 := x.add y.negate

/-- A number multiplied by a positive whole number. -/
def times (x : Binary64) (n : Nat) : Binary64 :=
  match x.parts with
  | .finite negative magnitude => ofMagnitude negative (roundRatio (magnitude * n) 1)
  | _ => x

/-- A number divided by a positive whole number. -/
def fraction (x : Binary64) (n : Nat) : Binary64 :=
  match x.parts with
  | .finite negative magnitude => ofMagnitude negative (roundRatio magnitude n)
  | _ => x

/-- The place of a number in the order of all numbers. -/
def rank? (x : Binary64) : Option Int :=
  match x.parts with
  | .finite negative magnitude => some (signed negative magnitude)
  | .infinite negative => some (signed negative overflow)
  | .nan => none

/-- Whether two ranks exist and are in the given relation. -/
def ranked (related : Int → Int → Bool) (x y : Option Int) : Bool :=
  match x, y with
  | some a, some b => related a b
  | _, _ => false

/-- Whether a number is less than another. -/
def lt (x y : Binary64) : Bool := ranked (fun a b => a < b) x.rank? y.rank?

/-- Whether a number is at most another. -/
def le (x y : Binary64) : Bool := ranked (fun a b => a ≤ b) x.rank? y.rank?

/-- The integer part of a finite number, cut off towards zero. -/
def truncate? (x : Binary64) : Option Int := x.units?.map fun k => k.tdiv one

end Binary64

end GhostEdit
