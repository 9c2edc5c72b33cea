import GhostEdit.Binary64.Arithmetic
import GhostEdit.Failure

/-!
# Counting and comparing with values

A setting that is used as a number may be an integer, a binary64 number or a truth value, which
counts as one or zero; any other kind is a mismatch. Integers and binary64 numbers are compared
exactly, and an integer takes part in binary64 arithmetic only as long as it has a binary64 number
near it.

## Main definitions

* `Value.rank?`: the place of a number in the order of all numbers
* `Value.compare`: comparing two values
* `Value.positivePart`, `Value.thousandth`, `Value.addTo`: the arithmetic that settings need
* `Value.same`: whether two values are equal
-/

namespace GhostEdit

namespace Value

/-! ## Numbers -/

/-- The integer that a value counts as, if it is an integer or a truth value. -/
def int? : Value → Option Int
  | .int n => some n
  | .bool b => some (if b then 1 else 0)
  | _ => none

/-- The place of a number in the order of all numbers, in units of binary64 numbers; what is no
number of any kind has none. -/
def rank? (v : Value) : Option Int :=
  match v with
  | .float x => x.rank?
  | v => v.int?.map fun n => n * (Binary64.one : Int)

/-- Whether a value is a number of some kind. -/
def isNumeric : Value → Bool
  | .int _ => true
  | .bool _ => true
  | .float _ => true
  | _ => false

/-- Whether a number is infinite, and on which side. An integer is on no side, however large. -/
def side : Value → Int
  | .float x => if x.isFinite || x.isNaN then 0 else if x.isNegative then -1 else 1
  | _ => 0

/-- Compare two numbers: integers as they are, others by the side on which they are infinite and
then by rank. -/
def relate (related : Int → Int → Bool) (v w : Value) : Bool :=
  match v.int?, w.int? with
  | some a, some b => related a b
  | _, _ =>
    match v.rank?, w.rank? with
    | some a, some b => if v.side = w.side then related a b else related v.side w.side
    | _, _ => false

/-- The signs of comparisons. -/
inductive Sign where
  | less
  | greater
  | greaterEq
deriving DecidableEq, Inhabited

namespace Sign

/-- A sign as messages show it. -/
def shown : Sign → String
  | .less => "<"
  | .greater => ">"
  | .greaterEq => ">="

/-- The relation of a sign. -/
def holds : Sign → Int → Int → Bool
  | .less, a, b => a < b
  | .greater, a, b => b < a
  | .greaterEq, a, b => b ≤ a

end Sign

/-- Compare two values that have to be numbers. -/
def compare (sign : Sign) (v w : Value) : Except Failure Bool :=
  if v.isNumeric && w.isNumeric then .ok (relate sign.holds v w)
  else .error (.mismatch (.noOrder sign.shown v.kind w.kind))

/-- A number, or zero in place of one that is not positive. -/
def positivePart (v : Value) : Except Failure Value :=
  (compare .greater v (.int 0)).map fun positive => if positive then v else .int 0

/-- An integer as a binary64 number, as long as there is one near it. -/
def floatOf (n : Int) : Except Failure Binary64 :=
  let x := Binary64.ofInt n
  if x.isFinite then .ok x else .error (.excess .conversion)

/-- A thousandth of a number. -/
def thousandth (v : Value) : Except Failure Binary64 :=
  match v with
  | .float x => .ok (x.fraction 1000)
  | v =>
    let n := v.int?.getD 0
    let x := Binary64.ofRatio (n < 0) n.natAbs 1000
    if x.isFinite then .ok x else .error (.excess .quotient)

/-- A value added to a binary64 number. -/
def addTo (v : Value) (x : Binary64) : Except Failure Binary64 :=
  match v with
  | .float y => .ok (x.add y)
  | v =>
    match v.int? with
    | some n => (floatOf n).map x.add
    | none => .error (.mismatch (.noSum "float" v.kind))

/-! ## Equality -/

/-- Whether two numbers are equal. -/
def sameNumber (v w : Value) : Bool := relate (fun a b => a = b) v w

mutual

/-- Whether two values are equal. Numbers of different kinds are when they are the same number,
and the order of members does not count. -/
def same : Value → Value → Bool
  | .null, .null => true
  | .str a, .str b => a = b
  | .codes a, .codes b => a = b
  | .moment a, .moment b => a = b
  | .arr as, .arr bs => sameElements as bs
  | .obj as, .obj bs => as.length = bs.length && sameMembers as bs
  | v, w => sameNumber v w

/-- Whether two lists have equal elements in the same order. -/
def sameElements : List Value → List Value → Bool
  | [], [] => true
  | a :: as, b :: bs => same a b && sameElements as bs
  | _, _ => false

/-- Whether every member has its like among others. -/
def sameMembers : List (Name × Value) → List (Name × Value) → Bool
  | [], _ => true
  | (name, a) :: rest, others =>
    (match others.lookup name with
      | some b => same a b
      | none => false) && sameMembers rest others

end

end Value

end GhostEdit
