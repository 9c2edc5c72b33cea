import GhostEdit.Text.Blank
import GhostEdit.Text.Digit

/-!
# Integers in text

Two ways to write an integer are in use. The *free* one allows blanks around it, a sign, digits of
any script and single low lines between them. The *tidy* one, of the command line, knows the ten
digits only; it allows blanks around the number, a plus sign, zeros in front, a fraction of zero
and single low lines.

## Main definitions

* `Numeral.free?`, `Numeral.tidy?`: the integer that a text states
-/

namespace GhostEdit

namespace Numeral

/-- The most digits an integer may have. -/
def digitLimit : Nat := 4300

/-! ## The free way -/

/-- The number of digits that may have single low lines between them, where `total` is the value of
those before. -/
def digitsValue? (total : Nat) : Text → Option Nat
  | [] => some total
  | '_' :: c :: rest => if isDigit c then digitsValue? (10 * total + digitValue c) rest else none
  | c :: rest => if isDigit c then digitsValue? (10 * total + digitValue c) rest else none

/-- The number of a text that starts with a digit. -/
def natural? : Text → Option Nat
  | c :: rest => if isDigit c then digitsValue? 0 (c :: rest) else none
  | [] => none

/-- The integer that a text states, between blanks and with a sign or without. -/
def free? (t : Text) : Option Int :=
  let body := t.strip
  if digitLimit < (body.filter isDigit).length then none
  else
    match body with
    | '-' :: rest => (natural? rest).map fun n => -(n : Int)
    | '+' :: rest => (natural? rest).map Int.ofNat
    | rest => (natural? rest).map Int.ofNat

/-! ## The tidy way -/

/-- One of the nine digits that can start a number. -/
def isLeading (c : Char) : Bool := '1' ≤ c && c ≤ '9'

/-- A blank, of which the four separators of records are none. -/
def isSpacing (c : Char) : Bool := isBlank c && !(0x1c ≤ c.toNat && c.toNat ≤ 0x1f)

/-- A text without the blanks at its ends. -/
def trim (t : Text) : Text := Text.dropEndWhile isSpacing (t.dropWhile isSpacing)

/-- The text after zeros, and low lines among them, of which `last` is the last. One zero stays in
front of a point, and at the end of the text. -/
def afterZeros? (last : Char) : Text → Option Text
  | [] => some [last]
  | c :: rest =>
    if c = '0' || c = '_' then afterZeros? c rest
    else if isLeading c then some (c :: rest)
    else if c = '.' then some (last :: c :: rest)
    else none

/-- A number without zeros in front. -/
def dropZeros? : Text → Option Text
  | '0' :: rest => afterZeros? '0' rest
  | c :: rest => if isLeading c || c = '-' then some (c :: rest) else none
  | [] => none

/-- A number without a fraction of zero. -/
def dropFraction (t : Text) : Text :=
  match t.dropWhile (· ≠ '.') with
  | '.' :: zeros => if zeros.all (· = '0') then t.takeWhile (· ≠ '.') else t
  | _ => t

/-- A number without low lines, if each stands alone inside it. -/
def dropLowLines (t : Text) : Text :=
  if t.head? = some '_' || t.getLast? = some '_' || Text.occursIn ['_', '_'] t then t
  else t.filter (· ≠ '_')

/-- The number of plain digits that do not start with a superfluous zero. -/
def plain? (t : Text) : Option Nat :=
  let digits := t.all fun c => '0' ≤ c && c ≤ '9'
  match t with
  | ['0'] => some 0
  | c :: _ =>
    if isLeading c && digits then
      some (t.foldl (fun n d => n * 10 + (d.toNat - '0'.toNat)) 0)
    else none
  | [] => none

/-- A number without the sign, unless there are two. -/
def dropPlus? : Text → Option Text
  | '+' :: '-' :: _ => none
  | '+' :: rest => some rest
  | t => some t

/-- The integer that an argument states. -/
def tidy? (t : Text) : Option Int := do
  let unsigned ← dropPlus? (trim t)
  let significant ← dropZeros? unsigned
  let digits := dropLowLines (dropFraction significant)
  if digitLimit < digits.length then none
  else
    match digits with
    | '-' :: rest => (plain? rest).map fun n => -(n : Int)
    | rest => (plain? rest).map Int.ofNat

end Numeral

end GhostEdit
