import GhostEdit.Text.Basic

/-!
# Numeric addresses

A machine can be named by a number: four decimal bytes with dots between them, or eight
hexadecimal groups with colons between them, of which a run of zeros may be left out once. The
latter may end in the former, and a percent sign and a zone may follow.

## Main definitions

* `Address.looksDecimal`: whether a text is meant as the first kind
* `Address.isDecimal`, `Address.isHexadecimal`: whether it is one
-/

namespace GhostEdit

namespace Address

/-- One of the ten plain digits. -/
def isNumeral (c : Char) : Bool := '0' ≤ c && c ≤ '9'

/-! ## Four bytes -/

/-- How far a text has been read as four runs of numerals with one character of any kind between
them: the runs that are complete, and whether the present one has a numeral. -/
structure Reading where
  complete : Nat
  started : Bool
deriving DecidableEq

/-- The ways to go on after one more character. -/
def Reading.next (c : Char) (r : Reading) : List Reading :=
  (if isNumeral c then [⟨r.complete, true⟩] else []) ++
    (if r.started && r.complete < 3 then [⟨r.complete + 1, false⟩] else [])

/-- Whether a text consists of four runs of numerals with one character between them. The
character may be a numeral too. -/
def looksDecimal (t : Text) : Bool :=
  (t.foldl (fun rs c => (rs.flatMap (Reading.next c)).eraseDups) [⟨0, false⟩]).contains ⟨3, true⟩

/-- Whether a text is a byte in decimal without superfluous zeros. -/
def isByte (t : Text) : Bool :=
  !t.isEmpty && t.length ≤ 3 && t.all isNumeral && (t = ['0'] || t.head? ≠ some '0') &&
    t.foldl (fun n c => n * 10 + (c.toNat - '0'.toNat)) 0 ≤ 255

/-- Whether a text is an address of four bytes. -/
def isDecimal (t : Text) : Bool :=
  let bytes := Text.pieces '.' t
  bytes.length = 4 && bytes.all isByte

/-! ## Eight groups -/

/-- A hexadecimal digit. -/
def isHexDigit (c : Char) : Bool :=
  isNumeral c || ('a' ≤ c && c ≤ 'f') || ('A' ≤ c && c ≤ 'F')

/-- Whether a text is a group of one to four digits. -/
def isGroup (t : Text) : Bool := !t.isEmpty && t.length ≤ 4 && t.all isHexDigit

/-- The pieces between colons; an address of four bytes at the end counts as two groups. -/
def groups? (t : Text) : Option (List Text) :=
  let pieces := Text.pieces ':' t
  if pieces.length < 3 then none
  else
    match pieces.getLast? with
    | some last =>
      if !last.contains '.' then some pieces
      else if isDecimal last then some (pieces.dropLast ++ [['0'], ['0']])
      else none
    | none => none

/-- Where a run of zeros is left out: the place of the empty pieces that are not at an end. -/
def gaps (pieces : List Text) : List Nat :=
  (List.range pieces.length).filter fun i =>
    0 < i && i + 1 < pieces.length && (pieces.getD i []).isEmpty

/-- The groups on one side of a gap. The piece at the end, which comes first here, may be empty
only if it is the only one. -/
def side? : List Text → Option (List Text)
  | [] => some []
  | [[]] => some []
  | [] :: _ => none
  | pieces => some pieces

/-- Whether pieces make eight groups. -/
def areGroups (pieces : List Text) : Bool :=
  match gaps pieces with
  | [] => pieces.length = 8 && pieces.all isGroup
  | [i] =>
    match side? (pieces.take i), side? (pieces.drop (i + 1)).reverse with
    | some high, some low =>
      high.length + low.length < 8 && high.all isGroup && low.all isGroup
    | _, _ => false
  | _ => false

/-- Whether a text is an address of eight groups, with a zone or without. -/
def isHexadecimal (t : Text) : Bool :=
  let number := t.takeWhile (· ≠ '%')
  let zoned := match t.drop number.length with
    | [] => true
    | _ :: zone => !zone.isEmpty && !zone.contains '%'
  zoned && !t.contains '/' &&
    match groups? number with
    | some pieces => pieces.length ≤ 9 && areGroups pieces
    | none => false

end Address

end GhostEdit
