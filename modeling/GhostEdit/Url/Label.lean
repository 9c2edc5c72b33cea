import GhostEdit.Url.Composition
import GhostEdit.Url.Direction
import GhostEdit.Url.Joining
import GhostEdit.Url.Letter
import GhostEdit.Url.Punycode
import GhostEdit.Url.Script

/-!
# Labels and names

The name of a machine consists of labels with dots between them. A label may have letters of any
script, under rules that keep names apart that look alike; on the wire it has plain ones only.

## Main definitions

* `Label.isValid`: the rules
* `Label.encode?`: a label as it goes over the wire
* `Domain.encode?`: a name as it goes over the wire
-/

namespace GhostEdit

namespace Label

/-! ## The rules -/

/-- Whether a character that is no letter may stand between `before`, which is in reverse, and
`after`. -/
def fits (label before : Text) (c : Char) (after : Text) : Bool :=
  let last (p : Char → Bool) := before.head?.any p
  let next (p : Char → Bool) := after.head?.any p
  match c.toNat with
  | 0xb7 => last (· = 'l') && next (· = 'l')
  | 0x375 => next Script.isGreek
  | 0x5f3 => last Script.isHebrew
  | 0x5f4 => last Script.isHebrew
  | 0x200c => Joining.mayPart before after
  | 0x200d => Joining.mayJoin before
  | 0x30fb => label.any Script.isJapanese
  | n =>
    if 0x660 ≤ n && n ≤ 0x669 then !label.any fun d => 0x6f0 ≤ d.toNat && d.toNat ≤ 0x6f9
    else if 0x6f0 ≤ n && n ≤ 0x6f9 then !label.any fun d => 0x660 ≤ d.toNat && d.toNat ≤ 0x669
    else false

/-- Whether each character after `before` is a letter or fits its place. -/
def allFit (label before : Text) : Text → Bool
  | [] => true
  | c :: rest => (isLetter c || fits label before c rest) && allFit label (c :: before) rest

/-- Whether the hyphens of a label are inside it and not in both the third and fourth place. -/
def hyphensFit (label : Text) : Bool :=
  (label.drop 2).take 2 ≠ ['-', '-'] && label.head? ≠ some '-' && label.getLast? ≠ some '-'

/-- Whether a label keeps the rules. -/
def isValid (label : Text) : Bool :=
  !label.isEmpty && label.length ≤ 254 && hyphensFit label &&
    !label.head?.any Mark.isMark && allFit label [] label &&
    Composition.isComposed label && Direction.isOrderly label

/-! ## On the wire -/

/-- The start of a label that stands for one with other letters. -/
def wireStart : Text := "xn--".toList

/-- The most characters of a label on the wire. -/
def sizeLimit : Nat := 63

/-- The text of code points, unless one is no character. -/
def ofCodes? (codes : List Nat) : Option Text :=
  codes.mapM fun n => if h : n.isValidChar then some (Char.ofNatAux n h) else none

/-- Whether a label of plain letters keeps the rules: the one it stands for counts. -/
def isValidPlain (label : Text) : Bool :=
  match Text.dropStart? wireStart label with
  | none => isValid label
  | some form =>
    form.getLast? ≠ some '-' && ((Punycode.decode? form).bind ofCodes?).any isValid

/-- A label in small letters as it goes over the wire. -/
def encode? (label : Text) : Option Text :=
  let plain := label.all Punycode.isPlain
  let wire := if plain then label else wireStart ++ Punycode.encode label
  let valid := if plain then isValidPlain label else isValid label
  if valid && wire.length ≤ sizeLimit then some wire else none

end Label

namespace Domain

/-- The dots of several scripts. -/
def isDot (c : Char) : Bool := c = '.' || c = '。' || c = '．' || c = '｡'

/-- The most characters of a name, its last dot apart. -/
def sizeLimit : Nat := 253

/-- A name in small letters as it goes over the wire. It may end in a dot. -/
def encode? (name : Text) : Option Text := do
  let labels := Text.pieces '.' (name.map fun c => if isDot c then '.' else c)
  let dotted := labels.getLast? = some []
  let wire ← (if dotted then labels.dropLast else labels).mapM Label.encode?
  let full := Text.join ['.'] wire
  if name.length ≤ sizeLimit + 1 && !wire.isEmpty && full.length ≤ sizeLimit then
    some (if dotted then full ++ ['.'] else full)
  else none

end Domain

end GhostEdit
