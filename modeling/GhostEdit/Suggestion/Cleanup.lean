import GhostEdit.Text.Blank
import GhostEdit.Text.Word

/-!
# Cutting the answer out of its wrapping

A model is asked for a bare array, but wraps it: reasoning between tags, a block of suggestions,
a fenced code block, words before and after. `Cleanup.clean` takes these off one after the other
and then keeps what stands between the first opening and the last closing bracket.

## Main definitions

* `Cleanup.dropReasoning`: remove everything between a reasoning tag and its partner
* `Cleanup.suggestionBlock`: the inside of the first block of suggestions
* `Cleanup.dropFenceStart`, `dropFenceEnd`: the lines of a fenced code block
* `Cleanup.outerArray`: from the first opening to the last closing bracket
* `Cleanup.clean`: all of these in order
-/

namespace GhostEdit

namespace Cleanup

/-! ## Reasoning tags

Tag names are read without regard to case. A letter of a name also stands for its look-alikes
with the same case folding; a closing tag must repeat the opening one up to plain lower case. -/

/-- The lower case of a character that can occur in a tag. -/
def foldTag (c : Char) : Char :=
  if c = '\u212a' then 'k' else if c = '\u0130' then 'i' else c.toLower

/-- Whether a character may stand for a letter of a tag name. -/
def matchesLetter (letter c : Char) : Bool :=
  foldTag c = letter || (letter = 'i' && c = '\u0131') || (letter = 's' && c = '\u017f')

/-- The names of reasoning tags, in the order in which they are tried. -/
def tagNames : List String := ["think", "thinking", "reasoning"]

/-- Read a name letter by letter; the result is the name as it stands in the text. -/
def readName? : List Char → Text → Option (Text × Text)
  | [], t => some ([], t)
  | _ :: _, [] => none
  | letter :: more, c :: rest =>
    if matchesLetter letter c then
      (readName? more rest).map fun (name, after) => (c :: name, after)
    else none

/-- Read an opening tag; the result is the name as it stands in the text. -/
def openingTag? : Text → Option (Text × Text)
  | '<' :: rest =>
    tagNames.findSome? fun name =>
      match readName? name.toList rest with
      | some (found, '>' :: after) => some (found, after)
      | _ => none
  | _ => none

/-- Read the letters of a name again, up to lower case. -/
def repeatName? : Text → Text → Option Text
  | [], t => some t
  | _ :: _, [] => none
  | n :: more, c :: rest => if foldTag c = foldTag n then repeatName? more rest else none

/-- What follows the tag that closes `name`, if the text starts with it. -/
def closingTag? (name : Text) : Text → Option Text
  | '<' :: '/' :: rest =>
    match repeatName? name rest with
    | some ('>' :: after) => some after
    | _ => none
  | _ => none

/-- What follows the first tag that closes `name`. -/
def afterClosing? (name : Text) : Text → Option Text
  | [] => none
  | c :: rest =>
    match closingTag? name (c :: rest) with
    | some after => some after
    | none => afterClosing? name rest

/-- What follows a whole reasoning block, if the text starts with one. -/
def afterReasoning? (t : Text) : Option Text :=
  match openingTag? t with
  | some (name, inside) => afterClosing? name inside
  | none => none

/-- Remove reasoning blocks; the first argument bounds the number of steps. -/
def dropReasoningWithin : Nat → Text → Text
  | 0, t => t
  | _ + 1, [] => []
  | fuel + 1, c :: rest =>
    match afterReasoning? (c :: rest) with
    | some after => dropReasoningWithin fuel after
    | none => c :: dropReasoningWithin fuel rest

/-- The text without its reasoning blocks. -/
def dropReasoning (t : Text) : Text := dropReasoningWithin t.length t

/-! ## Blocks and fences -/

/-- The inside of the first block of suggestions without blanks at its ends, if there is one. -/
def suggestionBlock? (t : Text) : Option Text := do
  let (_, inside) ← Text.cutAt? "<suggestions>".toList t
  let (body, _) ← Text.cutAt? "</suggestions>".toList inside
  pure body.strip

/-- The inside of the first block of suggestions, or the text as it is. -/
def suggestionBlock (t : Text) : Text := (suggestionBlock? t).getD t

/-- Whether a character can stand in the language tag of a fence. -/
def isFenceTag (c : Char) : Bool := isWord c || c = '+' || c = '-'

/-- What follows the line that opens a fenced block, if the text starts with it, blanks aside. -/
def afterFenceStart? (t : Text) : Option Text := do
  let inside ← Text.dropStart? ['\x60', '\x60', '\x60'] t.skipBlanks
  match (inside.dropWhile isFenceTag).dropWhile fun c => c = ' ' || c = '\t' with
  | '\n' :: after => some after
  | _ => none

/-- Remove the first line that opens a fenced block. The flag tells whether the text starts a
line. -/
def dropFenceStartFrom : Bool → Text → Text
  | _, [] => []
  | atLineStart, c :: rest =>
    match if atLineStart then afterFenceStart? (c :: rest) else none with
    | some after => after
    | none => c :: dropFenceStartFrom (c = '\n') rest

/-- The text without the first line that opens a fenced block. -/
def dropFenceStart (t : Text) : Text := dropFenceStartFrom true t

/-- Whether the text is a fence, possibly at the start of a new line, and then only blanks. -/
def isFenceEnd (t : Text) : Bool :=
  let fence := match t with
    | '\n' :: rest => rest
    | _ => t
  match Text.dropStart? ['\x60', '\x60', '\x60'] fence with
  | some after => after.all isBlank
  | none => false

/-- The text without a fence at its end. -/
def dropFenceEnd : Text → Text
  | [] => []
  | c :: rest => if isFenceEnd (c :: rest) then [] else c :: dropFenceEnd rest

/-! ## The array -/

/-- The text up to and including its last closing bracket, if it has one. -/
def upToLastBracket? (t : Text) : Option Text :=
  match t.reverse.dropWhile (· ≠ ']') with
  | [] => none
  | kept => some kept.reverse

/-- From the first opening to the last closing bracket; without such a stretch, the text without
blanks at its ends. -/
def outerArray (t : Text) : Text :=
  match t.dropWhile (· ≠ '[') with
  | [] => t.strip
  | inside => (upToLastBracket? inside).getD t.strip

/-- The array of an answer without its wrapping. -/
def clean (t : Text) : Text :=
  outerArray (dropFenceEnd (dropFenceStart (suggestionBlock (dropReasoning t))))

end Cleanup

end GhostEdit
