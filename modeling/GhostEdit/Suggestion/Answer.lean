import GhostEdit.Failure
import GhostEdit.Json.Decode
import GhostEdit.Suggestion.Assembly
import GhostEdit.Suggestion.Cleanup

/-!
# Reading an answer

The text of an answer is cleaned, decoded and turned into suggestion sets. A text that cannot be
decoded gets a second chance without the commas that stand before a closing bracket or brace.

## Main definitions

* `Answer.dropTrailingCommas`, `Answer.decode`
* `Answer.parse`, `Answer.parseLog`: the sets of an answer, and what is logged on the way
-/

namespace GhostEdit

namespace Answer

/-- The text without the commas that only blanks part from a closing bracket or brace. -/
def dropTrailingCommas : Text → Text
  | [] => []
  | c :: rest =>
    if c = ',' && (Text.skipBlanks rest).head?.any (fun d => d = ']' || d = '\x7d') then
      dropTrailingCommas rest
    else c :: dropTrailingCommas rest

/-- The failure to decode `text`, told by the flaw of the text that was tried last. -/
def decodeFailure (text tried : Text) (flaw : Json.Flaw) (rest : Text) : Failure :=
  let told := Json.describeFlaw tried flaw rest
  .fault
    { kind := .responseDecode
      message := s!"Error while decoding suggestions: {told}"
      text }

/-- Decode a cleaned text, once as it is and once without trailing commas. -/
def decode (text : Text) : Except Failure Value :=
  match Json.decode text with
  | .ok v => .ok v
  | .error (.oversized digits) => .error (.oversized digits)
  | .error (.flawed _ _) =>
    let repaired := dropTrailingCommas text
    match Json.decode repaired with
    | .ok v => .ok v
    | .error (.oversized digits) => .error (.oversized digits)
    | .error (.flawed flaw rest) => .error (decodeFailure text repaired flaw rest)

/-- The decoded values that state one set each; a flat list of items is one set. -/
def rawSets : List Value → List Value
  | [] => []
  | .arr first :: rest => .arr first :: rest
  | items => [.arr items]

/-- The decoded sets of an answer; an empty text, null and the empty list have none. -/
def rawSetsOf (answer : Text) : Except Failure (List Value) :=
  let text := Cleanup.clean answer
  if text.isEmpty then .ok []
  else
    match decode text with
    | .error e => .error e
    | .ok .null => .ok []
    | .ok (.arr items) => .ok (rawSets items)
    | .ok _ =>
      .error (.fault
        { kind := .responseDecode, message := "Expected a JSON array of suggestions", text })

/-- The suggestion sets of an answer for a buffer with the given rows. -/
def parse (answer : Text) (current : List Text) : Except Failure (List SuggestionSet) :=
  match rawSetsOf answer with
  | .error e => .error e
  | .ok raws => .ok ((raws.map fun raw => Assembly.build raw current).filter (!·.isEmpty))

/-- What is logged while an answer is read. -/
def parseLog (answer : Text) (current : List Text) : List Record :=
  match rawSetsOf answer with
  | .error _ => []
  | .ok [] => [⟨.info, .answers, "No suggestions found"⟩]
  | .ok raws => raws.flatMap fun raw => Assembly.buildLog raw current

end Answer

end GhostEdit
