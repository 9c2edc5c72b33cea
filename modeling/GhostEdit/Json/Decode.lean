import GhostEdit.Value.Basic

/-!
# Reading JSON

The reader works on the remaining text and stops at the first flaw, which it reports by the text
that was left there; the position is the difference in length. Besides the standard it reads
`NaN`, `Infinity` and `-Infinity`. An integer of more than 4300 digits is refused, and that is
not a flaw of the text.

## Main definitions

* `Json.Flaw`, `Json.Failure`: what can be wrong
* `Json.decode`: the value of a whole text
* `Json.Failure.position`, `Json.describeFlaw`: where it is wrong, and how that is told
-/

namespace GhostEdit

namespace Json

/-- What can be wrong with a text. -/
inductive Flaw where
  | value
  | name
  | colon
  | comma
  | unterminated
  | control
  | escape
  | codeEscape
  | extra
  | byteOrderMark
deriving DecidableEq

/-- Why no value was read. -/
inductive Failure where
  /-- The text has a flaw, at the start of `rest`. -/
  | flawed (flaw : Flaw) (rest : Text)
  /-- An integer has too many digits. -/
  | oversized (digits : Nat)

/-- The outcome of a reader: a result and the text after it. -/
abbrev Reading (α : Type) := Except Failure (α × Text)

/-- Whether a character may stand between tokens. -/
def isSpace (c : Char) : Bool := c = ' ' || c = '\t' || c = '\n' || c = '\r'

/-- The text without leading space. -/
def skipSpace (t : Text) : Text := t.dropWhile isSpace

/-! ## Strings -/

/-- A character of a string as written: itself, or by the number of a sixteen-bit code. -/
inductive Glyph where
  | char (c : Char)
  | code (n : Nat)

/-- Where the reader of a string stands. -/
inductive StringMode where
  /-- Between characters. -/
  | plain
  /-- After a backslash, which starts `mark`. -/
  | escaped (mark : Text)
  /-- Inside a numbered code that still needs `left + 1` digits; its letter starts `mark`. -/
  | code (left acc : Nat) (mark : Text)

/-- The value of a hexadecimal digit. -/
def hexDigit? (c : Char) : Option Nat :=
  if '0' ≤ c ∧ c ≤ '9' then some (c.toNat - '0'.toNat)
  else if 'a' ≤ c ∧ c ≤ 'f' then some (c.toNat - 'a'.toNat + 10)
  else if 'A' ≤ c ∧ c ≤ 'F' then some (c.toNat - 'A'.toNat + 10)
  else none

/-- The character that a backslash and a letter stand for. -/
def escapeOf? : Char → Option Char
  | '"' => some '"'
  | '\\' => some '\\'
  | '/' => some '/'
  | 'b' => some '\x08'
  | 'f' => some '\x0c'
  | 'n' => some '\n'
  | 'r' => some '\r'
  | 't' => some '\t'
  | _ => none

/-- Read the characters of a string up to its closing quote. `opening` is the text from the
opening quote on. -/
def readGlyphs (opening : Text) : StringMode → Text → Reading (List Glyph)
  | .code _ _ mark, [] => .error (.flawed .codeEscape mark)
  | _, [] => .error (.flawed .unterminated opening)
  | .plain, c :: rest =>
    if c = '"' then .ok ([], rest)
    else if c = '\\' then readGlyphs opening (.escaped (c :: rest)) rest
    else if c.toNat < 32 then .error (.flawed .control (c :: rest))
    else (readGlyphs opening .plain rest).map fun (gs, after) => (.char c :: gs, after)
  | .escaped mark, c :: rest =>
    if c = 'u' then readGlyphs opening (.code 3 0 (c :: rest)) rest
    else
      match escapeOf? c with
      | some e => (readGlyphs opening .plain rest).map fun (gs, after) => (.char e :: gs, after)
      | none => .error (.flawed .escape mark)
  | .code left acc mark, c :: rest =>
    match hexDigit? c with
    | none => .error (.flawed .codeEscape mark)
    | some d =>
      match left with
      | more + 1 => readGlyphs opening (.code more (acc * 16 + d) mark) rest
      | 0 =>
        if rest.isEmpty then .error (.flawed .codeEscape mark)
        else
          (readGlyphs opening .plain rest).map fun (gs, after) =>
            (.code (acc * 16 + d) :: gs, after)

/-- The first half of a pair of codes. -/
def isHighHalf (n : Nat) : Bool := 0xd800 ≤ n && n < 0xdc00

/-- The second half of a pair of codes. -/
def isLowHalf (n : Nat) : Bool := 0xdc00 ≤ n && n < 0xe000

/-- The code points of characters as written, where two halves in a row make one. -/
def assemble : List Glyph → List Nat
  | [] => []
  | .char c :: rest => c.toNat :: assemble rest
  | .code hi :: .code lo :: rest =>
    if isHighHalf hi && isLowHalf lo then
      (0x10000 + (hi - 0xd800) * 0x400 + (lo - 0xdc00)) :: assemble rest
    else hi :: assemble (.code lo :: rest)
  | .code n :: rest => n :: assemble rest

/-- The string of code points: a text, unless a half has no partner. -/
def stringOf (points : List Nat) : Name :=
  if points.any fun n => isHighHalf n || isLowHalf n then .codes points
  else .text (points.map Char.ofNat)

/-- Read a string whose opening quote is behind; `opening` is the text from that quote on. -/
def readString (opening t : Text) : Reading Name :=
  (readGlyphs opening .plain t).map fun (gs, rest) => (stringOf (assemble gs), rest)

/-! ## Numbers -/

/-- Whether a character is one of the ten digits. -/
def isNumeral (c : Char) : Bool := '0' ≤ c && c ≤ '9'

/-- The number a run of digits stands for. -/
def ofNumerals (ds : Text) : Nat := ds.foldl (fun n d => n * 10 + (d.toNat - '0'.toNat)) 0

/-- The digits before the point: a lone zero, or digits that do not start with one. -/
def wholePart? : Text → Option (Text × Text)
  | '0' :: rest => some (['0'], rest)
  | c :: rest =>
    if isNumeral c then some ((c :: rest).takeWhile isNumeral, (c :: rest).dropWhile isNumeral)
    else none
  | [] => none

/-- The digits after the point; none if the point has no digit after it. -/
def fractionPart : Text → Text × Text
  | '.' :: rest =>
    if (rest.takeWhile isNumeral).isEmpty then ([], '.' :: rest)
    else (rest.takeWhile isNumeral, rest.dropWhile isNumeral)
  | t => ([], t)

/-- The power of ten after the mark of an exponent, if there is one with digits. -/
def exponentPart? (t : Text) : Option (Int × Text) :=
  match t with
  | c :: rest =>
    if c = 'e' || c = 'E' then
      let (negative, digits) := match rest with
        | '-' :: r => (true, r)
        | '+' :: r => (false, r)
        | r => (false, r)
      let ds := digits.takeWhile isNumeral
      if ds.isEmpty then none
      else
        let n : Int := ofNumerals ds
        some (if negative then -n else n, digits.dropWhile isNumeral)
    else none
  | [] => none

/-- The most digits an integer may have. -/
def digitLimit : Nat := 4300

/-- Read a number. Without a fraction and an exponent it is an integer. -/
def readNumber (start : Text) : Reading Value :=
  let (negative, t) := match start with
    | '-' :: r => (true, r)
    | r => (false, r)
  match wholePart? t with
  | none => .error (.flawed .value start)
  | some (whole, t) =>
    let (fraction, t) := fractionPart t
    match fraction.isEmpty, exponentPart? t with
    | true, none =>
      if digitLimit < whole.length then .error (.oversized whole.length)
      else
        let n : Int := ofNumerals whole
        .ok (.int (if negative then -n else n), t)
    | _, power =>
      let (e, t) := power.getD (0, t)
      let m := ofNumerals (whole ++ fraction)
      .ok (.float (Binary64.ofDecimal negative m (e - fraction.length)), t)

/-! ## Values -/

/-- The fixed words and what they stand for. -/
def words : List (String × Value) :=
  [("null", .null), ("true", .bool true), ("false", .bool false), ("NaN", .float Binary64.nan),
   ("Infinity", .float (Binary64.infinity false)),
   ("-Infinity", .float (Binary64.infinity true))]

/-- Read one of the fixed words. -/
def readWord? (t : Text) : Option (Value × Text) :=
  words.findSome? fun (word, v) => (Text.dropStart? word.toList t).map fun rest => (v, rest)

mutual

/-- Read a value. The first argument bounds the number of steps; twice the length of the text is
enough, as every two steps take at least one character. -/
def readValue : Nat → Text → Reading Value
  | 0, t => .error (.flawed .value t)
  | fuel + 1, t =>
    match t with
    | '"' :: rest => (readString t rest).map fun (s, after) => (s.toValue, after)
    | '{' :: rest =>
      match skipSpace rest with
      | '}' :: after => .ok (.obj [], after)
      | inner => readMembers fuel [] inner
    | '[' :: rest =>
      match skipSpace rest with
      | ']' :: after => .ok (.arr [], after)
      | inner => readElements fuel [] inner
    | _ =>
      match readWord? t with
      | some result => .ok result
      | none => readNumber t

/-- Read the members of an object up to its closing brace, after those in `done`. -/
def readMembers : Nat → Value.Members → Text → Except Failure (Value × Text)
  | 0, _, t => .error (.flawed .name t)
  | fuel + 1, done, t =>
    match t with
    | '"' :: rest => do
      let (name, afterName) ← readString t rest
      match skipSpace afterName with
      | ':' :: afterColon => do
        let (v, afterValue) ← readValue fuel (skipSpace afterColon)
        match skipSpace afterValue with
        | '}' :: after => .ok (.obj (Value.setMember name v done), after)
        | ',' :: after => readMembers fuel (Value.setMember name v done) (skipSpace after)
        | other => .error (.flawed .comma other)
      | other => .error (.flawed .colon other)
    | _ => .error (.flawed .name t)

/-- Read the elements of an array up to its closing bracket, after those in `done`, which stand
in reverse. -/
def readElements : Nat → List Value → Text → Except Failure (Value × Text)
  | 0, _, t => .error (.flawed .value t)
  | fuel + 1, done, t => do
    let (v, afterValue) ← readValue fuel t
    match skipSpace afterValue with
    | ']' :: after => .ok (.arr (v :: done).reverse, after)
    | ',' :: after => readElements fuel (v :: done) (skipSpace after)
    | other => .error (.flawed .comma other)

end

/-- The value of a text that holds nothing else but space. -/
def decode (t : Text) : Except Failure Value :=
  match t with
  | '\ufeff' :: _ => .error (.flawed .byteOrderMark t)
  | _ => do
    let (v, rest) ← readValue (2 * t.length + 2) (skipSpace t)
    match skipSpace rest with
    | [] => .ok v
    | extra => .error (.flawed .extra extra)

/-! ## Telling what is wrong -/

/-- The words for a flaw. -/
def Flaw.message : Flaw → String
  | .value => "Expecting value"
  | .name => "Expecting property name enclosed in double quotes"
  | .colon => "Expecting ':' delimiter"
  | .comma => "Expecting ',' delimiter"
  | .unterminated => "Unterminated string starting at"
  | .control => "Invalid control character at"
  | .escape => "Invalid \\escape"
  | .codeEscape => "Invalid \\uXXXX escape"
  | .extra => "Extra data"
  | .byteOrderMark => "Unexpected UTF-8 BOM (decode using utf-8-sig)"

/-- The line and the column of a position, both counted from one. -/
def lineColumn (t : Text) (position : Nat) : Nat × Nat :=
  let before := t.take position
  (1 + before.count '\n', 1 + (before.reverse.takeWhile (· ≠ '\n')).length)

/-- A flaw of `t` at the start of `rest`, with line, column and position. -/
def describeFlaw (t : Text) (flaw : Flaw) (rest : Text) : String :=
  let position := t.length - rest.length
  let (line, column) := lineColumn t position
  s!"{flaw.message}: line {line} column {column} (char {position})"

end Json

end GhostEdit
