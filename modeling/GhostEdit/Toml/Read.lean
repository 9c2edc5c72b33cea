import GhostEdit.Json.Decode

/-!
# Reading TOML

A document is a list of statements: key and value, the head of a table, the head of a table in an
array. Tables are entered by dotted keys. A namespace that was written inline is closed for good,
one that was opened by a head or by the dotted keys of an earlier section cannot be opened by a
head again, and no value is ever written twice.

What is wrong with a document does not matter to anyone here, so a reader just gives no result.

## Main definitions

* `Toml.read?`: the members of the top table
-/

namespace GhostEdit

namespace Toml

/-- A dotted key. -/
abbrev Key := List Text

/-- The members of a table. -/
abbrev Members := Value.Members

/-! ## Characters and space -/

/-- A control character other than the tab. -/
def isControl (c : Char) : Bool := (c.toNat < 32 && c ≠ '\t') || c.toNat = 127

/-- A control character that a string of several lines may not hold. -/
def isLineControl (c : Char) : Bool := isControl c && c ≠ '\n'

/-- A character of a key without quotes. -/
def isBare (c : Char) : Bool := c.isAlphanum || c = '-' || c = '_'

/-- Skip blanks and tabs. -/
def skipBlank (t : Text) : Text := t.dropWhile fun c => c = ' ' || c = '\t'

/-- Skip a comment up to the end of its line; it must not hold control characters. -/
def skipComment? (t : Text) : Option Text :=
  match t with
  | '#' :: rest =>
    if (rest.takeWhile (· ≠ '\n')).any isControl then none else some (rest.dropWhile (· ≠ '\n'))
  | _ => some t

/-- Skip space, line ends and comments; the first argument bounds the number of comments. -/
def skipLines? : Nat → Text → Option Text
  | 0, t => some t
  | fuel + 1, t =>
    match t.dropWhile fun c => c = ' ' || c = '\t' || c = '\n' with
    | '#' :: rest => (skipComment? ('#' :: rest)).bind (skipLines? fuel)
    | other => some other

/-! ## Strings -/

/-- The number of exactly `n` hexadecimal digits at the start of a text. -/
def hexNumber? : Nat → Nat → Text → Option (Nat × Text)
  | 0, acc, t => some (acc, t)
  | _ + 1, _, [] => none
  | n + 1, acc, c :: rest => (Json.hexDigit? c).bind fun d => hexNumber? n (acc * 16 + d) rest

/-- The character with a code, unless the code is half of a pair or too large. -/
def scalar? (n : Nat) : Option Char :=
  if n < 0xd800 ∨ (0xe000 ≤ n ∧ n ≤ 0x10ffff) then some (Char.ofNat n) else none

/-- The character after a backslash, and the text after it. -/
def escape? : Text → Option (Char × Text)
  | 'b' :: rest => some ('\x08', rest)
  | 't' :: rest => some ('\t', rest)
  | 'n' :: rest => some ('\n', rest)
  | 'f' :: rest => some ('\x0c', rest)
  | 'r' :: rest => some ('\r', rest)
  | '"' :: rest => some ('"', rest)
  | '\\' :: rest => some ('\\', rest)
  | 'u' :: rest => do
    let (n, after) ← hexNumber? 4 0 rest
    pure (← scalar? n, after)
  | 'U' :: rest => do
    let (n, after) ← hexNumber? 8 0 rest
    pure (← scalar? n, after)
  | _ => none

/-- The rest of a basic string on one line; the first argument bounds the number of steps. -/
def basicString? : Nat → Text → Option (Text × Text)
  | 0, _ => none
  | _ + 1, [] => none
  | fuel + 1, c :: rest =>
    if c = '"' then some ([], rest)
    else if c = '\\' then do
      let (e, after) ← escape? rest
      let (more, final) ← basicString? fuel after
      pure (e :: more, final)
    else if isControl c then none
    else do
      let (more, final) ← basicString? fuel rest
      pure (c :: more, final)

/-- What follows a backslash at the end of a line: blanks, a line end and all space after it. At
the end of the document the line end may be missing. -/
def foldLine? (t : Text) : Option Text :=
  match skipBlank t with
  | [] => some []
  | '\n' :: rest => some (rest.dropWhile fun c => c = ' ' || c = '\t' || c = '\n')
  | _ => none

/-- Up to two quotes that stand directly before the closing three belong to the string. -/
def extraQuotes (quote : Char) : Text → Text × Text
  | a :: b :: rest =>
    if a ≠ quote then ([], a :: b :: rest)
    else if b = quote then ([a, b], rest)
    else ([a], b :: rest)
  | [a] => if a = quote then ([a], []) else ([], [a])
  | [] => ([], [])

/-- The rest of a basic string of several lines. -/
def basicLines? : Nat → Text → Option (Text × Text)
  | 0, _ => none
  | _ + 1, [] => none
  | fuel + 1, c :: rest =>
    if c = '"' then
      match rest with
      | '"' :: '"' :: after => some (extraQuotes '"' after)
      | _ => do
        let (more, final) ← basicLines? fuel rest
        pure (c :: more, final)
    else if c = '\\' then
      if (rest.head?).any fun d => d = ' ' || d = '\t' || d = '\n' then
        (foldLine? rest).bind (basicLines? fuel)
      else do
        let (e, after) ← escape? rest
        let (more, final) ← basicLines? fuel after
        pure (e :: more, final)
    else if isLineControl c then none
    else do
      let (more, final) ← basicLines? fuel rest
      pure (c :: more, final)

/-- The rest of a literal string on one line. -/
def literalString? (t : Text) : Option (Text × Text) :=
  match t.dropWhile (· ≠ '\'') with
  | _ :: after =>
    let body := t.takeWhile (· ≠ '\'')
    if body.any isControl then none else some (body, after)
  | [] => none

/-- The rest of a literal string of several lines. -/
def literalLines? (t : Text) : Option (Text × Text) := do
  let (body, after) ← Text.cutAt? ['\'', '\'', '\''] t
  if body.any isLineControl then none
  else
    let (extra, final) := extraQuotes '\'' after
    pure (body ++ extra, final)

/-- A line end directly after the opening of a string of several lines does not count. -/
def dropLineEnd : Text → Text
  | '\n' :: rest => rest
  | t => t

/-! ## Keys -/

/-- One part of a key. -/
def keyPart? (t : Text) : Option (Text × Text) :=
  match t with
  | '"' :: rest => basicString? (rest.length + 1) rest
  | '\'' :: rest => literalString? rest
  | c :: _ => if isBare c then some (t.takeWhile isBare, t.dropWhile isBare) else none
  | [] => none

/-- A dotted key and the text after it and its blanks. -/
def key? : Nat → Text → Option (Key × Text)
  | 0, _ => none
  | fuel + 1, t => do
    let (part, after) ← keyPart? t
    match skipBlank after with
    | '.' :: rest =>
      let (more, final) ← key? fuel (skipBlank rest)
      pure (part :: more, final)
    | other => pure ([part], other)

/-! ## Numbers, dates and times -/

/-- Digits that satisfy `p`, with single low lines between them; the result has none of those. -/
def digitRun (p : Char → Bool) : Text → Text × Text
  | [] => ([], [])
  | '_' :: c :: rest =>
    if p c then let (ds, after) := digitRun p rest; (c :: ds, after) else ([], '_' :: c :: rest)
  | c :: rest =>
    if p c then let (ds, after) := digitRun p rest; (c :: ds, after) else ([], c :: rest)

/-- A run of digits that starts with a digit. -/
def digits? (p : Char → Bool) (t : Text) : Option (Text × Text) :=
  match t with
  | c :: _ => if p c then some (digitRun p t) else none
  | [] => none

/-- An integer in another base, after its mark. -/
def basedInt? (base : Nat) (t : Text) : Option (Value × Text) := do
  let (ds, after) ← digits? (fun c => (Json.hexDigit? c).any (· < base)) t
  let n := ds.foldl (fun n c => n * base + (Json.hexDigit? c).getD 0) 0
  pure (.int n, after)

/-- The digits before the point: a lone zero, or digits that do not start with one. -/
def wholePart? (t : Text) : Option (Text × Text) :=
  match t with
  | '0' :: rest => some (['0'], rest)
  | _ => digits? Json.isNumeral t

/-- The digits after a point. -/
def fractionPart? : Text → Option (Text × Text)
  | '.' :: rest => digits? Json.isNumeral rest
  | _ => none

/-- The power of ten after the mark of an exponent. -/
def exponentPart? : Text → Option (Int × Text)
  | c :: rest =>
    if c = 'e' || c = 'E' then
      let (negative, t) := match rest with
        | '-' :: r => (true, r)
        | '+' :: r => (false, r)
        | r => (false, r)
      (digits? Json.isNumeral t).map fun (ds, after) =>
        let n : Int := Json.ofNumerals ds
        (if negative then -n else n, after)
    else none
  | [] => none

/-- A decimal integer or a number with a fraction or an exponent. -/
def decimal? (t : Text) : Option (Value × Text) := do
  let (negative, unsigned) := match t with
    | '-' :: r => (true, r)
    | '+' :: r => (false, r)
    | r => (false, r)
  let (whole, afterWhole) ← wholePart? unsigned
  let fraction := fractionPart? afterWhole
  let afterFraction := (fraction.map (·.2)).getD afterWhole
  let power := exponentPart? afterFraction
  let final := (power.map (·.2)).getD afterFraction
  if fraction.isNone && power.isNone then
    if Json.digitLimit < whole.length then none
    else
      let n : Int := Json.ofNumerals whole
      pure (.int (if negative then -n else n), final)
  else
    let places := (fraction.map (·.1)).getD []
    let e := (power.map (·.1)).getD 0
    let digits := Json.ofNumerals (whole ++ places)
    pure (.float (Binary64.ofDecimal negative digits (e - places.length)), final)

/-- A number without a name. -/
def number? (t : Text) : Option (Value × Text) :=
  let based := match t with
    | '0' :: 'x' :: rest => basedInt? 16 rest
    | '0' :: 'b' :: rest => basedInt? 2 rest
    | '0' :: 'o' :: rest => basedInt? 8 rest
    | _ => none
  based <|> decimal? t

/-- The numbers that have a name. -/
def namedNumber? (t : Text) : Option (Value × Text) :=
  [("inf", Binary64.infinity false), ("+inf", Binary64.infinity false),
   ("-inf", Binary64.infinity true), ("nan", Binary64.nan), ("+nan", Binary64.nan),
   ("-nan", ⟨0xfff8000000000000⟩)].findSome? fun (word, x) =>
    (Text.dropStart? word.toList t).map fun rest => (.float x, rest)

/-- Exactly `n` digits at the start of a text. -/
def fixedDigits? : Nat → Text → Option (Text × Text)
  | 0, t => some ([], t)
  | _ + 1, [] => none
  | n + 1, c :: rest =>
    if Json.isNumeral c then (fixedDigits? n rest).map fun (ds, after) => (c :: ds, after) else none

/-- A number of two digits up to a bound. -/
def twoDigits? (bound : Nat) (t : Text) : Option (Nat × Text) := do
  let (ds, after) ← fixedDigits? 2 t
  let n := Json.ofNumerals ds
  if n ≤ bound then pure (n, after) else none

/-- The text after an expected character. -/
def expect? (c : Char) : Text → Option Text
  | d :: rest => if d = c then some rest else none
  | [] => none

/-- The microseconds of a fraction of a second: digits after the sixth do not count. -/
def microsOf (digits : Text) : Nat :=
  let kept := digits.take 6
  Json.ofNumerals (kept ++ List.replicate (6 - kept.length) '0')

/-- A time of day and the text after it. -/
def time? (t : Text) : Option (DayTime × Text) := do
  let (hour, t) ← twoDigits? 23 t
  let t ← expect? ':' t
  let (minute, t) ← twoDigits? 59 t
  let t ← expect? ':' t
  let (second, t) ← twoDigits? 59 t
  let whole : DayTime := { hour, minute, second, micros := 0 }
  match t with
  | '.' :: rest =>
    let digits := rest.takeWhile Json.isNumeral
    if digits.isEmpty then pure (whole, t)
    else pure ({ whole with micros := microsOf digits }, rest.dropWhile Json.isNumeral)
  | _ => pure (whole, t)

/-- An offset from universal time in minutes, if there is one, and the text after it. -/
def offset (t : Text) : Option Int × Text :=
  match t with
  | c :: rest =>
    if c = 'Z' || c = 'z' then (some 0, rest)
    else if c = '+' || c = '-' then
      let found := do
        let (hours, r) ← twoDigits? 23 rest
        let r ← expect? ':' r
        let (minutes, r) ← twoDigits? 59 r
        let total : Int := hours * 60 + minutes
        pure (some (if c = '-' then -total else total), r)
      found.getD (none, t)
    else (none, t)
  | [] => (none, t)

/-- The days of a month. -/
def daysIn (year month : Nat) : Nat :=
  if month = 2 then
    if year % 4 = 0 ∧ (year % 100 ≠ 0 ∨ year % 400 = 0) then 29 else 28
  else if month = 4 ∨ month = 6 ∨ month = 9 ∨ month = 11 then 30
  else 31

/-- A day and the text after it. -/
def date? (t : Text) : Option (Day × Text) := do
  let (y, t) ← fixedDigits? 4 t
  let t ← expect? '-' t
  let (month, t) ← twoDigits? 12 t
  let t ← expect? '-' t
  let (day, t) ← twoDigits? 31 t
  if month = 0 ∨ day = 0 then none else pure ({ year := Json.ofNumerals y, month, day }, t)

/-- A day with the time that follows it, if one does. -/
def stamp (d : Day) (t : Text) : Moment × Text :=
  match t with
  | c :: rest =>
    if c = 'T' || c = 't' || c = ' ' then
      match time? rest with
      | some (time, after) =>
        let (zone, after) := offset after
        (.stamp d time zone, after)
      | none => (.day d, t)
    else (.day d, t)
  | [] => (.day d, t)

/-- A date or a time. `some none` is a date that no calendar has. -/
def moment? (t : Text) : Option (Option (Value × Text)) :=
  match date? t with
  | some (d, rest) =>
    let (m, after) := stamp d rest
    some (if 1 ≤ d.year ∧ d.day ≤ daysIn d.year d.month then some (.moment m, after) else none)
  | none => (time? t).map fun (time, after) => some (.moment (.time time), after)

/-! ## Tables -/

/-- Change the table under a key, which is made if it is missing. In an array the last table
counts, if arrays may be entered at all. -/
def enter? (arrays : Bool) (f : Members → Option Members) : Key → Members → Option Members
  | [], ms => f ms
  | k :: ks, ms =>
    match ms.lookup (.text k) with
    | none => (enter? arrays f ks []).map fun inner => ms ++ [(.text k, .obj inner)]
    | some (.obj inner) =>
      (enter? arrays f ks inner).map fun changed => Value.setMember (.text k) (.obj changed) ms
    | some (.arr elements) =>
      match arrays, elements.getLast? with
      | true, some (.obj inner) =>
        (enter? arrays f ks inner).map fun changed =>
          Value.setMember (.text k) (.arr (elements.dropLast ++ [.obj changed])) ms
      | _, _ => none
    | some _ => none

/-- Add a member that is not there yet. -/
def addMember? (name : Text) (v : Value) (ms : Members) : Option Members :=
  if (ms.lookup (.text name)).isSome then none else some (ms ++ [(.text name, v)])

/-- Add an empty table to the array under a name. -/
def appendTable? (name : Text) (ms : Members) : Option Members :=
  match ms.lookup (.text name) with
  | none => some (ms ++ [(.text name, .arr [.obj []])])
  | some (.arr elements) => some (Value.setMember (.text name) (.arr (elements ++ [.obj []])) ms)
  | some _ => none

/-- Whether one key starts another or equals it. -/
def Key.starts (p k : Key) : Bool := p.isPrefixOf k

/-- Whether a value closes its namespace. -/
def isContainer : Value → Bool
  | .arr _ => true
  | .obj _ => true
  | _ => false

/-! ## Values -/

mutual

/-- A value and the text after it; the first argument bounds the number of steps. -/
def value? : Nat → Text → Option (Value × Text)
  | 0, _ => none
  | fuel + 1, t =>
    match t with
    | '"' :: '"' :: '"' :: rest =>
      (basicLines? (rest.length + 1) (dropLineEnd rest)).map fun (s, r) => (.str s, r)
    | '"' :: rest => (basicString? (rest.length + 1) rest).map fun (s, r) => (.str s, r)
    | '\'' :: '\'' :: '\'' :: rest =>
      (literalLines? (dropLineEnd rest)).map fun (s, r) => (.str s, r)
    | '\'' :: rest => (literalString? rest).map fun (s, r) => (.str s, r)
    | '[' :: rest => do
      let inner ← skipLines? rest.length rest
      array? fuel [] inner
    | '\x7b' :: rest =>
      match skipBlank rest with
      | '\x7d' :: after => some (.obj [], after)
      | inner => inlineTable? fuel [] [] inner
    | _ =>
      match Text.dropStart? "true".toList t, Text.dropStart? "false".toList t with
      | some rest, _ => some (.bool true, rest)
      | _, some rest => some (.bool false, rest)
      | none, none =>
        match moment? t with
        | some result => result
        | none => number? t <|> namedNumber? t

/-- The elements of an array up to its closing bracket, after those in `done`, which stand in
reverse. -/
def array? : Nat → List Value → Text → Option (Value × Text)
  | 0, _, _ => none
  | fuel + 1, done, t =>
    match t with
    | ']' :: after => some (.arr done.reverse, after)
    | _ => do
      let (v, afterValue) ← value? fuel t
      let next ← skipLines? afterValue.length afterValue
      match next with
      | ']' :: after => some (.arr (v :: done).reverse, after)
      | ',' :: after =>
        let inner ← skipLines? after.length after
        array? fuel (v :: done) inner
      | _ => none

/-- The members of an inline table up to its closing brace; `closed` are the keys of the
containers among them. -/
def inlineTable? : Nat → Members → List Key → Text → Option (Value × Text)
  | 0, _, _, _ => none
  | fuel + 1, done, closed, t => do
    let (key, afterKey) ← key? t.length t
    let afterEquals ← expect? '=' afterKey
    let (v, afterValue) ← value? fuel (skipBlank afterEquals)
    let ms ←
      if closed.any (Key.starts · key) then none
      else enter? false (addMember? (key.getLastD []) v) key.dropLast done
    match skipBlank afterValue with
    | '\x7d' :: after => some (.obj ms, after)
    | ',' :: after =>
      inlineTable? fuel ms (if isContainer v then key :: closed else closed) (skipBlank after)
    | _ => none

end

/-! ## Documents -/

/-- What is known while the statements of a document are read. -/
structure State where
  members : Members := []
  /-- The table that the last head opened. -/
  header : Key := []
  /-- Namespaces written inline. -/
  closed : List Key := []
  /-- Namespaces that a head cannot open again. -/
  opened : List Key := []
  /-- Namespaces that no head can open once this section ends. -/
  pending : List Key := []

/-- Whether a namespace lies in one that was written inline. -/
def State.isClosed (s : State) (key : Key) : Bool := s.closed.any (Key.starts · key)

/-- The keys of the tables that a dotted key passes through. -/
def passed (header key : Key) : List Key :=
  (List.range (key.length - 1)).map fun i => header ++ key.take (i + 1)

/-- Add a value under a dotted key of the current table. -/
def State.assign? (s : State) (key : Key) (v : Value) : Option State := do
  let through := passed s.header key
  let table := s.header ++ key.dropLast
  if through.any s.opened.contains || s.isClosed table then none
  else
    let members ← enter? true (addMember? (key.getLastD []) v) table s.members
    pure
      { s with
        members
        pending := s.pending ++ through
        closed := if isContainer v then (s.header ++ key) :: s.closed else s.closed }

/-- End a section. -/
def State.endSection (s : State) : State :=
  { s with opened := s.opened ++ s.pending, pending := [] }

/-- Open a table. -/
def State.openTable? (s : State) (key : Key) : Option State := do
  if s.opened.contains key || s.isClosed key then none
  else
    let members ← enter? true some key s.members
    pure { s with members, header := key, opened := key :: s.opened }

/-- Add a table to an array of tables and open it. -/
def State.openElement? (s : State) (key : Key) : Option State := do
  if s.isClosed key then none
  else
    let members ← enter? true (appendTable? (key.getLastD [])) key.dropLast s.members
    pure
      { s with
        members
        header := key
        opened := key :: s.opened.filter (!Key.starts key ·)
        closed := s.closed.filter (!Key.starts key ·) }

/-- A statement that starts the text, and the text after it. -/
def statement? (s : State) (t : Text) : Option (State × Text) :=
  match t with
  | '[' :: '[' :: rest => do
    let (key, after) ← key? rest.length (skipBlank rest)
    let next ← s.endSection.openElement? key
    let after ← expect? ']' after
    let after ← expect? ']' after
    pure (next, after)
  | '[' :: rest => do
    let (key, after) ← key? rest.length (skipBlank rest)
    let next ← s.endSection.openTable? key
    let after ← expect? ']' after
    pure (next, after)
  | '#' :: _ => some (s, t)
  | _ => do
    let (key, afterKey) ← key? t.length t
    let afterEquals ← expect? '=' afterKey
    let (v, after) ← value? (2 * t.length + 2) (skipBlank afterEquals)
    let next ← s.assign? key v
    pure (next, after)

/-- The statements of a document; the first argument bounds their number. -/
def statements? : Nat → State → Text → Option State
  | 0, s, t => if (skipBlank t).isEmpty then some s else none
  | fuel + 1, s, t =>
    match skipBlank t with
    | [] => some s
    | '\n' :: rest => statements? fuel s rest
    | start => do
      let (next, after) ← statement? s start
      let ending ← skipComment? (skipBlank after)
      match ending with
      | [] => some next
      | '\n' :: rest => statements? fuel next rest
      | _ => none

/-- A text in which every carriage return before a line feed is gone. -/
def joinLineEnds : Text → Text
  | '\r' :: '\n' :: rest => '\n' :: joinLineEnds rest
  | c :: rest => c :: joinLineEnds rest
  | [] => []

/-- The members of the top table of a document. -/
def read? (t : Text) : Option Members :=
  (statements? (t.length + 1) {} (joinLineEnds t)).map (·.members)

end Toml

end GhostEdit
