import GhostEdit.Text.Casing
import GhostEdit.Text.Numeral
import GhostEdit.Url.Address
import GhostEdit.Url.Encoding
import GhostEdit.Url.Label

/-!
# Addresses of services

The address of a service has a scheme, an authority, which is a machine with perhaps a user and a
number of the entry to it, a path, a query and a fragment. The same service can be addressed in
many ways; the normal form has small letters where case does not matter, no entry that the scheme
implies, no steps up or in place, and plain characters only.

## Main definitions

* `Url`, `Url.render`
* `Url.Parts`, `Url.Parts.ofText`: an address as it is written
* `Url.Flaw`: what can be wrong with it
* `Url.normalise`, `Url.parse`
* `Url.asDirectory`: the address to which paths can be appended
-/

namespace GhostEdit

/-- An address in normal form. -/
structure Url where
  scheme : Text
  user : Text
  host : Text
  /-- The number of the entry to the machine, unless the scheme implies it. -/
  entry : Option Int
  path : Text
  query : Option Text
  fragment : Option Text
deriving DecidableEq, Inhabited

namespace Url

/-! ## What can be wrong -/

/-- What can be wrong with an address. -/
inductive Flaw where
  | tooLong
  /-- The named part is too long. -/
  | partTooLong (part : String)
  /-- A control character stands at the given place. -/
  | control (c : Char) (place : Nat)
  /-- The machine looks like four bytes but they are no address. -/
  | badDecimal (host : Text)
  /-- The machine stands in brackets but is no address. -/
  | badHexadecimal (host : Text)
  /-- The machine has a name that breaks the rules. -/
  | badName (host : Text)
  /-- The entry to the machine is no number. -/
  | badEntry (entry : Text)
deriving DecidableEq, Inhabited

/-- What is told about an address. -/
def Flaw.message : Flaw → String
  | .tooLong => "URL too long"
  | .partTooLong part => s!"URL component '{part}' too long"
  | .control c place =>
    let shown := String.ofList (Text.quoted [c])
    s!"Invalid non-printable ASCII character in URL, {shown} at position {place}."
  | .badDecimal host => "Invalid IPv4 address: " ++ String.ofList (Text.quoted host)
  | .badHexadecimal host => "Invalid IPv6 address: " ++ String.ofList (Text.quoted host)
  | .badName host => "Invalid IDNA hostname: " ++ String.ofList (Text.quoted host)
  | .badEntry entry => "Invalid port: " ++ String.ofList (Text.quoted entry)

/-- The most characters of an address, or of a part of it. -/
def sizeLimit : Nat := 65536

/-! ## As it is written -/

/-- The parts of an address as they are written. -/
structure Parts where
  scheme : Text
  authority : Text
  path : Text
  query : Option Text
  fragment : Option Text
deriving DecidableEq, Inhabited

/-- Whether a character can stand in a scheme after the first letter. -/
def isSchemeChar (c : Char) : Bool := c.isAlphanum || c = '+' || c = '.' || c = '-'

/-- The scheme in front of a colon, if there is one, and the rest. -/
def splitScheme (t : Text) : Text × Text :=
  let scheme := t.takeWhile isSchemeChar
  match scheme, t.drop scheme.length with
  | [], ':' :: rest => ([], rest)
  | c :: more, ':' :: rest => if c.isAlpha then (c :: more, rest) else ([], t)
  | _, _ => ([], t)

/-- What stands before and after the first of a mark, if there is one. -/
def splitAtMark (mark : Char) (t : Text) : Text × Option Text :=
  let front := t.takeWhile (· ≠ mark)
  match t.drop front.length with
  | _ :: rest => (front, some rest)
  | [] => (front, none)

/-- The authority after two slashes, if they are there, and the rest. -/
def splitAuthority : Text → Text × Text
  | '/' :: '/' :: rest =>
    let authority := rest.takeWhile fun c => c ≠ '/' && c ≠ '?' && c ≠ '#'
    (authority, rest.drop authority.length)
  | t => ([], t)

/-- The parts of an address. -/
def Parts.ofText (t : Text) : Parts :=
  let (scheme, rest) := splitScheme t
  let (authority, rest) := splitAuthority rest
  let (rest, fragment) := splitAtMark '#' rest
  let (path, query) := splitAtMark '?' rest
  { scheme, authority, path, query, fragment }

/-- An authority as it is written: a user in front of the last at sign, a machine, which may stand
in brackets, and the number of an entry after a colon. -/
structure Authority where
  user : Text
  host : Text
  entry : Text
deriving DecidableEq, Inhabited

/-- The text up to the last of a mark and what follows it. -/
def splitAtLast (mark : Char) (t : Text) : Text × Text :=
  let back := (t.reverse.takeWhile (· ≠ mark)).reverse
  (t.take (t.length - back.length), back)

/-- The parts of an authority. -/
def Authority.ofText (t : Text) : Authority :=
  let (user, rest) := splitAtLast '@' t
  let bracketed := (splitAtLast ']' rest).1
  let host :=
    if rest.head? = some '[' && !bracketed.isEmpty then bracketed else rest.takeWhile (· ≠ ':')
  let entry := match rest.drop host.length with
    | ':' :: entry => entry
    | entry => entry
  { user := user.dropLast, host, entry }

/-! ## The normal form -/

/-- The machine in normal form: an address in brackets loses them, and a name is as on the wire. -/
def normaliseHost (host : Text) : Except Flaw Text :=
  if host.isEmpty then .ok []
  else if Address.looksDecimal host then
    if Address.isDecimal host then .ok host else .error (.badDecimal host)
  else if host.head? = some '[' && host.getLast? = some ']' then
    let inner := (host.drop 1).dropLast
    if Address.isHexadecimal inner then .ok inner else .error (.badHexadecimal host)
  else if host.all Punycode.isPlain then .ok (Encoding.percent Encoding.hostSafe host.lower)
  else
    match Domain.encode? host.lower with
    | some name => .ok name
    | none => .error (.badName host)

/-- The entry that a scheme implies. -/
def impliedEntry? (scheme : Text) : Option Int :=
  [("ftp", 21), ("http", 80), ("https", 443), ("ws", 80), ("wss", 443)].lookup
    (String.ofList scheme)

/-- The entry in normal form. -/
def normaliseEntry (scheme entry : Text) : Except Flaw (Option Int) :=
  if entry.isEmpty then .ok none
  else
    match Numeral.free? entry with
    | some n => .ok (if impliedEntry? scheme = some n then none else some n)
    | none => .error (.badEntry entry)

/-- Follow one segment of a path from the segments before it, which stand in reverse: a step up
undoes the last segment, but for the empty one at the root. -/
def followSegment (done : List Text) (segment : Text) : List Text :=
  if segment = ['.'] then done
  else if segment = ['.', '.'] then if done = [[]] then done else done.tail
  else segment :: done

/-- A path without steps up or in place. -/
def straighten (path : Text) : Text :=
  Text.join ['/'] ((Text.pieces '/' path).foldl followSegment []).reverse

/-- An address in normal form. -/
def normalise (p : Parts) : Except Flaw Url := do
  let authority := Authority.ofText p.authority
  let user := Encoding.percent Encoding.userSafe authority.user
  let host ← normaliseHost authority.host
  let entry ← normaliseEntry p.scheme authority.entry
  let placed := !p.scheme.isEmpty || !user.isEmpty || !host.isEmpty || entry.isSome
  pure
    { scheme := p.scheme.lower, user, host, entry
      path := Encoding.percent Encoding.pathSafe (if placed then straighten p.path else p.path)
      query := p.query.map (Encoding.percent Encoding.querySafe)
      fragment := p.fragment.map (Encoding.percent Encoding.fragmentSafe) }

/-- Whether a character is a plain control character. -/
def isControl (c : Char) : Bool := c.toNat < 0x20 || c.toNat = 0x7f

/-- The address that a text states, in normal form. -/
def parse (t : Text) : Except Flaw Url :=
  if sizeLimit < t.length then .error .tooLong
  else
    let clean := t.takeWhile fun c => !isControl c
    match t.drop clean.length with
    | c :: _ => .error (.control c clean.length)
    | [] => normalise (.ofText t)

/-! ## Writing -/

/-- The authority of an address. -/
def authority (u : Url) : Text :=
  (if u.user.isEmpty then [] else u.user ++ ['@']) ++
    (if u.host.contains ':' then '[' :: u.host ++ [']'] else u.host) ++
    (u.entry.map fun n => ':' :: (toString n).toList).getD []

/-- The parts of an address as they are written. -/
def parts (u : Url) : Parts :=
  { scheme := u.scheme, authority := u.authority, path := u.path, query := u.query
    fragment := u.fragment }

/-- An address as it is written. -/
def render (u : Url) : Text :=
  (if u.scheme.isEmpty then [] else u.scheme ++ [':']) ++
    (if u.authority.isEmpty then [] else '/' :: '/' :: u.authority) ++ u.path ++
    (u.query.map ('?' :: ·)).getD [] ++ (u.fragment.map ('#' :: ·)).getD []

/-! ## Directories -/

/-- The first part that is too long. -/
def oversizedPart? (p : Parts) : Option String :=
  let sizes := [("scheme", p.scheme), ("authority", p.authority), ("path", p.path),
    ("query", p.query.getD []), ("fragment", p.fragment.getD [])]
  (sizes.find? fun (_, t) => sizeLimit < t.length).map Prod.fst

/-- The address with a slash at the end of its path. An empty path is the root and stays; any
other address is put in normal form again. -/
def asDirectory (u : Url) : Except Flaw Url :=
  if u.path.isEmpty || Text.endsIn ['/'] u.path then .ok u
  else
    let p := { u.parts with path := u.path ++ ['/'] }
    match oversizedPart? p with
    | some part => .error (.partTooLong part)
    | none => normalise p

end Url

end GhostEdit
