import GhostEdit.Text.Quoted

/-!
# UTF-8

Encoding works on code points, because text from outside may hold halves of a pair, which have no
encoding. Decoding accepts nothing but well-formed bytes, and tells
what is wrong with others.

## Main definitions

* `Utf8.encode`: the bytes of code points, or where they cannot be encoded
* `Utf8.size`: the number of bytes of a text
* `Utf8.decode`: the text of well-formed bytes, or the first flaw
-/

namespace GhostEdit

namespace Utf8

/-- The bytes of one code point. -/
def bytesOf (n : Nat) : List UInt8 :=
  if n < 0x80 then [UInt8.ofNat n]
  else if n < 0x800 then [UInt8.ofNat (0xc0 + n / 0x40), UInt8.ofNat (0x80 + n % 0x40)]
  else if n < 0x10000 then
    [UInt8.ofNat (0xe0 + n / 0x1000), UInt8.ofNat (0x80 + n / 0x40 % 0x40),
      UInt8.ofNat (0x80 + n % 0x40)]
  else
    [UInt8.ofNat (0xf0 + n / 0x40000), UInt8.ofNat (0x80 + n / 0x1000 % 0x40),
      UInt8.ofNat (0x80 + n / 0x40 % 0x40), UInt8.ofNat (0x80 + n % 0x40)]

/-- Whether a code point is half of a pair and so stands for no character. -/
def isHalf (n : Nat) : Bool := 0xd800 ≤ n && n < 0xe000

/-- A stretch of code points that cannot be encoded. -/
structure Gap where
  start : Nat
  codes : List Nat
deriving DecidableEq

/-- The first stretch of halves, where `done` code points came before. -/
def gapFrom? (done : Nat) : List Nat → Option Gap
  | [] => none
  | n :: rest =>
    if isHalf n then some ⟨done, (n :: rest).takeWhile isHalf⟩ else gapFrom? (done + 1) rest

/-- What is told about a stretch that cannot be encoded. -/
def Gap.message (g : Gap) : String :=
  match g.codes with
  | [n] =>
    let shown := String.ofList (Text.hexPadded 4 n)
    s!"'utf-8' codec can't encode character '\\u{shown}' in position {g.start}: " ++
      "surrogates not allowed"
  | codes =>
    let last := g.start + codes.length - 1
    s!"'utf-8' codec can't encode characters in position {g.start}-{last}: surrogates not allowed"

/-- The bytes of code points. -/
def encode (codes : List Nat) : Except Gap (List UInt8) :=
  match gapFrom? 0 codes with
  | some gap => .error gap
  | none => .ok (codes.flatMap bytesOf)

/-- The code points of a text. -/
def codesOf (t : Text) : List Nat := t.map Char.toNat

/-- The number of bytes of a text. -/
def size (t : Text) : Nat := t.foldl (fun n c => n + c.utf8Size) 0

/-- The bytes of a text. -/
def bytes (t : Text) : List UInt8 := (codesOf t).flatMap bytesOf

/-- What can be wrong with bytes. -/
inductive FlawKind where
  | start
  | continuation
  | ending
deriving DecidableEq, Inhabited

/-- Bytes that cannot be decoded: where they start, which they are, and what is wrong. -/
structure Flaw where
  position : Nat
  bytes : List UInt8
  kind : FlawKind
deriving DecidableEq, Inhabited

/-- The words for a kind of flaw. -/
def FlawKind.message : FlawKind → String
  | .start => "invalid start byte"
  | .continuation => "invalid continuation byte"
  | .ending => "unexpected end of data"

/-- What is told about bytes that cannot be decoded. -/
def Flaw.message (f : Flaw) : String :=
  match f.bytes with
  | [b] =>
    let shown := String.ofList (Text.hexPadded 2 b.toNat)
    s!"'utf-8' codec can't decode byte 0x{shown} in position {f.position}: {f.kind.message}"
  | bytes =>
    let last := f.position + bytes.length - 1
    s!"'utf-8' codec can't decode bytes in position {f.position}-{last}: {f.kind.message}"

/-- A byte that may follow a first byte anywhere but in the second place. -/
def isContinuation (b : UInt8) : Bool := 0x80 ≤ b && b < 0xc0

/-- Whether a byte may stand in the second place: no code point has two encodings, none is half of
a pair, and none is out of range. -/
def isSecond (first b : UInt8) : Bool :=
  isContinuation b &&
    if first = 0xe0 then 0xa0 ≤ b
    else if first = 0xed then b < 0xa0
    else if first = 0xf0 then 0x90 ≤ b
    else if first = 0xf4 then b < 0x90
    else true

/-- How many bytes follow a first byte, and the bits it gives to the code point. -/
def startOf? (b : UInt8) : Option (Nat × Nat) :=
  if b < 0x80 then some (0, b.toNat)
  else if b < 0xc2 then none
  else if b < 0xe0 then some (1, b.toNat - 0xc0)
  else if b < 0xf0 then some (2, b.toNat - 0xe0)
  else if b < 0xf5 then some (3, b.toNat - 0xf0)
  else none

/-- The bytes that follow a first byte as far as they may, at most `count` of them. -/
def followers (first : UInt8) : Nat → List UInt8 → List UInt8
  | 0, _ => []
  | _ + 1, [] => []
  | count + 1, b :: rest =>
    if isSecond first b then b :: (rest.take count).takeWhile isContinuation else []

/-- The code point of the bits of a first byte and the bytes that follow it. -/
def codeOf (bits : Nat) (bs : List UInt8) : Nat :=
  bs.foldl (fun n b => n * 0x40 + (b.toNat - 0x80)) bits

/-- The text of bytes from a position on; the first argument bounds the number of characters, of
which there are at most as many as bytes. `done` stands in reverse. -/
def decodeFrom : Nat → Nat → Text → List UInt8 → Except Flaw Text
  | 0, _, done, _ => .ok done.reverse
  | _ + 1, _, done, [] => .ok done.reverse
  | fuel + 1, position, done, b :: rest =>
    match startOf? b with
    | none => .error ⟨position, [b], .start⟩
    | some (count, bits) =>
      let more := followers b count rest
      if more.length = count then
        decodeFrom fuel (position + count + 1) (Char.ofNat (codeOf bits more) :: done)
          (rest.drop count)
      else
        .error ⟨position, b :: more,
          if more.length = rest.length then .ending else .continuation⟩

/-- The text of well-formed bytes, or the first flaw. -/
def decode (bs : List UInt8) : Except Flaw Text := decodeFrom bs.length 0 [] bs

end Utf8

end GhostEdit
