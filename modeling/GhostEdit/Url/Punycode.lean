import GhostEdit.Text.Basic

/-!
# Punycode

A label with letters beyond the plain ones is written with plain ones only: those it has come
first, and then numbers say which other letters go where. The letters go in by ascending code
point. Each number counts the steps from one insertion to the next, over places and code points,
and is written with digits whose weights depend on a bias that follows the numbers so far.

## Main definitions

* `Punycode.encode`: the plain form of a text
* `Punycode.decode?`: the text of a plain form
-/

namespace GhostEdit

namespace Punycode

/-- The letter of a digit: letters come before numerals. -/
def digitLetter (d : Nat) : Char := Char.ofNat (if d < 26 then 0x61 + d else 0x30 + (d - 26))

/-- The digit of a small letter or numeral. -/
def digitOf? (c : Char) : Option Nat :=
  if 'a' ≤ c && c ≤ 'z' then some (c.toNat - 0x61)
  else if '0' ≤ c && c ≤ '9' then some (c.toNat - 0x30 + 26)
  else none

/-- The threshold of a place: a digit below it is the last. -/
def threshold (place bias : Nat) : Nat := max 1 (min 26 (36 * (place + 1) - bias))

theorem threshold_pos (place bias : Nat) : 1 ≤ threshold place bias := Nat.le_max_left ..

/-- The bias of a number that was brought down to at most 455 by divisions. -/
def settle (delta shift : Nat) : Nat :=
  if 455 < delta then settle (delta / 35) (shift + 36) else shift + 36 * delta / (delta + 38)
termination_by delta
decreasing_by exact Nat.div_lt_self (by omega) (by omega)

/-- The bias after a number, where the text now has `count` characters. -/
def adapt (delta count : Nat) (first : Bool) : Nat :=
  let scaled := if first then delta / 700 else delta / 2
  settle (scaled + scaled / count) 0

/-! ## Encoding -/

/-- The digits of a number, from a place on. -/
def digits (place bias n : Nat) : Text :=
  let t := threshold place bias
  if n < t then [digitLetter n]
  else digitLetter (t + (n - t) % (36 - t)) :: digits (place + 1) bias ((n - t) / (36 - t))
termination_by n
decreasing_by
  have := threshold_pos place bias
  exact Nat.lt_of_le_of_lt (Nat.div_le_self ..) (by omega)

/-- What encoding has done so far: the steps since the last insertion, the bias, the number of
characters in place, and the digits written. -/
structure Progress where
  delta : Nat
  bias : Nat
  placed : Nat
  written : Text

/-- Go past one character of the text while the letters with code point `n` are inserted. -/
def Progress.pass (plain n : Nat) (p : Progress) (c : Char) : Progress :=
  if c.toNat < n then { p with delta := p.delta + 1 }
  else if c.toNat = n then
    { delta := 0, bias := adapt p.delta (p.placed + 1) (p.placed = plain), placed := p.placed + 1
      written := p.written ++ digits 0 p.bias p.delta }
  else p

/-- Insert all letters with the given code points, which ascend; `next` is the first that could
come. -/
def insertAll (t : Text) (plain : Nat) : Nat → List Nat → Progress → Progress
  | _, [], p => p
  | next, n :: rest, p =>
    let arrived := { p with delta := p.delta + (n - next) * (p.placed + 1) }
    let done := t.foldl (Progress.pass plain n) arrived
    insertAll t plain (n + 1) rest { done with delta := done.delta + 1 }

/-- A number among ascending ones, unless it is there. -/
def insertOnce (n : Nat) : List Nat → List Nat
  | [] => [n]
  | m :: rest =>
    if n < m then n :: m :: rest else if n = m then m :: rest else m :: insertOnce n rest

/-- Whether a character is a plain one. -/
def isPlain (c : Char) : Bool := c.toNat < 0x80

/-- The plain form of a text. -/
def encode (t : Text) : Text :=
  let plain := t.filter isPlain
  let others := (t.filter (!isPlain ·)).foldl (fun ns c => insertOnce c.toNat ns) []
  let p := insertAll t plain.length 0x80 others ⟨0, 72, plain.length, []⟩
  if plain.isEmpty then p.written else plain ++ '-' :: p.written

/-! ## Decoding -/

/-- Read one number, with the digits that follow it. `weight` is that of the next digit. -/
def number? (bias : Nat) (place weight total : Nat) : Text → Option (Nat × Text)
  | [] => none
  | c :: rest =>
    match digitOf? c with
    | none => none
    | some d =>
      let t := threshold place bias
      if d < t then some (total + d * weight, rest)
      else number? bias (place + 1) (weight * (36 - t)) (total + d * weight) rest

/-- Insert letters into `done` as the digits say, from code point `code` and place `place` on. The
first argument bounds the number of letters, of which there are at most as many as digits. -/
def insertFrom : Nat → Nat → Nat → Nat → Bool → List Nat → Text → Option (List Nat)
  | 0, _, _, _, _, done, _ => some done
  | _ + 1, _, _, _, _, done, [] => some done
  | fuel + 1, code, place, bias, first, done, ds => do
    let (delta, rest) ← number? bias 0 1 0 ds
    let count := done.length + 1
    let total := place + delta
    let next := code + total / count
    if 0x10ffff < next then none
    else
      let spot := total % count
      insertFrom fuel next (spot + 1) (adapt delta count first) false
        (done.take spot ++ next :: done.drop spot) rest

/-- The plain characters and the digits of a form: the last hyphen divides them. -/
def divide (t : Text) : Text × Text :=
  let ds := (t.reverse.takeWhile (· ≠ '-')).reverse
  (t.take (t.length - ds.length - 1), ds)

/-- The code points of a plain form in small letters. -/
def decode? (t : Text) : Option (List Nat) :=
  let (plain, ds) := divide t
  insertFrom ds.length 0x80 0 72 true (plain.map Char.toNat) ds

end Punycode

end GhostEdit
