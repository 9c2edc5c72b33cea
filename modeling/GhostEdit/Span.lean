/-!
# Stretches of a list

Positions in a list may count from its end: `-1` is the last element. A stretch between two
positions is clipped to the list and is empty when the positions are the wrong way round.

## Main definitions

* `Span.position`: the element a position starts at
* `Span.slice`, `Span.splice`: reading and replacing a stretch
* `Span.pick?`: the element at a position, if there is one
-/

namespace GhostEdit

namespace Span

variable {α : Type}

/-- The number of elements before a position in a list of the given length. -/
def position (length : Nat) (i : Int) : Nat :=
  if i < 0 then (length + i).toNat else min i.toNat length

/-- The elements from `start` up to but not including `stop`; without `stop`, to the end. -/
def slice (start : Int) (stop : Option Int) (xs : List α) : List α :=
  let first := position xs.length start
  let last := match stop with
    | some e => position xs.length e
    | none => xs.length
  (xs.take last).drop first

/-- Replace the elements from `start` up to but not including `stop`. -/
def splice (start stop : Int) (new xs : List α) : List α :=
  let first := position xs.length start
  let last := max first (position xs.length stop)
  xs.take first ++ new ++ xs.drop last

/-- The element at a position, if the list reaches that far in either direction. -/
def pick? (xs : List α) (i : Int) : Option α :=
  if 0 ≤ i then xs[i.toNat]?
  else if 0 ≤ (xs.length : Int) + i then xs[(xs.length + i).toNat]?
  else none

end Span

end GhostEdit
