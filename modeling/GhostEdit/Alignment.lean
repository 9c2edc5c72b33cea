import GhostEdit.Text.Basic

/-!
# Aligning two texts

Two texts are aligned by their longest common stretch, then by the longest common stretches of
what stands before it on both sides and of what stands after it, and so on. Of several longest
stretches the one that starts first in the first text is taken, and of these the one that starts
first in the second. Stretches that continue each other are one.

## Main definitions

* `Alignment.longestCommon`: the longest common stretch
* `Alignment.blocks`: the common stretches in order, neighbours merged
* `Alignment.edits`: the steps that turn the first text into the second
-/

namespace GhostEdit

namespace Alignment

/-- A common stretch: where it starts in either text, and how long it is. -/
structure Block where
  left : Nat
  right : Nat
  size : Nat
deriving DecidableEq, Repr

/-- How many leading characters two texts share. -/
def commonPrefix : Text → Text → Nat
  | a :: as, b :: bs => if a = b then commonPrefix as bs + 1 else 0
  | _, _ => 0

/-- The best stretch so far, or the one that starts `a` and the `right`-th suffix of the second
text if it is longer, and so on for the suffixes after it. -/
def scanRight (left : Nat) (a : Text) : Nat → Text → Block → Block
  | _, [], best => best
  | right, b :: bs, best =>
    let size := commonPrefix a (b :: bs)
    scanRight left a (right + 1) bs (if best.size < size then ⟨left, right, size⟩ else best)

/-- The same for every suffix of the first text, from the `left`-th on. -/
def scanLeft (b : Text) : Nat → Text → Block → Block
  | _, [], best => best
  | left, a :: as, best => scanLeft b (left + 1) as (scanRight left (a :: as) 0 b best)

/-- The longest common stretch, the first in the first text, then the first in the second. -/
def longestCommon (a b : Text) : Block := scanLeft b 0 a ⟨0, 0, 0⟩

/-- The common stretches in order; the first argument bounds the depth of the search. -/
def blocksWithin : Nat → Text → Text → List Block
  | 0, _, _ => []
  | fuel + 1, a, b =>
    let m := longestCommon a b
    if m.size = 0 then []
    else
      let i := m.left + m.size
      let j := m.right + m.size
      blocksWithin fuel (a.take m.left) (b.take m.right) ++ m ::
        (blocksWithin fuel (a.drop i) (b.drop j)).map fun n => ⟨n.left + i, n.right + j, n.size⟩

/-- Make one stretch of stretches that continue each other. -/
def mergeBlocks : List Block → List Block
  | [] => []
  | m :: rest =>
    match mergeBlocks rest with
    | [] => [m]
    | n :: more =>
      if m.left + m.size = n.left ∧ m.right + m.size = n.right then
        ⟨m.left, m.right, m.size + n.size⟩ :: more
      else m :: n :: more

/-- The common stretches of two texts in order. -/
def blocks (a b : Text) : List Block := mergeBlocks (blocksWithin a.length a b)

/-- A step from one text to another: a stretch of the first text becomes one of the second. -/
structure Edit where
  same : Bool
  leftStart : Nat
  leftEnd : Nat
  rightStart : Nat
  rightEnd : Nat
deriving DecidableEq, Repr

/-- The steps through a list of common stretches, from a pair of positions to the ends of both
texts. -/
def editsFrom (leftLength rightLength : Nat) : Nat → Nat → List Block → List Edit
  | i, j, [] =>
    if i < leftLength ∨ j < rightLength then [⟨false, i, leftLength, j, rightLength⟩] else []
  | i, j, m :: rest =>
    let gap := if i < m.left ∨ j < m.right then [⟨false, i, m.left, j, m.right⟩] else []
    gap ++ ⟨true, m.left, m.left + m.size, m.right, m.right + m.size⟩ ::
      editsFrom leftLength rightLength (m.left + m.size) (m.right + m.size) rest

/-- The steps that turn `a` into `b`: stretches that stay the same, and what stands between. -/
def edits (a b : Text) : List Edit := editsFrom a.length b.length 0 0 (blocks a b)

end Alignment

end GhostEdit
