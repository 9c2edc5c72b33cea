import GhostEdit.Value.Arithmetic

/-!
# Times

A time in seconds is a binary64 number. Times are ordered by their ranks, and sums and differences
are rounded as binary64 arithmetic rounds them.

## Main definitions

* `Seconds`, with its order, sum and difference
* `Seconds.ofValue`, `Seconds.later`: times from values
* `Seconds.toMillis`: the whole milliseconds of a span
-/

namespace GhostEdit

/-- A time, or a span of time, in seconds. -/
structure Seconds where
  value : Binary64
deriving DecidableEq, Inhabited

namespace Seconds

instance : LE Seconds := ⟨fun s t => s.value.le t.value = true⟩

instance : LT Seconds := ⟨fun s t => s.value.lt t.value = true⟩

instance (s t : Seconds) : Decidable (s ≤ t) := inferInstanceAs (Decidable (_ = true))

instance (s t : Seconds) : Decidable (s < t) := inferInstanceAs (Decidable (_ = true))

instance : Add Seconds := ⟨fun s t => ⟨s.value.add t.value⟩⟩

instance : Sub Seconds := ⟨fun s t => ⟨s.value.sub t.value⟩⟩

/-- The beginning of time. -/
def zero : Seconds := ⟨Binary64.ofInt 0⟩

/-- A whole number of seconds. -/
def ofInt (n : Int) : Seconds := ⟨Binary64.ofInt n⟩

/-- The time a value after a given one. -/
def later (s : Seconds) (v : Value) : Except Failure Seconds := (v.addTo s.value).map Seconds.mk

/-- The time that a number states. What is no number counts as zero. -/
def ofValue : Value → Except Failure Seconds
  | .float x => .ok ⟨x⟩
  | v => (Value.floatOf (v.int?.getD 0)).map Seconds.mk

/-- The time that a number of milliseconds states. -/
def ofMillis (v : Value) : Except Failure Seconds := v.thousandth.map Seconds.mk

/-- The whole milliseconds of a span, cut off towards zero. -/
def toMillis (s : Seconds) : Except Failure Int :=
  let x := s.value.times 1000
  match x.truncate? with
  | some n => .ok n
  | none => .error (if x.isNaN then .notANumber else .excess .infinite)

end Seconds

end GhostEdit
