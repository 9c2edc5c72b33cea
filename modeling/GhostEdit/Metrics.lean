import GhostEdit.Span
import GhostEdit.Value.Arithmetic

/-!
# Metrics of requests

The store keeps the latest requests up to a bound: whether the cache answered, how many sets came
back, how long it took and how long the answer was.

## Main definitions

* `Metric`, `Metrics`, `Metrics.add`
* `Metrics.recent`, `Metrics.recentOf`, `Metrics.hitRatio`, `Metrics.summary`
-/

namespace GhostEdit

/-- What is noted about one request. -/
structure Metric where
  buffer : String
  cacheHit : Bool
  sets : Int
  elapsedMs : Int
  chars : Int
  success : Bool
deriving DecidableEq, Inhabited

/-- Whether the request took longer than five seconds. -/
def Metric.slow (m : Metric) : Bool := 5000 < m.elapsedMs

/-- The latest requests, oldest first. -/
structure Metrics where
  /-- The most requests to keep; without it all are kept. -/
  bound : Option Nat := some 20
  entries : List Metric := []
deriving Inhabited

namespace Metrics

/-- The largest number of requests that can be counted. -/
def countLimit : Int := 0x8000000000000000

/-- An empty store. A bound must be an integer of machine size that is not negative, unless it is
null and there is none. -/
def empty (bound : Value) : Except Failure Metrics :=
  match bound with
  | .null => .ok { bound := none }
  | v =>
    match v.int? with
    | none => .error (.mismatch .notInteger)
    | some n =>
      if n < -countLimit ∨ countLimit ≤ n then .error (.excess .bound)
      else if n < 0 then .error .negativeBound
      else .ok { bound := some n.toNat }

/-- Note a request, and forget the oldest beyond the bound. -/
def add (m : Metrics) (x : Metric) : Metrics :=
  let all := m.entries ++ [x]
  match m.bound with
  | some n => { m with entries := all.drop (all.length - n) }
  | none => { m with entries := all }

/-- The last `count` requests; zero stands for all, and a negative number drops that many at the
front. -/
def recent (m : Metrics) (count : Int) : List Metric := Span.slice (-count) none m.entries

/-- The last requests, where their number has to be an integer. -/
def recentOf (m : Metrics) (count : Value) : Except Failure (List Metric) :=
  match count.int? with
  | some n => .ok (m.recent n)
  | none => .error (.mismatch (if count.isNumeric then .notIndex else .noNegative count.kind))

/-- The latest request. -/
def latest? (m : Metrics) : Option Metric := m.entries.getLast?

/-- The share of requests that the cache answered. -/
def hitRatio (m : Metrics) : Binary64 :=
  if m.entries.isEmpty then Binary64.ofInt 0
  else Binary64.ofRatio false (m.entries.countP (·.cacheHit)) m.entries.length

/-- Digits in groups of three from the end, with commas; the digits stand in reverse. -/
def groupDigits : List Char → List Char
  | a :: b :: c :: d :: rest => a :: b :: c :: ',' :: groupDigits (d :: rest)
  | ds => ds

/-- A number with commas between groups of three digits. -/
def grouped (n : Int) : String :=
  let digits := String.ofList (groupDigits (Nat.toDigits 10 n.natAbs).reverse).reverse
  if n < 0 then "-" ++ digits else digits

/-- One line about the latest request. -/
def summary (m : Metrics) : String :=
  match m.latest? with
  | none => "no suggestions yet"
  | some x =>
    let source := if x.cacheHit then "cache" else "provider"
    let status := if x.success then "ok" else "failed"
    let chars := grouped x.chars
    s!"{status} via {source} | sets:{x.sets} | {chars} chars | {x.elapsedMs}ms"

end Metrics

end GhostEdit
