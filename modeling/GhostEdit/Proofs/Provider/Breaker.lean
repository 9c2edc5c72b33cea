import Mathlib.Algebra.Ring.Int.Defs
import Mathlib.Data.List.Induction
import GhostEdit.Proofs.Clock
import GhostEdit.Provider.Stream

/-!
# The breaker as a statement about the past

A breaker keeps a position, a count of failures and the time of the next attempt, and each of the
three operations writes another part of these. What it answers can be said without them: it blocks
when the failures since the last success have reached the threshold and the last of them is less
than the cooldown ago. Requests may overlap, so that failures are noted while the breaker is open
already, and a success of an older request closes it at any time.

## What the positions stand for

* A closed breaker has seen too few failures since the last success.
* An open one has seen enough, and what it waits for is the end of the cooldown after the last one.
  A failure that comes while it is open is one more of them and puts that time off.
* On trial are those for which the cooldown was over at some reading of the clock. The clock does
  not run backwards, so it is over at every later one, and the position need not be told apart from
  an open one whose time has come.

The count never falls but by a success, so a breaker on trial still has enough failures and the
first new one opens it, which is what the count alone would have said.

A threshold that is not positive counts as one: a breaker that never failed is closed.

## Main definitions

* `Breaker.Op`, `Breaker.act`, `Breaker.run`: what a breaker is asked and told
* `Breaker.streak`: the failures since the last success
* `Breaker.Blocks`: when the past says that calls are blocked
* `Breaker.Stands`, `Breaker.Tells`: what the position, and the parts, of a breaker say about the
  past
* `Guard.Event`, `Guard.ops`, `Guard.run`: requests that overlap

## Main results

* `Breaker.Tells.act`, `Breaker.tells_run`: one operation, and a history of them
* `Breaker.blocks_exactly`
* `Breaker.endless_forgotten`: a cooldown too long for a binary64 number is none
-/

namespace GhostEdit

namespace Breaker

/-- What a breaker is asked and told, with the reading of the clock where it takes one. -/
inductive Op where
  | attempt (now : Seconds)
  | success
  | failure (now : Seconds)
deriving DecidableEq

/-- The breaker after an operation. -/
def act (b : Breaker) : Op → Breaker
  | .attempt now => (b.attempt now).1
  | .success => b.recordSuccess
  | .failure now => (b.recordFailure now).1

/-- The breaker after a history. -/
def run (b : Breaker) (history : List Op) : Breaker := history.foldl act b

/-- The reading of the clock that an operation takes. -/
def Op.reading? : Op → Option Seconds
  | .attempt now => some now
  | .success => none
  | .failure now => some now

/-- The time of a failure. -/
def Op.failure? : Op → Option Seconds
  | .failure now => some now
  | _ => none

/-- The readings of the clock along a history. -/
def readings (history : List Op) : List Seconds := history.filterMap Op.reading?

/-- The times of the failures since the last success, latest first. -/
def streak (history : List Op) : List Seconds :=
  (history.reverse.takeWhile (· ≠ .success)).filterMap Op.failure?

/-- Calls are blocked at some time: the failures since the last success have reached the threshold,
and the last of them is less than the cooldown ago. -/
def Blocks (threshold : Int) (pause : Seconds) (history : List Op) (now : Seconds) : Prop :=
  max 1 threshold ≤ (streak history).length ∧
    ∃ last, (streak history).head? = some last ∧ now < last + pause

variable {threshold : Int} {pause now : Seconds} {history : List Op} {b : Breaker} {op : Op}

theorem run_concat (b : Breaker) (history : List Op) (op : Op) :
    b.run (history ++ [op]) = (b.run history).act op :=
  List.foldl_append

@[simp]
theorem streak_attempt (history : List Op) (now : Seconds) :
    streak (history ++ [.attempt now]) = streak history := by
  rw [streak, List.reverse_append, List.reverse_singleton, List.singleton_append,
    List.takeWhile_cons_of_pos (by simp)]
  rfl

@[simp]
theorem streak_success (history : List Op) : streak (history ++ [.success]) = [] := by
  simp [streak]

@[simp]
theorem streak_failure (history : List Op) (now : Seconds) :
    streak (history ++ [.failure now]) = now :: streak history := by
  rw [streak, List.reverse_append, List.reverse_singleton, List.singleton_append,
    List.takeWhile_cons_of_pos (by simp)]
  rfl

theorem readings_concat (history : List Op) (op : Op) :
    readings (history ++ [op]) = readings history ++ op.reading?.toList := by
  rw [readings, List.filterMap_append, readings]
  cases op <;> rfl

/-- A failure is noted at a reading of the clock. -/
theorem mem_readings_of_mem_streak {last : Seconds} (h : last ∈ streak history) :
    last ∈ readings history := by
  obtain ⟨op, hop, hlast⟩ := List.mem_filterMap.mp h
  have hmem : op ∈ history := List.mem_reverse.mp ((List.takeWhile_sublist _).subset hop)
  refine List.mem_filterMap.mpr ⟨op, hmem, ?_⟩
  cases op with
  | failure t => exact hlast
  | _ => cases hlast

/-- What the position of a breaker, with the time of the next attempt, says about the past. -/
def Stands (threshold : Int) (pause : Seconds) (history : List Op) :
    BreakerState → Seconds → Prop
  | .closed, _ => ((streak history).length : Int) < max 1 threshold
  | .open, next => max 1 threshold ≤ ((streak history).length : Int) ∧
    ∃ last, (streak history).head? = some last ∧ next = last + pause
  | .halfOpen, _ => max 1 threshold ≤ ((streak history).length : Int) ∧
    ∃ last, (streak history).head? = some last ∧
      ∃ reading ∈ readings history, last + pause ≤ reading

theorem stands_closed {next : Seconds} :
    Stands threshold pause history .closed next
      ↔ ((streak history).length : Int) < max 1 threshold :=
  Iff.rfl

/-- What the parts of a breaker say about the past. -/
structure Tells (threshold : Int) (pause : Seconds) (history : List Op) (b : Breaker) : Prop where
  limit : b.threshold = .int threshold
  later : ∀ now : Seconds, now.later b.cooldown = .ok (now + pause)
  failures : b.failures = (streak history).length
  stands : Stands threshold pause history b.state b.nextAttempt

/-- A position that is kept says the same after an attempt. -/
theorem Stands.attempt {state : BreakerState} {next : Seconds}
    (h : Stands threshold pause history state next) (now : Seconds) :
    Stands threshold pause (history ++ [.attempt now]) state next := by
  cases state with
  | closed => simpa [Stands] using h
  | «open» => simpa [Stands] using h
  | halfOpen =>
    obtain ⟨henough, last, hlast, reading, hmem, hle⟩ := h
    refine ⟨by simpa using henough, last, by simpa using hlast, reading, ?_, hle⟩
    rw [readings_concat]
    exact List.mem_append_left _ hmem

/-- Only a closed breaker has seen too few failures. -/
theorem Stands.eq_closed {state : BreakerState} {next : Seconds}
    (h : Stands threshold pause history state next)
    (hfew : ((streak history).length : Int) < max 1 threshold) : state = .closed := by
  cases state with
  | closed => rfl
  | «open» => exact absurd h.1 (Int.not_le.mpr hfew)
  | halfOpen => exact absurd h.1 (Int.not_le.mpr hfew)

namespace Tells

/-- One more failure opens the breaker when the count says so. -/
theorem opens_eq (h : Tells threshold pause history b) :
    b.opens = .ok (decide (max 1 threshold ≤ (((streak history).length + 1 : Nat) : Int))) := by
  rw [opens]
  split
  · next htrial =>
    have hstands := h.stands
    rw [htrial] at hstands
    have hmore : max 1 threshold ≤ (((streak history).length + 1 : Nat) : Int) := by
      have henough := hstands.1
      omega
    rw [decide_eq_true hmore]
  · have hcompare : (threshold ≤ (((streak history).length + 1 : Nat) : Int))
        ↔ max 1 threshold ≤ (((streak history).length + 1 : Nat) : Int) := by omega
    rw [h.limit, h.failures]
    simp only [Value.compare, Value.isNumeric, Value.relate, Value.int?, Value.Sign.holds,
      Bool.and_self, if_true, hcompare]

/-- Asking leaves the position, or puts an open breaker on trial whose time has come. -/
theorem attempt (h : Tells threshold pause history b) (now : Seconds) :
    Tells threshold pause (history ++ [.attempt now]) (b.attempt now).1 := by
  have hkept : Tells threshold pause (history ++ [.attempt now]) b :=
    ⟨h.limit, h.later, by simpa using h.failures, h.stands.attempt now⟩
  rw [Breaker.attempt]
  split
  · exact hkept
  · exact hkept
  · next hopen =>
    split
    · next hover =>
      have hstands := h.stands
      rw [hopen] at hstands
      obtain ⟨henough, last, hlast, hnext⟩ := hstands
      refine ⟨h.limit, h.later, by simpa using h.failures, by simpa using henough, last,
        by simpa using hlast, now, ?_, hnext ▸ hover⟩
      rw [readings_concat]
      exact List.mem_append_right _ List.mem_cons_self
    · exact hkept

/-- A success closes the breaker. -/
theorem success (h : Tells threshold pause history b) :
    Tells threshold pause (history ++ [.success]) b.recordSuccess := by
  refine ⟨h.limit, h.later, by simp [recordSuccess], stands_closed.mpr ?_⟩
  rw [streak_success, List.length_nil]
  omega

/-- A failure opens the breaker, puts the next attempt off, or leaves the breaker closed. -/
theorem failure (h : Tells threshold pause history b) (now : Seconds) :
    Tells threshold pause (history ++ [.failure now]) (b.recordFailure now).1 := by
  have hcount : b.failures + 1 = (streak (history ++ [.failure now])).length := by
    rw [streak_failure, List.length_cons, h.failures]
  rw [recordFailure]
  dsimp only
  rw [h.opens_eq]
  by_cases hmore : max 1 threshold ≤ (((streak history).length + 1 : Nat) : Int)
  · rw [decide_eq_true hmore, h.later]
    exact ⟨h.limit, h.later, hcount, by simpa using hmore, now, by simp, rfl⟩
  · rw [decide_eq_false hmore]
    have hclosed : b.state = .closed := h.stands.eq_closed (by omega)
    refine ⟨h.limit, h.later, hcount, ?_⟩
    rw [hclosed, stands_closed, streak_failure, List.length_cons]
    omega

/-- **One operation**: what the parts say stays true. -/
theorem act (h : Tells threshold pause history b) (op : Op) :
    Tells threshold pause (history ++ [op]) (b.act op) := by
  cases op with
  | attempt now => exact h.attempt now
  | success => exact h.success
  | failure now => exact h.failure now

/-- **What the breaker answers** is what the past says, as long as the clock does not run
backwards. -/
theorem attempt_eq_false_iff (h : Tells threshold pause history b)
    (hpause : pause.value.isFinite = true)
    (hclock : (readings history ++ [now]).Pairwise (· ≤ ·)) :
    (b.attempt now).2 = false ↔ Blocks threshold pause history now := by
  have hbefore : ∀ reading ∈ readings history, reading ≤ now := fun reading hmem =>
    (List.pairwise_append.mp hclock).2.2 reading hmem now (by simp)
  have hstands := h.stands
  rw [Breaker.attempt, Blocks]
  cases hstate : b.state with
  | closed =>
    rw [hstate] at hstands
    constructor
    · intro hfalse
      cases hfalse
    · rintro ⟨henough, _⟩
      exact absurd henough (Int.not_le.mpr hstands)
  | halfOpen =>
    rw [hstate] at hstands
    obtain ⟨_, last, hlast, reading, hmem, hle⟩ := hstands
    constructor
    · intro hfalse
      cases hfalse
    · rintro ⟨_, _, hlast', hlt⟩
      cases hlast.symm.trans hlast'
      exact absurd hlt (Seconds.not_lt_of_le (Seconds.le_trans hle (hbefore reading hmem)))
  | «open» =>
    rw [hstate] at hstands
    obtain ⟨henough, last, hlast, hnext⟩ := hstands
    have hle : last ≤ now :=
      hbefore last (mem_readings_of_mem_streak (List.mem_of_head? hlast))
    obtain ⟨hlastNumber, hnowNumber⟩ := Seconds.isNumber_of_le hle
    have hsumNumber := Seconds.isNumber_add hlastNumber hpause
    dsimp only
    rw [hnext]
    constructor
    · intro hfalse
      refine ⟨henough, last, hlast, ?_⟩
      refine Decidable.byContradiction fun hnot => ?_
      rw [if_pos (Seconds.le_of_not_lt hnowNumber hsumNumber hnot)] at hfalse
      cases hfalse
    · rintro ⟨_, _, hlast', hlt⟩
      cases hlast.symm.trans hlast'
      rw [if_neg fun hover => Seconds.not_lt_of_le hover hlt]

end Tells

/-- **Along every history** the parts of a breaker say what happened. -/
theorem tells_run {cooldown : Int} (hpause : Seconds.ofValue (.int cooldown) = .ok pause)
    (history : List Op) :
    Tells threshold pause history
      (run { threshold := .int threshold, cooldown := .int cooldown } history) := by
  induction history using List.reverseRecOn with
  | nil =>
    refine ⟨rfl, Seconds.later_eq rfl hpause, rfl, stands_closed.mpr ?_⟩
    rw [show streak [] = [] from rfl, List.length_nil]
    omega
  | append_singleton history op ih =>
    rw [run_concat]
    exact ih.act op

end Breaker

/-! ## Requests that overlap -/

namespace Guard

/-- What happens to a guard: a request is made, or a provider reports about one that was let
through, whichever it is. -/
inductive Event where
  | request (now : Seconds)
  | report (now : Seconds) (e : StreamEvent)

/-- The guard after an event. -/
def handle (g : Guard) : Event → Guard
  | .request now => (g.letThrough now).1
  | .report now e => (g.observe now e).1

/-- The guard after a history. -/
def run (g : Guard) (history : List Event) : Guard := history.foldl handle g

/-- What the breaker of a guard is asked and told. Pieces do not concern it, and neither does a call
that breaks by itself. -/
def ops : Event → List Breaker.Op
  | .request now => [.attempt now]
  | .report _ .finished => [.success]
  | .report now (.failed _) => [.failure now]
  | .report _ _ => []

/-- What the caller is told of a request that the breaker blocks. -/
def refusal (name : String) : Failure :=
  .ofFault .providerConnection s!"Circuit breaker is OPEN for {name}" []

variable {g : Guard}

theorem handle_eq (h : g.offline = false) (e : Event) :
    g.handle e = { g with breaker := g.breaker.run (ops e) } := by
  cases e with
  | request now =>
    rw [handle, letThrough, h]
    rfl
  | report now e =>
    rw [handle]
    cases e with
    | failed cause =>
      have hop : g.breaker.run (ops (.report now (.failed cause)))
          = (g.breaker.recordFailure now).1 := rfl
      rw [hop, observe]
      split
      · next heq => rw [heq]
      · next heq => rw [heq]
    | _ => rfl

/-- **A guard does nothing else** to its breaker than what its history says. -/
theorem run_eq (h : g.offline = false) (history : List Event) :
    g.run history = { g with breaker := g.breaker.run (history.flatMap ops) } := by
  induction history generalizing g with
  | nil => rfl
  | cons e rest ih =>
    have hrun : g.run (e :: rest) = (g.handle e).run rest := rfl
    have hbreaker : g.breaker.run ((e :: rest).flatMap ops)
        = (g.breaker.run (ops e)).run (rest.flatMap ops) := by
      rw [List.flatMap_cons, Breaker.run, List.foldl_append]
      rfl
    have hstill : (g.handle e).offline = false := by
      rw [handle_eq h]
      exact h
    rw [hrun, hbreaker, ih hstill, handle_eq h]

/-- A request that the breaker blocks reaches no provider. -/
theorem call_blocked (hoffline : g.offline = false) {now : Seconds}
    (hblocked : (g.breaker.attempt now).2 = false) (stream : List StreamEvent) :
    g.call now stream = (g, [.failed (refusal g.name)]) := by
  have hsame : (g.breaker.attempt now).1 = g.breaker := by
    rw [Breaker.attempt] at hblocked ⊢
    split at hblocked
    · cases hblocked
    · cases hblocked
    · split at hblocked
      · cases hblocked
      · next hwait => rw [if_neg hwait]
  have hself : ({ name := g.name, breaker := g.breaker } : Guard) = g := by
    obtain ⟨name, offline, breaker⟩ := g
    cases hoffline
    rfl
  simp only [call, letThrough, hoffline, hblocked, hsame, hself, Bool.false_eq_true, if_false,
    refusal]

/-- A request that the breaker lets through reaches the provider. -/
theorem letThrough_open (hoffline : g.offline = false) {now : Seconds}
    (hthrough : (g.breaker.attempt now).2 = true) : (g.letThrough now).2 = none := by
  rw [letThrough, hoffline]
  dsimp only
  rw [hthrough]
  rfl

theorem call_of_letThrough {now : Seconds} (h : (g.letThrough now).2 = none)
    (stream : List StreamEvent) :
    g.call now stream = observeAll now (g.letThrough now).1 stream := by
  rw [call]
  split
  · next e heq =>
    rw [heq] at h
    cases h
  · next heq => rw [heq]

end Guard

namespace Breaker

/-- **When a breaker blocks.** After any history of attempts, successes and failures, on a clock
that does not run backwards, a breaker blocks exactly if the failures since the last success have
reached the threshold, or one if that is not positive, and the last of them is less than the
cooldown ago. And so a guard that is not offline, whatever requests it saw and in whatever order
they were reported on, passes a request on exactly if its past does not block it; otherwise all that
happens is that the caller is told of a failure. -/
theorem blocks_exactly (threshold cooldown : Int) {pause : Seconds}
    (hpause : Seconds.ofValue (.int cooldown) = .ok pause) (history : List Op) {now : Seconds}
    (hclock : (readings history ++ [now]).Pairwise (· ≤ ·)) :
    let new : Breaker := { threshold := .int threshold, cooldown := .int cooldown }
    (((new.run history).attempt now).2 = false ↔ Blocks threshold pause history now) ∧
      ∀ name events, events.flatMap Guard.ops = history →
        let g := Guard.run { name, breaker := new } events
        g.breaker = new.run history ∧
          (Blocks threshold pause history now →
            ∀ stream, g.call now stream = (g, [.failed (Guard.refusal name)])) ∧
          (¬ Blocks threshold pause history now → (g.letThrough now).2 = none ∧
            ∀ stream, g.call now stream = Guard.observeAll now (g.letThrough now).1 stream) := by
  intro new
  have htells : Tells threshold pause history (new.run history) := tells_run hpause history
  have hiff := htells.attempt_eq_false_iff (Seconds.isFinite_of_ofValue_int hpause) hclock
  refine ⟨hiff, ?_⟩
  intro name events hops g
  have hg : g = { name, breaker := new.run history } := by
    rw [← hops]
    exact Guard.run_eq rfl events
  have hoffline : g.offline = false := by rw [hg]
  have hbreaker : g.breaker = new.run history := by rw [hg]
  have hname : g.name = name := by rw [hg]
  refine ⟨hbreaker, ?_, ?_⟩
  · intro hblocks stream
    have hblocked : (g.breaker.attempt now).2 = false := by
      rw [hbreaker]
      exact hiff.mpr hblocks
    rw [Guard.call_blocked hoffline hblocked, hname]
  · intro hblocks
    have hthrough : (g.breaker.attempt now).2 = true := by
      rw [hbreaker, ← Bool.not_eq_false]
      exact fun hfalse => hblocks (hiff.mp hfalse)
    have hnone := Guard.letThrough_open hoffline hthrough
    exact ⟨hnone, Guard.call_of_letThrough hnone⟩

/-- Three requests overlap, and the last failure is noted while the breaker is open already. -/
def crowd : List Guard.Event :=
  [.request (.ofInt 100), .request (.ofInt 100), .request (.ofInt 101),
    .report (.ofInt 105) (.failed (Stream.unavailable "m")), .report (.ofInt 106) (.chunk []),
    .report (.ofInt 110) (.failed (Stream.unavailable "m")),
    .report (.ofInt 125) (.failed (Stream.unavailable "m"))]

/-- The cooldown counts from the last failure and not from the one that opened the breaker. -/
theorem crowd_blocked :
    Seconds.ofValue (.int 30) = .ok (.ofInt 30) ∧
      (readings (crowd.flatMap Guard.ops) ++ [Seconds.ofInt 150]).Pairwise (· ≤ ·) ∧
      Blocks 2 (.ofInt 30) (crowd.flatMap Guard.ops) (.ofInt 150) ∧
      ((Guard.run ⟨"m", false, { threshold := .int 2, cooldown := .int 30 }⟩ crowd).call
          (.ofInt 150) [.finished]).2 = [.failed (Guard.refusal "m")] := by
  have hfinite : (Binary64.ofInt 30).isFinite = true := by decide +kernel
  have hpause : Seconds.ofValue (.int 30) = .ok (.ofInt 30) := by
    simp [Seconds.ofValue, Value.int?, Value.floatOf, hfinite, Except.map, Seconds.ofInt]
  have hclock : (readings (crowd.flatMap Guard.ops) ++ [Seconds.ofInt 150]).Pairwise (· ≤ ·) := by
    decide +kernel
  have hblocks : Blocks 2 (.ofInt 30) (crowd.flatMap Guard.ops) (.ofInt 150) :=
    ⟨by decide +kernel, .ofInt 125, by decide +kernel, by decide +kernel⟩
  obtain ⟨-, hguard⟩ := blocks_exactly 2 30 hpause (crowd.flatMap Guard.ops) hclock
  obtain ⟨-, hcall, -⟩ := hguard "m" crowd rfl
  exact ⟨hpause, hclock, hblocks, congrArg Prod.snd (hcall hblocks [.finished])⟩

/-- **A cooldown that is too long** for a binary64 number opens the breaker and lets the next call
through, since the time of the next attempt stays what it was. -/
theorem endless_forgotten :
    let b := run { threshold := .int 1, cooldown := .int (10 ^ 400) } [.failure (.ofInt 1000)]
    b.state = .open ∧ streak [.failure (.ofInt 1000)] = [.ofInt 1000] ∧
      Value.relate Value.Sign.less.holds (.float (Seconds.ofInt 1000).value)
        (.int (1000 + 10 ^ 400)) = true ∧
      (b.attempt (.ofInt 1000)).2 = true := by
  refine ⟨?_, rfl, ?_, ?_⟩
  · decide +kernel
  · decide +kernel
  · decide +kernel

end Breaker

end GhostEdit
