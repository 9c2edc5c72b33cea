import Mathlib.Data.List.Induction
import GhostEdit.Debounce
import GhostEdit.Proofs.Clock

/-!
# Debouncing over whole histories

A controller keeps three things that different operations write: the timer it waits for, the cursor
of the last signal, and the time until which it holds back. The cursor stays when a timer expires,
and the time stays when a signal comes or is cancelled, so neither of them alone says whether a call
is due. This file says what does: the timer.

A `Watch` is a controller with the timers it started, and its history is any sequence of signals,
cancellations, resets and expiries. Which of the timers expires, and when, is up to the host; a
timer that does not run any more cannot expire. The clock may show anything, and looking the cursor
up may give anything or fail.

## Why a timer that runs is enough

On a host that does what it is asked to, a controller has one timer at most (`Watch.Tidy`), and that
one was started by the last signal. Since then nothing happened but expiries of timers that were
gone, which change nothing: the watch is as the signal left it (`Watch.exists_signal`). In
particular the cursor of the last signal is the one that started the timer.

## Main definitions

* `Host.isSteady`: a host that starts and cancels every timer it is asked to
* `Watch`, `Watch.handle`, `Watch.run`: a controller at work
* `Watch.call?`, `Watch.calls`: the calls that an event, and a history, lead to
* `Debounce.Near`: where the cursor has to be

## Main results

* `Debounce.expire_cases`: what an expiry can do
* `Watch.tidy_run`, `Watch.exists_signal`, `Watch.throttledUntil_run`
* `Watch.calls_disciplined`
-/

namespace GhostEdit

/-- A host that starts every timer it is asked to start, and cancels those it is asked to cancel. -/
def Host.isSteady : Host → Bool
  | .listing => true
  | .looping running => running
  | _ => false

theorem Host.isSteady_iff {host : Host} :
    host.isSteady = true ↔ host = .listing ∨ host = .looping true := by
  cases host with
  | looping running => cases running <;> simp [isSteady]
  | _ => simp [isSteady]

namespace Timers

variable {ts : Timers}

/-- The timers without one of them. -/
def without (ts : Timers) (n : Nat) : Timers := { ts with live := ts.live.filter (·.id ≠ n) }

theorem start_of_isSteady (h : ts.host.isSteady = true) (owner : String) (delay : Seconds) :
    ts.start owner delay
      = ({ ts with next := ts.next + 1, live := ts.live ++ [⟨ts.next, owner, delay⟩] },
          some ts.next, []) := by
  rw [start]
  rcases Host.isSteady_iff.mp h with hhost | hhost
  · rw [hhost]
  · rw [hhost]

theorem cancel_of_isSteady (h : ts.host.isSteady = true) (n : Nat) :
    (ts.cancel n).1 = ts.without n := by
  have hhost : ts.host ≠ .stubborn := by
    intro hhost
    rw [hhost] at h
    cases h
  rw [cancel, if_neg hhost, without]

/-- The only timer that runs is taken out. -/
theorem without_eq {n : Nat} (h : ts.live.map Timer.id = [n]) :
    ts.without n = { ts with live := [] } := by
  have hall : ∀ t ∈ ts.live, t.id = n := fun t ht =>
    List.mem_singleton.mp (h ▸ List.mem_map_of_mem ht)
  have hnone : ts.live.filter (·.id ≠ n) = [] := by
    simpa [List.filter_eq_nil_iff] using hall
  rw [without, hnone]

end Timers

/-! ## What an expiry can do -/

namespace Debounce

variable {d : Debounce} {tolerance : Value} {cursor : Cursor}
  {look : Option (Except Failure Cursor)}

/-- A cursor is near another: on the same row, and fewer columns away than the tolerance. -/
def Near (tolerance : Value) (current signalled : Cursor) : Prop :=
  ∃ row col signalledCol,
    current.coordinate 0 = .ok row ∧ signalled.coordinate 0 = .ok row ∧
      current.coordinate 1 = .ok col ∧ signalled.coordinate 1 = .ok signalledCol ∧
      Value.compare .less (.int (col - signalledCol).natAbs) tolerance = .ok true

/-- With an integer tolerance this is what it says. -/
theorem near_at {limit row col signalledRow signalledCol : Int} :
    Near (.int limit) (.at row col) (.at signalledRow signalledCol)
      ↔ row = signalledRow ∧ ((col - signalledCol).natAbs : Int) < limit := by
  constructor
  · rintro ⟨_, _, _, hrow, hsame, hcol, hsignalled, hless⟩
    cases hrow
    cases hsame
    cases hcol
    cases hsignalled
    simpa [Value.compare, Value.isNumeric, Value.relate, Value.int?, Value.Sign.holds] using hless
  · rintro ⟨rfl, hless⟩
    refine ⟨row, col, signalledCol, rfl, rfl, rfl, rfl, ?_⟩
    simpa [Value.compare, Value.isNumeric, Value.relate, Value.int?, Value.Sign.holds] using hless

theorem near_of_isNear {current : Cursor} (h : isNear tolerance current cursor = .ok true) :
    Near tolerance current cursor := by
  obtain ⟨row, hrow, h⟩ := bind_eq_ok h
  obtain ⟨signalledRow, hsame, h⟩ := bind_eq_ok h
  split at h
  · next heq =>
    obtain ⟨col, hcol, h⟩ := bind_eq_ok h
    obtain ⟨signalledCol, hsignalled, hless⟩ := bind_eq_ok h
    exact ⟨row, col, signalledCol, hrow, heq ▸ hsame, hcol, hsignalled, hless⟩
  · cases h

/-- A cursor that is looked up and found stable is near. -/
theorem near_of_isStable (h : (d.isStable cursor look).1 = .ok true) :
    look = none ∨ ∃ current, look = some (.ok current) ∧ Near d.tolerance current cursor := by
  cases look with
  | none => exact .inl rfl
  | some found =>
    cases found with
    | error e => cases h
    | ok current => exact .inr ⟨current, rfl, near_of_isNear h⟩

/-- **What an expiry can do**: it calls back for the cursor of the last signal, which is stable, at
a time until which nothing holds it back, and then holds back for as long as is set; or it makes no
call, and all it does is to forget the timer. -/
theorem expire_cases (d : Debounce) (now : Seconds) (look : Option (Except Failure Cursor)) :
    (∃ cursor pause, (d.expire now look).2.1 = .ok (some cursor) ∧ d.lastCursor = some cursor ∧
        (d.isStable cursor look).1 = .ok true ∧ ¬ now < d.throttledUntil ∧
        Seconds.ofMillis d.throttleMs = .ok pause ∧
        (d.expire now look).1 = { d with timer := none, throttledUntil := now + pause }) ∨
      (∀ cursor, (d.expire now look).2.1 ≠ .ok (some cursor)) ∧
        (d.expire now look).1 = { d with timer := none } := by
  have hstable : ∀ cursor,
      ({ d with timer := none } : Debounce).isStable cursor look = d.isStable cursor look :=
    fun _ => rfl
  rw [expire]
  dsimp only
  split
  · exact .inr ⟨by simp, rfl⟩
  · next cursor hcursor =>
    split
    · exact .inr ⟨by simp, rfl⟩
    · exact .inr ⟨by simp, rfl⟩
    · next heq =>
      split
      · exact .inr ⟨by simp, rfl⟩
      · next hthrottled =>
        split
        · exact .inr ⟨by simp, rfl⟩
        · next pause hpause =>
          refine .inl ⟨cursor, pause, rfl, hcursor, ?_, ?_, hpause, rfl⟩
          · rw [← hstable, heq]
          · simpa [isThrottled] using hthrottled

/-- A new controller waits for nothing, and its tolerance is the one given. -/
theorem new_eq_ok {interval throttle : Value}
    (h : Debounce.new interval throttle tolerance = .ok d) :
    d.timer = none ∧ d.tolerance = tolerance := by
  obtain ⟨_, _, h⟩ := bind_eq_ok h
  dsimp only at h
  split at h
  · cases h
    exact ⟨rfl, rfl⟩
  · obtain ⟨_, _, h⟩ := bind_eq_ok h
    cases h
    exact ⟨rfl, rfl⟩

end Debounce

/-! ## A controller at work -/

/-- A controller with the timers of its host. -/
structure Watch where
  /-- The buffer in whose name timers are started. -/
  owner : String
  controller : Debounce
  timers : Timers

namespace Watch

/-- What can happen to a controller. -/
inductive Event where
  | signal (cursor : Cursor)
  | cancel
  | reset
  /-- A timer expires, when the clock shows `now` and looking the cursor up gives `look`. -/
  | expire (timer : Nat) (now : Seconds) (look : Option (Except Failure Cursor))

/-- The numbers of the timers that run. -/
def running (w : Watch) : List Nat := w.timers.live.map Timer.id

/-- The controller and its timers after an event. A timer that does not run cannot expire. -/
def handle (w : Watch) : Event → Watch
  | .signal cursor =>
    { w with
      controller := (w.controller.signal w.timers w.owner cursor).1
      timers := (w.controller.signal w.timers w.owner cursor).2.1 }
  | .cancel =>
    { w with
      controller := (w.controller.cancel w.timers).1
      timers := (w.controller.cancel w.timers).2.1 }
  | .reset =>
    { w with
      controller := (w.controller.reset w.timers).1
      timers := (w.controller.reset w.timers).2.1 }
  | .expire timer now look =>
    if timer ∈ w.running then
      { w with controller := (w.controller.expire now look).1, timers := w.timers.without timer }
    else w

/-- The cursor for which an event calls back, if it does. -/
def call? (w : Watch) : Event → Option Cursor
  | .expire timer now look =>
    if timer ∈ w.running then
      match (w.controller.expire now look).2.1 with
      | .ok found => found
      | .error _ => none
    else none
  | _ => none

/-- The controller and its timers after a history. -/
def run (w : Watch) (history : List Event) : Watch := history.foldl handle w

/-- The calls that a history leads to, in order. -/
def calls (w : Watch) : List Event → List Cursor
  | [] => []
  | e :: rest => (w.call? e).toList ++ (w.handle e).calls rest

/-- A new controller, on a host without timers. -/
def start (owner : String) (d : Debounce) (host : Host) : Watch := ⟨owner, d, { host }⟩

/-- A host that does what it is asked to, and a controller that waits for the only timer. -/
structure Tidy (w : Watch) : Prop where
  steady : w.timers.host.isSteady = true
  awaited : w.running = w.controller.timer.toList

variable {w : Watch} {e : Event} {cursor : Cursor} {timer : Nat} {now : Seconds}
  {look : Option (Except Failure Cursor)} {history : List Event}

theorem run_concat (w : Watch) (history : List Event) (e : Event) :
    w.run (history ++ [e]) = (w.run history).handle e :=
  List.foldl_append

theorem run_append (w : Watch) (first rest : List Event) :
    w.run (first ++ rest) = (w.run first).run rest :=
  List.foldl_append

theorem calls_append (w : Watch) (first rest : List Event) :
    w.calls (first ++ rest) = w.calls first ++ (w.run first).calls rest := by
  induction first generalizing w with
  | nil => rfl
  | cons e first ih =>
    rw [List.cons_append, calls, ih, calls, List.append_assoc]
    rfl

theorem handle_expire_of_notMem (h : timer ∉ w.running) (now : Seconds)
    (look : Option (Except Failure Cursor)) : w.handle (.expire timer now look) = w := by
  rw [handle, if_neg h]

theorem call?_expire_of_notMem (h : timer ∉ w.running) (now : Seconds)
    (look : Option (Except Failure Cursor)) : w.call? (.expire timer now look) = none := by
  rw [call?, if_neg h]

/-- **A call is an expiry**, of a timer that runs. -/
theorem exists_expire_of_call? (h : w.call? e = some cursor) :
    ∃ timer now look, e = .expire timer now look ∧ timer ∈ w.running ∧
      (w.controller.expire now look).2.1 = .ok (some cursor) := by
  cases e with
  | expire timer now look =>
    rw [call?] at h
    split at h
    · next hmem =>
      split at h
      · next found hfound =>
        rw [h] at hfound
        exact ⟨timer, now, look, rfl, hmem, hfound⟩
      · cases h
    · cases h
  | _ => cases h

/-! ## One timer at most -/

namespace Tidy

theorem live_eq_nil (h : w.Tidy) (htimer : w.controller.timer = none) : w.timers.live = [] := by
  have hnone := h.awaited
  rw [htimer] at hnone
  exact List.map_eq_nil_iff.mp hnone

theorem timer_of_mem (h : w.Tidy) (hmem : timer ∈ w.running) : w.controller.timer = some timer := by
  rw [h.awaited] at hmem
  exact Option.mem_toList.mp hmem

/-- Cancelling leaves no timer. -/
theorem cancel (h : w.Tidy) :
    (w.controller.cancel w.timers).1 = { w.controller with timer := none } ∧
      (w.controller.cancel w.timers).2.1 = { w.timers with live := [] } := by
  rw [Debounce.cancel]
  cases htimer : w.controller.timer with
  | none =>
    have hcontroller : ({ w.controller with timer := none } : Debounce) = w.controller := by
      rw [← htimer]
    have htimers : ({ w.timers with live := [] } : Timers) = w.timers := by
      rw [← h.live_eq_nil htimer]
    exact ⟨hcontroller.symm, htimers.symm⟩
  | some n =>
    have hrunning : w.running = [n] := by
      rw [h.awaited, htimer]
      rfl
    exact ⟨rfl, (Timers.cancel_of_isSteady h.steady n).trans (Timers.without_eq hrunning)⟩

/-- A signal leaves the timer it starts, or none if its delay cannot be told. -/
theorem signal (h : w.Tidy) (cursor : Cursor) :
    ∃ timer, (w.handle (.signal cursor)).controller
          = { w.controller with lastCursor := some cursor, timer } ∧
        (w.handle (.signal cursor)).Tidy := by
  obtain ⟨hcontroller, htimers⟩ := h.cancel
  rw [handle, Debounce.signal]
  dsimp only
  rw [hcontroller, htimers]
  split
  · exact ⟨none, rfl, h.steady, rfl⟩
  · next delay _ =>
    have hsteady : ({ w.timers with live := [] } : Timers).host.isSteady = true := h.steady
    rw [Timers.start_of_isSteady hsteady]
    exact ⟨some w.timers.next, rfl, h.steady, rfl⟩

/-- After an expiry no timer runs. -/
theorem expire (h : w.Tidy) (hmem : timer ∈ w.running) (now : Seconds)
    (look : Option (Except Failure Cursor)) :
    (w.handle (.expire timer now look)).controller.timer = none ∧
      (w.handle (.expire timer now look)).Tidy := by
  have hrunning : w.running = [timer] := by
    rw [h.awaited, h.timer_of_mem hmem]
    rfl
  have htimer : (w.controller.expire now look).1.timer = none := by
    rcases w.controller.expire_cases now look with ⟨_, _, _, _, _, _, _, heq⟩ | ⟨_, heq⟩
    · rw [heq]
    · rw [heq]
  rw [handle, if_pos hmem, Timers.without_eq hrunning]
  refine ⟨htimer, h.steady, ?_⟩
  show [] = Option.toList (w.controller.expire now look).1.timer
  rw [htimer]
  rfl

/-- **Every event** leaves one timer at most, the one the controller waits for. -/
theorem handle (h : w.Tidy) (e : Event) : (w.handle e).Tidy := by
  cases e with
  | signal cursor =>
    obtain ⟨_, _, htidy⟩ := h.signal cursor
    exact htidy
  | cancel =>
    obtain ⟨hcontroller, htimers⟩ := h.cancel
    rw [Watch.handle, hcontroller, htimers]
    exact ⟨h.steady, rfl⟩
  | reset =>
    obtain ⟨hcontroller, htimers⟩ := h.cancel
    rw [Watch.handle, Debounce.reset]
    dsimp only
    rw [hcontroller, htimers]
    exact ⟨h.steady, rfl⟩
  | expire timer now look =>
    by_cases hmem : timer ∈ w.running
    · exact (h.expire hmem now look).2
    · rw [handle_expire_of_notMem hmem]
      exact h

end Tidy

theorem tidy_run (h : w.Tidy) (history : List Event) : (w.run history).Tidy := by
  induction history generalizing w with
  | nil => exact h
  | cons e rest ih => exact ih (h.handle e)

/-! ## The signal that a timer comes from -/

/-- An expiry, and neither a signal nor a cancellation of any kind. -/
def Event.isExpiry : Event → Bool
  | .expire _ _ _ => true
  | _ => false

/-- **A timer that runs was started by the last signal**, and nothing happened since: there were
only expiries of timers that did not run any more. -/
theorem exists_signal (h : w.Tidy) (hnone : w.controller.timer = none) (history : List Event)
    (hmem : timer ∈ (w.run history).running) :
    ∃ earlier cursor since, history = earlier ++ .signal cursor :: since ∧
      (∀ e ∈ since, e.isExpiry = true) ∧
      w.run history = w.run (earlier ++ [.signal cursor]) ∧
      (w.run (earlier ++ [.signal cursor])).calls since = [] := by
  induction history using List.reverseRecOn with
  | nil =>
    have hempty : timer ∈ w.running := hmem
    rw [h.awaited, hnone] at hempty
    cases hempty
  | append_singleton history e ih =>
    have htidy := tidy_run h history
    rw [run_concat] at hmem
    cases e with
    | signal cursor => exact ⟨history, cursor, [], rfl, by simp, rfl, rfl⟩
    | cancel =>
      rw [(htidy.handle .cancel).awaited, handle, htidy.cancel.1] at hmem
      cases hmem
    | reset =>
      rw [(htidy.handle .reset).awaited, handle, Debounce.reset] at hmem
      dsimp only at hmem
      rw [htidy.cancel.1] at hmem
      cases hmem
    | expire expired now look =>
      by_cases hexpired : expired ∈ (w.run history).running
      · -- it was the only one
        obtain ⟨htimer, htidy'⟩ := htidy.expire hexpired now look
        rw [htidy'.awaited, htimer] at hmem
        cases hmem
      · rw [handle_expire_of_notMem hexpired] at hmem
        obtain ⟨earlier, cursor, since, rfl, hsince, hrun, hcalls⟩ := ih hmem
        refine ⟨earlier, cursor, since ++ [.expire expired now look], by simp, ?_, ?_, ?_⟩
        · intro e he
          rcases List.mem_append.mp he with he | he
          · exact hsince e he
          · rw [List.mem_singleton.mp he]
            rfl
        · rw [run_concat, handle_expire_of_notMem hexpired, hrun]
        · have hback : w.run (earlier ++ .signal cursor :: since)
              = (w.run (earlier ++ [.signal cursor])).run since := by
            rw [← run_append]
            simp
          rw [hback] at hexpired
          rw [calls_append, hcalls, calls, call?_expire_of_notMem hexpired,
            handle_expire_of_notMem hexpired]
          rfl

/-! ## How long the controller holds back -/

/-- **What an event leaves of the settings** is all of them; and only a call and a reset change the
time until which the controller holds back. -/
theorem Tidy.settings (h : w.Tidy) (e : Event) :
    (w.handle e).controller.throttleMs = w.controller.throttleMs ∧
      (w.handle e).controller.tolerance = w.controller.tolerance ∧
      (e ≠ .reset → w.call? e = none →
        (w.handle e).controller.throttledUntil = w.controller.throttledUntil) := by
  cases e with
  | signal cursor =>
    obtain ⟨_, hcontroller, _⟩ := h.signal cursor
    rw [hcontroller]
    exact ⟨rfl, rfl, fun _ _ => rfl⟩
  | cancel =>
    rw [Watch.handle, h.cancel.1]
    exact ⟨rfl, rfl, fun _ _ => rfl⟩
  | reset =>
    rw [Watch.handle, Debounce.reset]
    dsimp only
    rw [h.cancel.1]
    exact ⟨rfl, rfl, fun hne _ => absurd rfl hne⟩
  | expire timer now look =>
    by_cases hmem : timer ∈ w.running
    · rw [Watch.handle, if_pos hmem, call?, if_pos hmem]
      rcases w.controller.expire_cases now look with
        ⟨cursor, pause, hcall, _, _, _, _, heq⟩ | ⟨_, heq⟩
      · rw [heq, hcall]
        exact ⟨rfl, rfl, fun _ hnone => absurd hnone (by simp)⟩
      · rw [heq]
        exact ⟨rfl, rfl, fun _ _ => rfl⟩
    · rw [handle_expire_of_notMem hmem]
      exact ⟨rfl, rfl, fun _ _ => rfl⟩

theorem settings_run (h : w.Tidy) (history : List Event) :
    (w.run history).controller.throttleMs = w.controller.throttleMs ∧
      (w.run history).controller.tolerance = w.controller.tolerance := by
  induction history generalizing w with
  | nil => exact ⟨rfl, rfl⟩
  | cons e rest ih =>
    obtain ⟨hthrottle, htolerance⟩ := ih (h.handle e)
    obtain ⟨hthrottle', htolerance', _⟩ := h.settings e
    exact ⟨hthrottle.trans hthrottle', htolerance.trans htolerance'⟩

/-- **Between two calls** the time until which the controller holds back stays, unless it is
reset. -/
theorem throttledUntil_run (h : w.Tidy) (hreset : .reset ∉ history)
    (hcalls : w.calls history = []) :
    (w.run history).controller.throttledUntil = w.controller.throttledUntil := by
  induction history generalizing w with
  | nil => rfl
  | cons e rest ih =>
    obtain ⟨hfirst, hrest⟩ := List.append_eq_nil_iff.mp hcalls
    have hnone : w.call? e = none := Option.toList_eq_nil_iff.mp hfirst
    have hne : e ≠ .reset := fun heq => hreset (heq ▸ List.mem_cons_self)
    obtain ⟨_, _, huntil⟩ := h.settings e
    have hrun := ih (h.handle e) (fun hmem => hreset (List.mem_cons_of_mem e hmem)) hrest
    exact hrun.trans (huntil hne hnone)

/-- What a call leaves: the controller holds back for as long as is set. -/
theorem throttledUntil_of_call? (h : w.call? (.expire timer now look) = some cursor) :
    ∃ pause, Seconds.ofMillis w.controller.throttleMs = .ok pause ∧
      (w.handle (.expire timer now look)).controller.throttledUntil = now + pause := by
  obtain ⟨_, _, _, heq, hmem, hcall⟩ := exists_expire_of_call? h
  cases heq
  rcases w.controller.expire_cases now look with ⟨_, pause, _, _, _, _, hpause, hafter⟩ | ⟨hno, _⟩
  · refine ⟨pause, hpause, ?_⟩
    rw [handle, if_pos hmem, hafter]
  · exact absurd hcall (hno cursor)

/-! ## The discipline of calls -/

/-- **When a controller calls back.** Let a controller start without timers on a host that does what
it is asked to, and let anything happen to it. Then one timer runs at most, the one that the
controller waits for; and each call

* is the expiry of the timer that the last signal started, with the cursor of that signal, and
  since that signal there was no other, no cancellation, no reset and no call;
* comes when the cursor, if it can be looked up, is near the one of the signal;
* does not come before the time of the call before it plus the time between calls, unless the
  controller was reset in between. -/
theorem calls_disciplined {interval throttle tolerance : Value} {d : Debounce}
    (hnew : Debounce.new interval throttle tolerance = .ok d) (owner : String) {host : Host}
    (hhost : host.isSteady = true) (history : List Event) :
    let w := start owner d host
    (w.run history).running = (w.run history).controller.timer.toList ∧
      ∀ e cursor, (w.run history).call? e = some cursor →
        ∃ timer now look, e = .expire timer now look ∧
          (∃ earlier since, history = earlier ++ .signal cursor :: since ∧
            (∀ e' ∈ since, e'.isExpiry = true) ∧
            (w.run (earlier ++ [.signal cursor])).controller.timer = some timer ∧
            (w.run (earlier ++ [.signal cursor])).calls since = []) ∧
          (look = none ∨
            ∃ current, look = some (.ok current) ∧ Debounce.Near tolerance current cursor) ∧
          (∀ first timer₁ now₁ look₁ cursor₁ between,
            history = first ++ .expire timer₁ now₁ look₁ :: between →
            (w.run first).call? (.expire timer₁ now₁ look₁) = some cursor₁ →
            .reset ∉ between →
            (w.run (first ++ [.expire timer₁ now₁ look₁])).calls between = [] →
            ∃ pause, Seconds.ofMillis d.throttleMs = .ok pause ∧ ¬ now < now₁ + pause ∧
              (now.isNumber = true → (now₁ + pause).isNumber = true → now₁ + pause ≤ now)) := by
  obtain ⟨hnone, htolerance⟩ := Debounce.new_eq_ok hnew
  have hstart : (start owner d host).Tidy := by
    refine ⟨hhost, ?_⟩
    show [] = d.timer.toList
    rw [hnone]
    rfl
  intro w
  have htidy := tidy_run hstart history
  refine ⟨htidy.awaited, ?_⟩
  intro e cursor he
  obtain ⟨timer, now, look, rfl, hmem, hcall⟩ := exists_expire_of_call? he
  rcases (w.run history).controller.expire_cases now look with
    ⟨found, _, hfound, hcursor, hstable, hnow, _, _⟩ | ⟨hno, _⟩
  · cases hfound.symm.trans hcall
    refine ⟨timer, now, look, rfl, ?_, ?_, ?_⟩
    · obtain ⟨earlier, signalled, since, hhistory, hsince, hrun, hcalls⟩ :=
        exists_signal hstart hnone history hmem
      have hlast : (w.run history).controller.lastCursor = some signalled := by
        obtain ⟨_, hcontroller, _⟩ := (tidy_run hstart earlier).signal signalled
        rw [hrun, run_concat, hcontroller]
      cases hcursor.symm.trans hlast
      refine ⟨earlier, since, hhistory, hsince, ?_, hcalls⟩
      rw [← hrun]
      exact htidy.timer_of_mem hmem
    · have hkept : (w.run history).controller.tolerance = tolerance :=
        (settings_run hstart history).2.trans htolerance
      rw [← hkept]
      exact Debounce.near_of_isStable hstable
    · intro first timer₁ now₁ look₁ cursor₁ between hhistory hcall₁ hreset hcalls
      obtain ⟨pause, hpause, huntil⟩ := throttledUntil_of_call? hcall₁
      rw [(settings_run hstart first).1] at hpause
      have hback : w.run history
          = (w.run (first ++ [.expire timer₁ now₁ look₁])).run between := by
        rw [hhistory, ← run_append]
        simp
      have hkept : (w.run history).controller.throttledUntil = now₁ + pause := by
        rw [hback, throttledUntil_run (tidy_run hstart _) hreset hcalls, run_concat, huntil]
      rw [hkept] at hnow
      exact ⟨pause, hpause, hnow, fun hnumber hsum => Seconds.le_of_not_lt hnumber hsum hnow⟩
  · exact absurd hcall (hno cursor)

/-- A tenth of a second from a signal to its call, a second between two calls, and five columns. -/
def patient : Debounce :=
  { intervalMs := .int 100, throttleMs := .int 1000, tolerance := .int 5 }

/-- Two signals, of which the second leads to a call, and after a cancellation a third. -/
def typed : List Event :=
  [.signal (.at 3 0), .signal (.at 3 4), .expire 1 (.ofInt 10) (some (.ok (.at 3 2))), .cancel,
    .signal (.at 4 9)]

/-- The third signal leads to a call two seconds after the first call, with the cursor a column
away. -/
theorem typed_disciplined :
    Debounce.new (.int 100) (.int 1000) (.int 5) = .ok patient ∧
      Host.isSteady .listing = true ∧
      (start "a" patient .listing).calls typed = [.at 3 4] ∧
      ((start "a" patient .listing).run typed).call?
          (.expire 2 (.ofInt 12) (some (.ok (.at 4 8)))) = some (.at 4 9) ∧
      Debounce.Near (.int 5) (.at 4 8) (.at 4 9) ∧
      ∃ pause, Seconds.ofMillis (.int 1000) = .ok pause ∧ .ofInt 10 + pause ≤ .ofInt 12 := by
  have hnew : Debounce.new (.int 100) (.int 1000) (.int 5) = .ok patient := by rfl
  have hlisting : Host.isSteady .listing = true := rfl
  have hcalls : (start "a" patient .listing).calls typed = [.at 3 4] := by decide +kernel
  have hcall : ((start "a" patient .listing).run typed).call?
      (.expire 2 (.ofInt 12) (some (.ok (.at 4 8)))) = some (.at 4 9) := by decide +kernel
  have hdisciplined := (calls_disciplined hnew "a" hlisting typed).2 _ _ hcall
  obtain ⟨_, _, _, heq, -, hnear, hpaused⟩ := hdisciplined
  cases heq
  refine ⟨hnew, hlisting, hcalls, hcall, ?_, ?_⟩
  · rcases hnear with hnone | ⟨current, hcurrent, hnear⟩
    · cases hnone
    · cases hcurrent
      exact hnear
  · obtain ⟨pause, hpause, -, hle⟩ := hpaused [.signal (.at 3 0), .signal (.at 3 4)] 1 (.ofInt 10)
      (some (.ok (.at 3 2))) (.at 3 4) [.cancel, .signal (.at 4 9)] rfl (by decide +kernel)
      (by simp) (by decide +kernel)
    have hone : Binary64.ofRatio false 1000 1000 = Binary64.ofInt 1 := by decide +kernel
    have hfinite : (Binary64.ofInt 1).isFinite = true := by decide +kernel
    have hsecond : Seconds.ofMillis (.int 1000) = .ok (.ofInt 1) := by
      simp [Seconds.ofMillis, Value.thousandth, Value.int?, hone, hfinite, Except.map,
        Seconds.ofInt]
    have heq : pause = .ofInt 1 := Except.ok.inj (hpause.symm.trans hsecond)
    rw [heq] at hle
    exact ⟨.ofInt 1, hsecond, hle (by decide +kernel) (by decide +kernel)⟩

end Watch

end GhostEdit
