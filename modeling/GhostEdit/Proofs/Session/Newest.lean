import GhostEdit.Proofs.Session.Events

/-!
# Only the newest request counts

Requests overlap. A user types on while one is under way, a new one starts, the buffer is dismissed
and perhaps asked about again, and all the while the provider goes on delivering to the old ones.
The session keeps one number in the context of a buffer and compares it in every callback.

This file reads the newest request of a buffer, and the pieces delivered to a request, off the
history (`Session.newest`, `Session.heard`) and proves that the number and the stored pieces agree
with them after every history. Two things follow. The end or failure of any other request moves
nothing, and the sets on offer were read from the pieces of the newest request, or from the answer
the cache had for it, and from nothing else.

## Main definitions

* `Session.newest`, `Session.heard`: what a history says about requests
* `Session.Unmoved`: nothing changed but the metrics and the log
* `Session.Origin`: where the sets of a request come from
* `Session.Trimmed`: what accepting leaves of them

## Main results

* `Session.only_newest_counts`
-/

namespace GhostEdit

namespace Session

/-! ## What a history says -/

/-- Whether an event dismisses a buffer; accepting the last item does. -/
def Event.dismisses (s : Session) (id : String) : Event → Bool
  | .dismiss other => other = id
  | .close other => other = id
  | .accept other => other = id && ((s.accept other).1.context? other).isNone
  | _ => false

/-- The newest request of a buffer after an event, where `last` was the newest before. -/
def Event.renew (s : Session) (id : String) (e : Event) (last : Option Nat) : Option Nat :=
  if e.started? s = some id then some (s.lastRequest + 1)
  else if e.dismisses s id then none
  else last

/-- The request last started for a buffer since the buffer was last dismissed; `last` is the one
before the history. -/
def newestFrom (id : String) : Option Nat → Session → List Event → Option Nat
  | last, _, [] => last
  | last, s, e :: rest => newestFrom id (e.renew s id last) (s.handle e) rest

/-- The request last started for a buffer since the buffer was last dismissed. -/
def newest (s : Session) (id : String) (events : List Event) : Option Nat :=
  newestFrom id none s events

/-- What an event delivers to a request that runs. -/
def Event.pieces (s : Session) (n : Nat) : Event → List Text
  | .deliver k piece => if k = n ∧ (s.request? n).isSome then [piece] else []
  | _ => []

/-- The pieces that a history delivers to a request, in order. -/
def heard (n : Nat) : Session → List Event → List Text
  | _, [] => []
  | s, e :: rest => e.pieces s n ++ heard n (s.handle e) rest

/-- The event by which a provider reports the end or the failure of a request. -/
def Event.reported? : Event → Option Nat
  | .finish n => some n
  | .fail n _ => some n
  | .abort n _ => some n
  | _ => none

variable {s t : Session} {id : String} {e : Event} {n : Nat} {events : List Event}

theorem newestFrom_concat (last : Option Nat) (s : Session) (events : List Event) (e : Event) :
    newestFrom id last s (events ++ [e])
      = e.renew (s.run events) id (newestFrom id last s events) := by
  induction events generalizing last s with
  | nil => rfl
  | cons first rest ih => exact ih _ _

theorem newest_concat (s : Session) (events : List Event) (e : Event) :
    s.newest id (events ++ [e]) = e.renew (s.run events) id (s.newest id events) :=
  newestFrom_concat none s events e

theorem heard_concat (s : Session) (events : List Event) (e : Event) :
    heard n s (events ++ [e]) = heard n s events ++ e.pieces (s.run events) n := by
  induction events generalizing s with
  | nil => simp [heard, run]
  | cons first rest ih => simp [heard, run, ih]

/-! ## A report that comes too late -/

/-- Nothing changed but the metrics, the log and what is noted about a request for the metrics. -/
structure Unmoved (s t : Session) : Prop where
  contexts : t.contexts = s.contexts
  buffers : t.buffers = s.buffers
  board : t.board = s.board
  cache : t.cache = s.cache
  reporter : t.reporter = s.reporter
  notices : t.journal.filterMap Entry.notice? = s.journal.filterMap Entry.notice?
  work : t.work = s.work

theorem Unmoved.refl (s : Session) : Unmoved s s := ⟨rfl, rfl, rfl, rfl, rfl, rfl, rfl⟩

theorem Unmoved.trans {u : Session} (h : Unmoved s t) (h' : Unmoved t u) : Unmoved s u :=
  ⟨h'.contexts.trans h.contexts, h'.buffers.trans h.buffers, h'.board.trans h.board,
    h'.cache.trans h.cache, h'.reporter.trans h.reporter, h'.notices.trans h.notices,
    h'.work.trans h.work⟩

/-- Log records are no notices. -/
theorem unmoved_log (s : Session) (severity : Severity) (message : String) :
    Unmoved s (s.log severity message) := by
  refine ⟨rfl, rfl, rfl, rfl, rfl, ?_, rfl⟩
  show (s.journal ++ [Entry.log _]).filterMap Entry.notice? = _
  simp [Entry.notice?]

theorem unmoved_record (s : Session) (buffer : String) (started : Seconds) (cacheHit : Bool)
    (sets chars : Nat) (success : Bool) :
    Unmoved s (s.record buffer started cacheHit sets chars success).1 := by
  have hadded : ∀ metrics, Unmoved s { s with metrics } :=
    fun _ => ⟨rfl, rfl, rfl, rfl, rfl, rfl, rfl⟩
  rw [record]
  split
  · exact .refl s
  · dsimp only
    split
    · exact (hadded _).trans (unmoved_log ..)
    · exact hadded _

theorem unmoved_finish {r : Request} (hr : s.request? n = some r)
    (hstale : s.isCurrent r.buffer n = false) : Unmoved s (s.finish n).1 := by
  let m := s.log .debug s!"Discarding stale suggestion response for {r.buffer}"
  have hcommit : s.commit r.buffer n r.answer (some r.key) = (m, .ok false) := by
    rw [commit, hstale]
    rfl
  have hlog : Unmoved s m := unmoved_log ..
  have hquiet : Quiet m (m.changeRequest n fun r => { r with committed := false }) :=
    quiet_changeRequest m n fun _ => rfl
  have hflag : Unmoved m (m.changeRequest n fun r => { r with committed := false }) :=
    ⟨rfl, rfl, rfl, rfl, rfl, rfl, hquiet.work⟩
  rw [finish, hr]
  dsimp only
  rw [hcommit]
  exact hlog.trans (hflag.trans (unmoved_record ..))

theorem unmoved_fail {r : Request} (hr : s.request? n = some r)
    (hstale : s.isCurrent r.buffer n = false) (f : Failure) : Unmoved s (s.fail n f).1 := by
  rw [fail, hr]
  dsimp only
  rw [hstale]
  exact unmoved_log ..

/-- **A report about a request that is not the newest moves nothing.** -/
theorem unmoved_of_stale (he : e.reported? = some n)
    (hstale : ∀ r, s.request? n = some r → s.isCurrent r.buffer n = false) :
    Unmoved s (s.handle e) := by
  have hfail : ∀ f, Unmoved s (s.fail n f).1 := by
    intro f
    cases hr : s.request? n with
    | none =>
      rw [fail, hr]
      exact .refl s
    | some r => exact unmoved_fail hr (hstale r hr) f
  cases e with
  | finish k =>
    cases he
    show Unmoved s (s.finish n).1
    cases hr : s.request? n with
    | none =>
      rw [finish, hr]
      exact .refl s
    | some r => exact unmoved_finish hr (hstale r hr)
  | fail k f =>
    cases he
    exact hfail f
  | abort k f =>
    cases he
    exact hfail _
  | _ => cases he

/-! ## Numbers and the newest request -/

theorem number_of_dismisses (h : e.dismisses s id = true) :
    ((s.handle e).view id).number = 0 := by
  cases e with
  | dismiss other =>
    obtain rfl : other = id := of_decide_eq_true h
    exact congrArg View.number (drops_dismiss s other).here
  | close other =>
    obtain rfl : other = id := of_decide_eq_true h
    exact congrArg View.number (drops_dismiss s other).here
  | accept other =>
    simp only [Event.dismisses, Bool.and_eq_true, decide_eq_true_eq, Option.isNone_iff_eq_none] at h
    obtain ⟨rfl, hnone⟩ := h
    show (((s.accept other).1.context? other).getD {}).request = 0
    rw [hnone]
    rfl
  | _ => cases h

theorem dismisses_of_blank (h : e.dismissed? = some id ∨ e = .accept id)
    (hblank : (s.handle e).view id = .blank) : e.dismisses s id = true := by
  rcases h with h | rfl
  · cases e with
    | dismiss other => exact decide_eq_true (Option.some.inj h)
    | close other => exact decide_eq_true (Option.some.inj h)
    | _ => cases h
  · have hnone : (s.accept id).1.context? id = none := congrArg View.context hblank
    simp [Event.dismisses, hnone]

/-- **The number in the context of a buffer follows the newest request.** -/
theorem handle_renew {last : Option Nat} (h : (s.view id).number = (last.getD 0 : Nat))
    (e : Event) : ((s.handle e).view id).number = ((e.renew s id last).getD 0 : Nat) := by
  have hsees := handle_view s e id
  rw [Event.renew]
  by_cases hstarted : e.started? s = some id
  · rw [if_pos hstarted]
    rcases handle_number s e id with ⟨_, hnumber⟩ | ⟨hnot, _⟩
    · exact hnumber
    · exact absurd hstarted hnot
  · rw [if_neg hstarted]
    by_cases hdismisses : e.dismisses s id = true
    · rw [if_pos hdismisses]
      exact number_of_dismisses hdismisses
    · rw [if_neg hdismisses, ← h]
      generalize hview : (s.handle e).view id = v at hsees
      cases hsees with
      | enter hyes _ => exact absurd hyes hstarted
      | change _ _ hchange => exact hchange.number
      | drop hdrop => exact absurd (dismisses_of_blank hdrop hview) hdismisses
      | cut _ hc hcut hchange =>
        rw [view_of_context? hc, hchange.number]
        cases hcut
        rfl

/-! ## Where sets come from -/

/-- Where the sets of a request come from: the pieces delivered to it, or what the cache had when
it was started. -/
inductive Origin (s : Session) (id : String) (n : Nat) (sets : List SuggestionSet) :
    List Event → Event → Prop
  | answer {earlier : List Event} {r : Request} {b : Buffer}
      (hrequest : (s.run earlier).request? n = some r) (hbuffer : r.buffer = id)
      (hb : (s.run earlier).buffers.get? id = some b)
      (hparse : Answer.parse (heard n s earlier).flatten (b.lines.map Value.plain) = .ok sets) :
      Origin s id n sets earlier (.finish n)
  | cache {earlier : List Event} {e : Event} {answer : Text} {b : Buffer}
      (hstarted : e.started? (s.run earlier) = some id) (hn : n = (s.run earlier).lastRequest + 1)
      (hstored : (s.run earlier).stored? id = some answer)
      (hb : (s.run earlier).buffers.get? id = some b)
      (hparse : Answer.parse answer (b.lines.map Value.plain) = .ok sets) :
      Origin s id n sets earlier e

/-- What is left of sets after items were taken out of them one by one. -/
inductive Trimmed (sets : List SuggestionSet) : List SuggestionSet → Prop
  | refl : Trimmed sets sets
  | take {kept : List SuggestionSet} {i : Nat} {before after : SuggestionSet} {x : Item}
      (h : Trimmed sets kept) (hset : kept[i]? = some (before ++ x :: after)) :
      Trimmed sets (kept.set i (shiftBelow x x.growth (before ++ after)))

/-- A context that is ready was so before with the same sets, or it took over an answer. -/
theorem View.Change.ready {offers : Int → Text → List Text → Prop} {v w : View}
    (h : View.Change offers v w) {c : Context} (hc : w.context = some c)
    (hready : c.phase = .ready) :
    (∃ c', v.context = some c' ∧ c'.phase = .ready ∧ c'.sets = c.sets) ∨
      ∃ answer rows, offers c.request answer rows ∧ Answer.parse answer rows = .ok c.sets := by
  induction h generalizing c with
  | refl v => exact .inl ⟨c, hc, hready, rfl⟩
  | @trans u v w huv hvw ih ih' =>
    rcases ih' hc hready with ⟨c', hc', hready', hsets⟩ | hanswer
    · rcases ih hc' hready' with ⟨c'', hc'', hready'', hsets'⟩ | ⟨answer, rows, hoffers, hparse⟩
      · exact .inl ⟨c'', hc'', hready'', hsets'.trans hsets⟩
      · have hnumber := hvw.number
        rw [View.number, View.number, hc, hc'] at hnumber
        refine .inr ⟨answer, rows, ?_, hsets ▸ hparse⟩
        rw [show c.request = c'.request from hnumber]
        exact hoffers
    · exact .inr hanswer
  | touch overlay drawn =>
    cases hc
    cases hready
  | turn overlay drawn hturn =>
    cases hc
    cases hturn with
    | note rows => exact .inl ⟨_, rfl, hready, rfl⟩
    | still => exact .inl ⟨_, rfl, hready, rfl⟩
    | select hwas _ _ => exact .inl ⟨_, rfl, hwas, rfl⟩
    | offer hoffers hparse _ => exact .inr ⟨_, _, hoffers, hparse⟩
  | hide v => exact .inl ⟨c, hc, hready, rfl⟩
  | settle c overlay drawn =>
    cases hc
    cases hready
  | paint overlay drawn marks _ _ => exact .inl ⟨c, hc, hready, rfl⟩

/-- The sets on offer in a buffer come from one request, less what was accepted since. -/
def Sourced (s : Session) (id : String) (events : List Event) (n : Nat)
    (sets : List SuggestionSet) : Prop :=
  ∃ earlier e later read, events = earlier ++ e :: later ∧ Origin s id n read earlier e ∧
    Trimmed read sets ∧ (Event.accept id ∉ later → sets = read)

/-- A source stays one as the history goes on. -/
theorem Sourced.concat {sets : List SuggestionSet} (h : Sourced s id events n sets) (e : Event) :
    Sourced s id (events ++ [e]) n sets := by
  obtain ⟨earlier, origin, later, read, rfl, horigin, htrimmed, hsame⟩ := h
  refine ⟨earlier, origin, later ++ [e], read, by simp, horigin, htrimmed, fun hnot => hsame ?_⟩
  exact fun hmem => hnot (List.mem_append_left _ hmem)

/-- Accepting takes an item out. -/
theorem Sourced.accept {c c' : Context} (h : Sourced s id events n c.sets) (hcut : Cut c c') :
    Sourced s id (events ++ [.accept id]) n c'.sets := by
  obtain ⟨earlier, origin, later, read, rfl, horigin, htrimmed, _⟩ := h
  cases hcut with
  | mk rows hready hset hne =>
    rw [Context.current?] at hset
    split at hset
    · refine ⟨earlier, origin, later ++ [.accept id], read, by simp, horigin, .take htrimmed hset,
        fun hnot => ?_⟩
      simp at hnot
    · cases hset

/-! ## The invariant -/

/-- What a session keeps agrees with its history. -/
structure Traced (s : Session) (events : List Event) : Prop where
  number : ∀ id, ((s.run events).view id).number = ((s.newest id events).getD 0 : Nat)
  running : ∀ r ∈ (s.run events).work.running, 1 ≤ r.1 ∧ r.1 ≤ (s.run events).lastRequest ∧
    r.2.2 = heard r.1 s events
  unheard : ∀ n, (s.run events).lastRequest < n → heard n s events = []
  sourced : ∀ id c, (s.run events).context? id = some c → c.phase = .ready →
    ∃ n : Nat, c.request = n ∧ Sourced s id events n c.sets

theorem traced_start (h : Fresh s) : Traced s [] := by
  refine ⟨fun id => ?_, fun r hr => ?_, fun _ _ => rfl, fun id c hc => ?_⟩
  · show (s.view id).number = 0
    rw [h.view]
    rfl
  · have hnil : s.work.running = [] := by
      show s.requests.map _ = []
      rw [h.requests]
      rfl
    have hr : r ∈ s.work.running := hr
    rw [hnil] at hr
    cases hr
  · have hnone : s.context? id = none := by rw [context?, h.contexts]; rfl
    have hc : s.context? id = some c := hc
    rw [hnone] at hc
    cases hc

theorem pieces_eq_nil (h : ∀ n piece, e ≠ .deliver n piece) : e.pieces s n = [] := by
  cases e with
  | deliver k piece => exact absurd rfl (h k piece)
  | _ => rfl

/-- A request that was never started hears nothing. -/
theorem Traced.pieces_of_lt (h : Traced s events) (hlt : (s.run events).lastRequest < n)
    (e : Event) : e.pieces (s.run events) n = [] := by
  cases e with
  | deliver k piece =>
    refine if_neg ?_
    rintro ⟨rfl, hsome⟩
    obtain ⟨r, hr⟩ := Option.isSome_iff_exists.mp hsome
    have hle := (h.running _ (mem_running hr)).2.1
    omega
  | _ => rfl

theorem Traced.unheard_concat (h : Traced s events) (e : Event) :
    ∀ n, (s.run (events ++ [e])).lastRequest < n → heard n s (events ++ [e]) = [] := by
  intro n hlt
  rw [run_concat, handle_lastRequest] at hlt
  have hlt : (s.run events).lastRequest < n := by omega
  rw [heard_concat, h.unheard n hlt, h.pieces_of_lt hlt e]
  rfl

theorem Traced.running_concat (h : Traced s events) (e : Event) :
    ∀ r ∈ (s.run (events ++ [e])).work.running, 1 ≤ r.1 ∧
      r.1 ≤ (s.run (events ++ [e])).lastRequest ∧ r.2.2 = heard r.1 s (events ++ [e]) := by
  have hlast := handle_lastRequest (s.run events) e
  -- a request that runs on, with nothing new delivered to it
  have hold : (∀ n piece, e ≠ .deliver n piece) → ∀ r ∈ (s.run events).work.running, 1 ≤ r.1 ∧
      r.1 ≤ ((s.run events).handle e).lastRequest ∧ r.2.2 = heard r.1 s (events ++ [e]) := by
    intro hdeliver r hr
    obtain ⟨hone, hle, hparts⟩ := h.running r hr
    refine ⟨hone, by omega, ?_⟩
    rw [heard_concat, pieces_eq_nil hdeliver, List.append_nil, hparts]
  have hdoes := handle_work (s.run events) e
  rw [run_concat]
  generalize ((s.run events).handle e).work = w at hdoes
  intro r hr
  cases hdoes with
  | rest _ hdeliver => exact hold hdeliver r hr
  | signal cursor he _ => exact hold (by rcases he with rfl | rfl <;> simp) r hr
  | reset he =>
    rw [Work.running_reset] at hr
    exact hold (by rcases he with rfl | rfl <;> simp) r hr
  | close he =>
    have hr : r ∈ ((s.run events).work.reset _).running := hr
    rw [Work.running_reset] at hr
    exact hold (by simp [he]) r hr
  | lapse he _ _ => exact hold (by simp [he]) r hr
  | elapse he _ _ _ _ _ => exact hold (by simp [he]) r hr
  | conclude he => exact hold (by simp [he]) r (List.mem_filter.mp hr).1
  | @begin id queued asked hstarted hqueued hasked =>
    have hdeliver : ∀ n piece, e ≠ .deliver n piece := by
      rintro n piece rfl
      cases hstarted
    rcases List.mem_append.mp hr with hr | hr
    · exact hold hdeliver r hr
    · rcases hasked with rfl | rfl
      · cases hr
      · -- the new request has a number that nothing was delivered to
        obtain rfl := List.mem_singleton.mp hr
        rw [hstarted] at hlast
        have hnew : (s.run events).lastRequest < (s.run events).lastRequest + 1 := by omega
        refine ⟨by simp, by simp [hlast], ?_⟩
        rw [heard_concat, h.unheard _ hnew, h.pieces_of_lt hnew e]
        rfl
  | @deliver n piece he =>
    subst he
    obtain ⟨old, hmem, rfl⟩ := List.mem_map.mp hr
    obtain ⟨hone, hle, hparts⟩ := h.running old hmem
    rw [handle_lastRequest]
    by_cases heq : old.1 = n
    · have hpieces : (Event.deliver n piece).pieces (s.run events) n = [piece] :=
        if_pos ⟨rfl, heq ▸ request?_isSome hmem⟩
      rw [if_pos heq]
      refine ⟨hone, by dsimp only; omega, ?_⟩
      rw [heard_concat, hparts, heq, hpieces]
    · have hpieces : (Event.deliver n piece).pieces (s.run events) old.1 = [] :=
        if_neg fun hand => heq hand.1.symm
      rw [if_neg heq]
      refine ⟨hone, by omega, ?_⟩
      rw [heard_concat, hparts, hpieces, List.append_nil]

/-- The sets that an event may take over come from the pieces its request heard. -/
theorem Traced.origin_of_offers (h : Traced s events) {k : Int} {answer : Text}
    {rows : List Text} {sets : List SuggestionSet}
    (hoffers : e.offers (s.run events) id k answer rows)
    (hparse : Answer.parse answer rows = .ok sets) :
    ∃ n : Nat, k = n ∧ Origin s id n sets events e := by
  cases e with
  | finish n =>
    obtain ⟨r, hr, hbuffer, hk, hanswer, b, hb, hrows⟩ := hoffers
    refine ⟨n, hk, .answer hr hbuffer (hbuffer ▸ hb) ?_⟩
    have hparts : r.parts = heard n s events := (h.running _ (mem_running hr)).2.2
    rw [← hparts, ← hrows]
    rw [hanswer] at hparse
    exact hparse
  | _ => exact hoffers.elim

theorem Traced.sourced_concat (h : Traced s events) (e : Event) :
    ∀ id c, (s.run (events ++ [e])).context? id = some c → c.phase = .ready →
      ∃ n : Nat, c.request = n ∧ Sourced s id (events ++ [e]) n c.sets := by
  rw [run_concat]
  intro id c hcontext hready
  have hc : (((s.run events).handle e).view id).context = some c := hcontext
  clear hcontext
  have hsees := handle_view (s.run events) e id
  generalize ((s.run events).handle e).view id = v at hsees hc
  cases hsees with
  | drop _ => cases hc
  | change _ _ hchange =>
    have hnumber := hchange.number
    rcases hchange.ready hc hready with ⟨c', hc', hready', hsets⟩ | ⟨answer, rows, hoffers, hparse⟩
    · obtain ⟨n, hn, hsourced⟩ := h.sourced id c' hc' hready'
      rw [View.number, View.number, hc, hc'] at hnumber
      exact ⟨n, hnumber.trans hn, hsets ▸ hsourced.concat e⟩
    · obtain ⟨n, hn, horigin⟩ := h.origin_of_offers hoffers hparse
      exact ⟨n, hn, events, e, [], c.sets, rfl, horigin, .refl, fun _ => rfl⟩
  | enter hstarted hchange =>
    rcases hchange.ready hc hready with ⟨c', hc', hready', _⟩ |
      ⟨answer, rows, ⟨hn, hstored, b, hb, hrows⟩, hparse⟩
    · cases hc'
      cases hready'
    · rw [hrows] at hparse
      exact ⟨_, hn, events, e, [], c.sets, rfl, .cache hstarted rfl hstored hb hparse, .refl,
        fun _ => rfl⟩
  | @cut c₀ c₁ _ he hc₀ hcut hchange =>
    subst he
    have hnumber := hchange.number
    rcases hchange.ready hc hready with ⟨c', hc', hready', hsets⟩ | ⟨_, _, hoffers, _⟩
    · cases hc'
      have hwas : c₀.phase = .ready ∧ c₁.request = c₀.request := by
        cases hcut with
        | mk rows hwas _ _ => exact ⟨hwas, rfl⟩
      obtain ⟨n, hn, hsourced⟩ := h.sourced id c₀ hc₀ hwas.1
      rw [View.number, View.number, hc] at hnumber
      exact ⟨n, hnumber.trans (hwas.2.trans hn), hsets ▸ hsourced.accept hcut⟩
    · exact hoffers.elim

/-- **One event** keeps a session in agreement with its history. -/
theorem Traced.concat (h : Traced s events) (e : Event) : Traced s (events ++ [e]) := by
  refine ⟨fun id => ?_, h.running_concat e, h.unheard_concat e, h.sourced_concat e⟩
  rw [run_concat, newest_concat]
  exact handle_renew (h.number id) e

theorem Traced.append (h : Traced s events) (more : List Event) : Traced s (events ++ more) := by
  induction more generalizing events with
  | nil => rwa [List.append_nil]
  | cons e rest ih =>
    rw [List.append_cons]
    exact ih (h.concat e)

theorem traced_run (h : Fresh s) (events : List Event) : Traced s events :=
  (traced_start h).append events

/-- A number that is not zero is that of the newest request. -/
theorem Traced.newest_eq (h : Traced s events) (hone : 1 ≤ n)
    (hnumber : ((s.run events).view id).number = n) : s.newest id events = some n := by
  rw [h.number id] at hnumber
  cases hnewest : s.newest id events with
  | none =>
    rw [hnewest, Option.getD_none] at hnumber
    omega
  | some m =>
    rw [hnewest, Option.getD_some] at hnumber
    exact congrArg some (Int.ofNat_inj.mp hnumber)

/-- Requests are numbered from one. -/
theorem Origin.one_le (h : Fresh s) {sets : List SuggestionSet} {earlier : List Event}
    (horigin : Origin s id n sets earlier e) : 1 ≤ n := by
  cases horigin with
  | answer hrequest _ _ _ => exact ((traced_run h earlier).running _ (mem_running hrequest)).1
  | cache _ hn _ _ _ => omega

/-- **Only the newest request counts.** After any history, the end or failure of a request that is
not the newest of its buffer moves nothing; and whatever sets are on offer in a buffer were read
from the pieces delivered to its newest request, or from what the cache had for that request, and
only accepted items are missing from them. -/
theorem only_newest_counts (h : Fresh s) (events : List Event) :
    (∀ e n, e.reported? = some n →
        (∀ r, (s.run events).request? n = some r → s.newest r.buffer events ≠ some n) →
        Unmoved (s.run events) ((s.run events).handle e)) ∧
      ∀ id c, (s.run events).context? id = some c → c.phase = .ready →
        ∃ n : Nat, c.request = n ∧ s.newest id events = some n ∧
          ∃ earlier e later read, events = earlier ++ e :: later ∧ Origin s id n read earlier e ∧
            Trimmed read c.sets ∧ (Event.accept id ∉ later → c.sets = read) := by
  have htraced := traced_run h events
  refine ⟨fun e n he hstale => ?_, fun id c hc hready => ?_⟩
  · refine unmoved_of_stale he fun r hr => ?_
    rw [Bool.eq_false_iff]
    intro hcurrent
    obtain ⟨c, hc, hrequest⟩ := exists_of_isCurrent hcurrent
    refine hstale r hr (htraced.newest_eq (htraced.running _ (mem_running hr)).1 ?_)
    rw [view_of_context? hc]
    exact hrequest
  · obtain ⟨n, hn, hsourced⟩ := htraced.sourced id c hc hready
    refine ⟨n, hn, ?_, hsourced⟩
    obtain ⟨_, _, _, _, _, horigin, _, _⟩ := hsourced
    refine htraced.newest_eq (horigin.one_le h) ?_
    rw [view_of_context? hc]
    exact hn

/-- Two requests for one buffer overlap, and the provider delivers to both of them in turn. -/
def overlapping : List Event :=
  [.suggest "notes", .deliver 1 "[".toList, .suggest "notes", .deliver 2 (Answer.sample.take 40),
    .deliver 1 "]".toList, .deliver 2 (Answer.sample.drop 40), .finish 2]

/-- The second one counts, whatever the first one brings. -/
theorem overlapping_counts :
    Fresh (desk .listing) ∧ (desk .listing).newest "notes" overlapping = some 2 ∧
      Unmoved ((desk .listing).run overlapping) ((desk .listing).run (overlapping ++ [.finish 1])) ∧
      ∃ c, ((desk .listing).run overlapping).context? "notes" = some c ∧ c.phase = .ready ∧
        ∃ earlier e later, overlapping = earlier ++ e :: later ∧
          Origin (desk .listing) "notes" 2 c.sets earlier e := by
  have hfresh := fresh_desk .listing
  have hnewest : (desk .listing).newest "notes" overlapping = some 2 := by decide +kernel
  obtain ⟨hstale, hsourced⟩ := only_newest_counts hfresh overlapping
  refine ⟨hfresh, hnewest, ?_, ?_⟩
  · rw [run_concat]
    refine hstale (.finish 1) 1 rfl fun r hr => ?_
    have hbuffer : (((desk .listing).run overlapping).request? 1).map (·.buffer)
        = some "notes" := by decide +kernel
    rw [hr, Option.map_some, Option.some.injEq] at hbuffer
    rw [hbuffer, hnewest]
    decide
  · have hready : (((desk .listing).run overlapping).context? "notes").map (·.phase)
        = some .ready := by decide +kernel
    obtain ⟨c, hc, hphase⟩ := Option.map_eq_some_iff.mp hready
    obtain ⟨n, _, hn, earlier, e, later, read, hsplit, horigin, _, hsame⟩ := hsourced _ c hc hphase
    obtain rfl : n = 2 := Option.some.inj (hn.symm.trans hnewest)
    have hlater : Event.accept "notes" ∉ later := by
      intro hmem
      have hall : Event.accept "notes" ∈ overlapping := by
        rw [hsplit]
        simp [hmem]
      simp [overlapping] at hall
    rw [← hsame hlater] at horigin
    exact ⟨c, hc, hphase, earlier, e, later, hsplit, horigin⟩

end Session

end GhostEdit
