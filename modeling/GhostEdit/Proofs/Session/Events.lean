import GhostEdit.Proofs.Session.Frames

/-!
# Runs of a session

While a session lasts, the host signals edits, timers expire, queued requests start, the provider
delivers, and the user chooses, accepts and dismisses, in any order. An `Event` is one such step and
`Session.run` a whole history. Nothing is said here about who is to act next: an event that makes no
sense at the moment, such as the expiry of a timer that is gone, has no effect.

What happens to the rows of a buffer between two events is up to the host (`Event.write`); it keeps
the overlay, which belongs to the session.

## Main definitions

* `Session.Event`, `Session.handle`, `Session.run`
* `Session.Fresh`: a session in which nothing has happened
* `Session.Event.buffer?`: the buffer that an event is about
* `Session.Event.isEdit`: events that are not about requests
* `Session.Sees`, `Session.Does`: what an event can do to the view of a buffer, and to the work

## Main results

* `Session.handle_view`, `Session.handle_work`: an event does nothing else
* `Session.handle_edits`: most events edit one buffer at most
* `Session.handle_of_none`: an event about no buffer does nothing
* `Session.fresh_new`: a new session is fresh
-/

namespace GhostEdit

namespace Session

/-- What can happen to a session. -/
inductive Event where
  /-- The host signals an edit or a cursor move. -/
  | signal (id : String)
  /-- The host starts to type in a buffer. -/
  | insert (id : String)
  /-- The suggestions of a buffer are dismissed, by the user or because typing ends. -/
  | dismiss (id : String)
  /-- The host closes a buffer. -/
  | close (id : String)
  /-- A timer expires, while an event loop runs or not. -/
  | expire (timer : Nat) (loop : Bool)
  /-- A request that was queued for a buffer starts. -/
  | start (id : String)
  /-- Suggestions are asked for directly. -/
  | suggest (id : String)
  /-- A piece of an answer arrives. -/
  | deliver (request : Nat) (piece : Text)
  /-- An answer is complete. -/
  | finish (request : Nat)
  /-- The provider reports a failure. -/
  | fail (request : Nat) (e : Failure)
  /-- The call of the provider breaks. -/
  | abort (request : Nat) (e : Failure)
  /-- A request is over. -/
  | conclude (request : Nat)
  /-- The context of a buffer is looked up. -/
  | look (id : String)
  | present (id : String)
  | hide (id : String)
  | next (id : String)
  | prev (id : String)
  | accept (id : String)
  /-- The host changes a buffer, or opens one. -/
  | write (id : String) (b : Buffer)
  /-- Time passes. -/
  | clock (now : Seconds)

/-- A timer expires, if it still runs. -/
def expireTimer (s : Session) (timer : Nat) (loop : Bool) : Session :=
  match s.timers.live.find? (·.id = timer) with
  | none => s
  | some t =>
    let rest := s.timers.live.filter (·.id ≠ timer)
    ({ s with timers := { s.timers with live := rest } }.expire loop t.owner).1

/-- A request starts, if one is queued for the buffer. -/
def startQueued (s : Session) (id : String) : Session :=
  if id ∈ s.queued then ({ s with queued := s.queued.erase id }.begin id).1 else s

/-- The session after an event, whether or not what was asked for could be done. -/
def handle (s : Session) : Event → Session
  | .signal id => (s.editSignal id).1
  | .insert id => (s.insertEnter id).1
  | .dismiss id => s.dismiss id
  | .close id => s.close id
  | .expire timer loop => s.expireTimer timer loop
  | .start id => s.startQueued id
  | .suggest id => (s.begin id).1
  | .deliver request piece => s.deliver request piece
  | .finish request => (s.finish request).1
  | .fail request e => (s.fail request e).1
  | .abort request e => (s.abort request e).1
  | .conclude request => (s.conclude request).1
  | .look id => s.touch id
  | .present id => (s.present id).1
  | .hide id => s.hide id
  | .next id => (s.next id).1
  | .prev id => (s.prev id).1
  | .accept id => (s.accept id).1
  | .write id b => { s with buffers := s.buffers.put id { b with overlay := s.overlay id } }
  | .clock now => { s with now }

/-- The session after a history. -/
def run (s : Session) (events : List Event) : Session := events.foldl handle s

theorem run_concat (s : Session) (events : List Event) (e : Event) :
    s.run (events ++ [e]) = (s.run events).handle e :=
  List.foldl_append

/-- What holds at first and is kept by every event holds after every history. -/
theorem run_induction {P : Session → Prop} {s : Session} (hstart : P s)
    (hstep : ∀ t e, P t → P (t.handle e)) (events : List Event) : P (s.run events) := by
  induction events generalizing s with
  | nil => exact hstart
  | cons e rest ih => exact ih (hstep s e hstart)

/-! ## Where a run starts -/

/-- A session in which nothing has happened. -/
structure Fresh (s : Session) : Prop where
  contexts : s.contexts = []
  controllers : s.controllers = []
  timers : s.timers.live = []
  queued : s.queued = []
  requests : s.requests = []
  lastRequest : s.lastRequest = 0
  board : s.board.marks = []
  overlay : ∀ id, s.overlay id = []

/-- **A new session is fresh**, over any buffers in which nothing is drawn. -/
theorem fresh_new {settings : Settings} {provider : String} {now : Seconds} {s : Session}
    (hnew : Session.new settings provider now = .ok s) {buffers : Buffers}
    (hbuffers : ∀ id b, buffers.get? id = some b → b.overlay = []) (rules : Option IgnoreRules)
    (directory : Path) : Fresh { s with buffers, rules, directory } := by
  obtain ⟨metrics, _, hnew⟩ := bind_eq_ok hnew
  cases hnew
  refine ⟨rfl, rfl, rfl, rfl, rfl, rfl, rfl, fun id => ?_⟩
  show ((buffers.get? id).map (·.overlay)).getD [] = []
  cases hget : buffers.get? id with
  | none => rfl
  | some b => exact hbuffers id b hget

/-- A new session over a document of two rows, with the cursor after the first character and timers
of the given kind. -/
def desk (host : Host) : Session :=
  { (Session.new default "local" .zero).toOption.getD default with
    buffers :=
      ⟨[("notes",
        { lines := [['a'], ['b']].map Value.str, cursor := .at 1 1, mode := insertMode })]⟩
    timers := { host } }

theorem fresh_desk (host : Host) : Fresh (desk host) := by
  refine ⟨rfl, rfl, rfl, rfl, rfl, rfl, rfl, fun id => ?_⟩
  rw [overlay]
  by_cases hid : id = "notes"
  · rw [hid]
    rfl
  · have hnone : (desk host).buffers.get? id = none := by
      show List.lookup id [("notes", _)] = none
      rw [Registry.lookup_entry, if_neg hid]
      rfl
    rw [hnone]
    rfl

variable {s t : Session} {id other : String} {e : Event}

theorem Fresh.view (h : Fresh s) (id : String) : s.view id = .blank := by
  rw [Session.view, h.overlay, context?, h.contexts, drawn, h.board]
  rfl

/-! ## What an event does to a view -/

/-- The buffer for which an event starts a request. -/
def Event.started? (s : Session) : Event → Option String
  | .suggest id => some id
  | .start id => if id ∈ s.queued then some id else none
  | _ => none

/-- The buffer that an event dismisses. -/
def Event.dismissed? : Event → Option String
  | .dismiss id => some id
  | .close id => some id
  | _ => none

theorem Event.started?_of_dismissed? (h : e.dismissed? = some id) : e.started? s = none := by
  cases e with
  | dismiss _ => rfl
  | close _ => rfl
  | _ => cases h

/-- The answers that an event may take over for a buffer. -/
def Event.offers (s : Session) (id : String) : Event → Int → Text → List Text → Prop
  | .finish n => fun k answer rows =>
    ∃ r, s.request? n = some r ∧ r.buffer = id ∧ s.answers n r k answer rows
  | _ => nothing

/-- What an event can do to the view of a buffer. -/
inductive Sees (s : Session) (e : Event) (id : String) : View → Prop
  | change {v : View} (hstarted : e.started? s ≠ some id) (hdismissed : e.dismissed? ≠ some id)
      (h : View.Change (e.offers s id) (s.view id) v) : Sees s e id v
  | enter {v : View} (hstarted : e.started? s = some id)
      (h : View.Change (s.recalls id) ((s.view id).enter (s.lastRequest + 1)) v) : Sees s e id v
  | drop (h : e.dismissed? = some id ∨ e = .accept id) : Sees s e id .blank
  | cut {c c' : Context} {v : View} (he : e = .accept id) (hc : s.context? id = some c)
      (hcut : Cut c c') (h : View.Change nothing ⟨some c', [], []⟩ v) : Sees s e id v

theorem sees_of_eq (hstarted : e.started? s ≠ some id) (hdismissed : e.dismissed? ≠ some id)
    {v : View} (h : v = s.view id) : Sees s e id v := by
  rw [h]
  exact .change hstarted hdismissed (.refl _)

theorem sees_still (hstarted : e.started? s = none) (hdismissed : e.dismissed? = none) {v : View}
    (h : v = s.view id) : Sees s e id v :=
  sees_of_eq (by simp [hstarted]) (by simp [hdismissed]) h

/-- An event that keeps to one buffer, in which it neither starts a request nor drops anything. -/
theorem sees_of_changes (e : Event) (hstarted : e.started? s = none)
    (hdismissed : e.dismissed? = none) {offers : Int → Text → List Text → Prop}
    (h : Changes other offers s t)
    (hoffers : ∀ n answer rows, offers n answer rows → e.offers s other n answer rows)
    (id : String) : Sees s e id (t.view id) := by
  have hnot : e.started? s ≠ some id := by simp [hstarted]
  have hkept : e.dismissed? ≠ some id := by simp [hdismissed]
  by_cases heq : id = other
  · rw [heq] at hnot hkept ⊢
    exact .change hnot hkept (h.here.mono hoffers)
  · exact sees_of_eq hnot hkept (h.elsewhere id heq)

/-- A new controller has no timer. -/
theorem timer_of_new {interval throttle tolerance : Value} {d : Debounce}
    (h : Debounce.new interval throttle tolerance = .ok d) : d.timer = none := by
  obtain ⟨_, _, h⟩ := bind_eq_ok h
  dsimp only at h
  split at h
  · cases h
    rfl
  · obtain ⟨_, _, h⟩ := bind_eq_ok h
    cases h
    rfl

/-- The work after a signal reached the controller `d` of a buffer. -/
def Work.signal (w : Work) (id : String) (d : Debounce) (cursor : Cursor) : Work :=
  { w with
    controllers := w.controllers.put id (d.signal w.timers id cursor).1
    timers := (d.signal w.timers id cursor).2.1 }

/-- The controller that a signal reaches: the one of the buffer, or a new one. -/
def Work.Reaches (w : Work) (id : String) (d : Debounce) : Prop :=
  w.controllers.lookup id = some d ∨ w.controllers.lookup id = none ∧ d.timer = none

theorem reaches_of_controller {d : Debounce} (h : s.controller id = .ok d) :
    s.work.Reaches id d := by
  rw [controller] at h
  split at h
  · next hd =>
    cases h
    exact .inl hd
  · next hnone => exact .inr ⟨hnone, timer_of_new h⟩

theorem startTimer_effect (s : Session) (id : String) (cursor : Cursor) :
    (∀ other, (s.startTimer id cursor).1.view other = s.view other) ∧
      ((s.startTimer id cursor).1.work = s.work ∨
        ∃ d, s.work.Reaches id d ∧
          (s.startTimer id cursor).1.work = s.work.signal id d cursor) := by
  rw [startTimer]
  split
  · exact ⟨fun _ => rfl, .inl rfl⟩
  · next d hd => exact ⟨fun _ => rfl, .inr ⟨d, reaches_of_controller hd, rfl⟩⟩

/-- **A signal** notes the rows in the context of its buffer, and may start the timer. -/
theorem editSignal_effect (s : Session) (id : String) :
    ∃ t, Changes id nothing s t ∧
      (∀ other, (s.editSignal id).1.view other = t.view other) ∧
      ((s.editSignal id).1.work = s.work ∨
        ∃ d cursor, s.work.Reaches id d ∧
          (s.editSignal id).1.work = s.work.signal id d cursor) := by
  have hasked := quiet_shouldTrigger s id
  rw [editSignal]
  split
  · next heq =>
    rw [heq] at hasked
    exact ⟨_, hasked.changes, fun _ => rfl, .inl hasked.work⟩
  · next heq =>
    rw [heq] at hasked
    exact ⟨_, hasked.changes, fun _ => rfl, .inl hasked.work⟩
  · next m heq =>
    rw [heq] at hasked
    split
    · exact ⟨_, hasked.changes, fun _ => rfl, .inl hasked.work⟩
    · next b _ =>
      have htouched : Changes id nothing s (m.touch id) := hasked.changes.trans (changes_touch m id)
      rw [noteEdit]
      split
      · exact ⟨_, htouched, fun _ => rfl, .inl htouched.work⟩
      · have hcontext : (m.touch id).context? id = some ((m.touch id).context id) := by
          rw [context, context?_touch, Option.getD_some]
        have hnoted := htouched.trans (changes_setContext hcontext (.note _ b.lines))
        obtain ⟨hview, hwork⟩ := startTimer_effect ((m.touch id).setContext id
          { (m.touch id).context id with previous := some b.lines }) id b.cursor
        refine ⟨_, hnoted, hview, ?_⟩
        rw [hnoted.work] at hwork
        rcases hwork with hwork | ⟨d, hd, hwork⟩
        · exact .inl hwork
        · exact .inr ⟨d, b.cursor, hd, hwork⟩

/-- Without a signal to go by, a timer that expires has no effect. -/
theorem expire_of_forgotten {d : Debounce} (h : d.lastCursor = none) (now : Seconds)
    (look : Option (Except Failure Cursor)) : (d.expire now look).2.1 = .ok none := by
  rw [Debounce.expire]
  dsimp only
  rw [h]

theorem expire_frame (d : Debounce) (now : Seconds) (look : Option (Except Failure Cursor)) :
    (d.expire now look).1.timer = none ∧ (d.expire now look).1.lastCursor = d.lastCursor := by
  rw [Debounce.expire]
  dsimp only
  split
  · next h => exact ⟨rfl, rfl⟩
  · next h =>
    split
    · exact ⟨rfl, rfl⟩
    · exact ⟨rfl, rfl⟩
    · split
      · exact ⟨rfl, rfl⟩
      · split
        · exact ⟨rfl, rfl⟩
        · exact ⟨rfl, rfl⟩

/-- The work after a timer of a buffer expired, with the controller as it then is. -/
def Work.elapse (w : Work) (id : String) (d : Debounce) (rest : List Timer)
    (queued : List String) : Work :=
  { w with
    controllers := w.controllers.put id d, timers := { w.timers with live := rest }, queued }

theorem debounced_effect (s : Session) (loop : Bool) (id : String) :
    (∀ other, (s.debounced loop id).1.view other = s.view other) ∧
      ((s.debounced loop id).1.work = s.work ∨
        (s.debounced loop id).1.work = { s.work with queued := s.queued ++ [id] }) := by
  have hasked := quiet_shouldTrigger s id
  rw [debounced]
  split
  · next heq =>
    rw [heq] at hasked
    exact ⟨hasked.view, .inl hasked.work⟩
  · next heq =>
    rw [heq] at hasked
    exact ⟨hasked.view, .inl hasked.work⟩
  · next m heq =>
    rw [heq] at hasked
    split
    · refine ⟨hasked.view, .inr ?_⟩
      rw [← hasked.work]
      show _ = { m.work with queued := s.work.queued ++ [id] }
      rw [← hasked.work]
      rfl
    · exact ⟨hasked.view, .inl hasked.work⟩

/-- **A timer that expires** changes no view. Its controller has no timer any more, and a request is
queued only if there is a signal to go by. -/
theorem expire_effect (s : Session) (loop : Bool) (id : String) :
    (∀ other, (s.expire loop id).1.view other = s.view other) ∧
      ((s.controllers.lookup id = none ∧ (s.expire loop id).1.work = s.work) ∨
        ∃ d d' queued, s.controllers.lookup id = some d ∧ d'.timer = none ∧
          d'.lastCursor = d.lastCursor ∧
          (queued = s.queued ∨ d.lastCursor ≠ none ∧ queued = s.queued ++ [id]) ∧
          (s.expire loop id).1.work = s.work.elapse id d' s.timers.live queued) := by
  rw [expire]
  split
  · next hnone => exact ⟨fun _ => rfl, .inl ⟨hnone, rfl⟩⟩
  · next d hd =>
    have hframe := expire_frame d s.now (some ((s.buffers.get id).map (·.cursor)))
    have hforgotten := fun h =>
      expire_of_forgotten (d := d) h s.now (some ((s.buffers.get id).map (·.cursor)))
    dsimp only
    generalize d.expire s.now (some ((s.buffers.get id).map (·.cursor))) = result
      at hframe hforgotten ⊢
    obtain ⟨d', outcome, records⟩ := result
    obtain ⟨htimer, hcursor⟩ := hframe
    dsimp only
    split
    · exact ⟨fun _ => rfl, .inr ⟨d, d', _, hd, htimer, hcursor, .inl rfl, rfl⟩⟩
    · exact ⟨fun _ => rfl, .inr ⟨d, d', _, hd, htimer, hcursor, .inl rfl, rfl⟩⟩
    · obtain ⟨hview, hwork⟩ := debounced_effect
        (({ s with controllers := s.controllers.put id d' } : Session).noteRecords records) loop id
      refine ⟨hview, .inr ?_⟩
      rcases hwork with hwork | hwork
      · exact ⟨d, d', _, hd, htimer, hcursor, .inl rfl, hwork⟩
      · refine ⟨d, d', _, hd, htimer, hcursor, .inr ⟨fun hnone => ?_, rfl⟩, hwork⟩
        have hcontra := hforgotten hnone
        cases hcontra

theorem startQueued_of_mem (h : id ∈ s.queued) :
    s.startQueued id = (({ s with queued := s.queued.erase id } : Session).begin id).1 := by
  rw [startQueued, if_pos h]

theorem startQueued_of_notMem (h : id ∉ s.queued) : s.startQueued id = s := by
  rw [startQueued, if_neg h]

/-! ## What an event does to a view -/

theorem expireTimer_view (s : Session) (timer : Nat) (loop : Bool) (id : String) :
    (s.expireTimer timer loop).view id = s.view id := by
  rw [expireTimer]
  split
  · rfl
  · exact (expire_effect _ loop _).1 id

theorem sees_begin (e : Event) (queued : List String) (hstarted : e.started? s = some other)
    (hdismissed : e.dismissed? = none) (id : String) :
    Sees s e id ((({ s with queued } : Session).begin other).1.view id) := by
  obtain ⟨hhere, helsewhere, _⟩ := begin_view { s with queued } other
  by_cases heq : id = other
  · rw [heq]
    exact .enter hstarted hhere
  · refine sees_of_eq ?_ (by simp [hdismissed]) (helsewhere id heq)
    rw [hstarted]
    exact fun h => heq (Option.some.inj h).symm

theorem sees_of_drops (e : Event) (hdismissed : e.dismissed? = some other)
    (h : Drops other s t) (id : String) : Sees s e id (t.view id) := by
  by_cases heq : id = other
  · rw [heq, h.here]
    exact .drop (.inl hdismissed)
  · refine sees_of_eq ?_ ?_ (h.elsewhere id heq)
    · simp [Event.started?_of_dismissed? hdismissed]
    · rw [hdismissed]
      exact fun h => heq (Option.some.inj h).symm

theorem sees_fail (e : Event) (hstarted : e.started? s = none) (hdismissed : e.dismissed? = none)
    (n : Nat) (f : Failure) (id : String) : Sees s e id ((s.fail n f).1.view id) := by
  cases hr : s.request? n with
  | none =>
    rw [fail, hr]
    exact sees_still hstarted hdismissed rfl
  | some r =>
    have hchanges : Changes r.buffer nothing s _ := changes_fail hr f
    exact sees_of_changes e hstarted hdismissed hchanges (fun _ _ _ h => h.elim) id

/-- **What an event does to the view of a buffer.** -/
theorem handle_view (s : Session) (e : Event) (id : String) :
    Sees s e id ((s.handle e).view id) := by
  have hchange : ∀ {other : String} {t : Session}, e.started? s = none → e.dismissed? = none →
      Changes other nothing s t → Sees s e id (t.view id) :=
    fun hstarted hdismissed h =>
      sees_of_changes e hstarted hdismissed h (fun _ _ _ h => h.elim) id
  cases e with
  | signal other =>
    obtain ⟨t, hchanges, hview, _⟩ := editSignal_effect s other
    show Sees s _ id ((s.editSignal other).1.view id)
    rw [hview]
    exact hchange rfl rfl hchanges
  | insert other =>
    show Sees s _ id ((s.insertEnter other).1.view id)
    rw [insertEnter]
    split
    · exact sees_still rfl rfl rfl
    · obtain ⟨t, hchanges, hview, _⟩ := editSignal_effect s other
      rw [hview]
      exact hchange rfl rfl hchanges
  | dismiss other => exact sees_of_drops _ rfl (drops_dismiss s other) id
  | close other => exact sees_of_drops (.close other) rfl (drops_dismiss s other) id
  | expire timer loop => exact sees_still rfl rfl (expireTimer_view s timer loop id)
  | start other =>
    show Sees s _ id ((s.startQueued other).view id)
    by_cases hmem : other ∈ s.queued
    · rw [startQueued_of_mem hmem]
      exact sees_begin (.start other) _ (if_pos hmem) rfl id
    · rw [startQueued_of_notMem hmem]
      exact sees_still (e := .start other) (if_neg hmem) rfl rfl
  | suggest other => exact sees_begin (.suggest other) s.queued rfl rfl id
  | deliver n piece => exact sees_still rfl rfl rfl
  | finish n =>
    show Sees s _ id ((s.finish n).1.view id)
    cases hr : s.request? n with
    | none =>
      rw [finish, hr]
      exact sees_still rfl rfl rfl
    | some r =>
      exact sees_of_changes (.finish n) rfl rfl (changes_finish hr)
        (fun _ _ _ hanswers => ⟨r, hr, rfl, hanswers⟩) id
  | fail n e => exact sees_fail (.fail n e) rfl rfl n e id
  | abort n e => exact sees_fail (.abort n e) rfl rfl n _ id
  | conclude n => exact sees_still rfl rfl rfl
  | look other => exact hchange rfl rfl (changes_touch s other)
  | present other => exact hchange rfl rfl (changes_present s other)
  | hide other => exact hchange rfl rfl (changes_hide s other)
  | next other => exact hchange rfl rfl (changes_rotate s other 1)
  | prev other => exact hchange rfl rfl (changes_rotate s other (-1))
  | accept other =>
    show Sees s _ id ((s.accept other).1.view id)
    rcases accept_view s other with h | h | h
    · exact hchange rfl rfl h
    · by_cases heq : id = other
      · obtain ⟨c, c', hc, hcut, hview⟩ := h.here
        rw [heq]
        exact .cut rfl hc hcut hview
      · exact sees_still rfl rfl (h.elsewhere id heq)
    · by_cases heq : id = other
      · rw [heq, h.here]
        exact .drop (.inr rfl)
      · exact sees_still rfl rfl (h.elsewhere id heq)
  | write other b => exact sees_still rfl rfl ((quiet_putBuffer rfl).view id)
  | clock now => exact sees_still rfl rfl rfl

/-- The number of the newest request is that of the request an event starts; else it stays, or the
buffer is dropped. -/
theorem handle_number (s : Session) (e : Event) (id : String) :
    e.started? s = some id ∧ ((s.handle e).view id).number = s.lastRequest + 1 ∨
      e.started? s ≠ some id ∧ (((s.handle e).view id).number = (s.view id).number ∨
        ((s.handle e).view id).number = 0) := by
  have hsees := handle_view s e id
  generalize (s.handle e).view id = v at hsees
  cases hsees with
  | change hstarted _ h => exact .inr ⟨hstarted, .inl h.number⟩
  | enter hstarted h => exact .inl ⟨hstarted, h.number⟩
  | drop h =>
    refine .inr ⟨?_, .inr rfl⟩
    rcases h with h | rfl
    · simp [Event.started?_of_dismissed? h]
    · simp [Event.started?]
  | cut he hc hcut h =>
    subst he
    refine .inr ⟨by simp [Event.started?], .inl (h.number.trans ?_)⟩
    rw [view_of_context? hc]
    cases hcut
    rfl

/-! ## What an event does to the work -/

/-- A request that runs is among the work. -/
theorem mem_running {n : Nat} {r : Request} (h : s.request? n = some r) :
    (n, r.buffer, r.parts) ∈ s.work.running := by
  have hid : r.id = n := by simpa using List.find?_some h
  rw [← hid]
  exact List.mem_map_of_mem (List.mem_of_find?_eq_some h)

theorem request?_isSome {r : Nat × String × List Text} (h : r ∈ s.work.running) :
    (s.request? r.1).isSome = true := by
  obtain ⟨request, hmem, rfl⟩ := List.mem_map.mp h
  rw [request?, List.find?_isSome]
  exact ⟨request, hmem, by simp [Request.core]⟩

/-- What an event can do to the work of a session. -/
inductive Does (s : Session) (e : Event) : Work → Prop
  | rest (hstarted : e.started? s = none) (hdeliver : ∀ n piece, e ≠ .deliver n piece) :
      Does s e s.work
  | signal {id : String} {d : Debounce} (cursor : Cursor) (he : e = .signal id ∨ e = .insert id)
      (hd : s.work.Reaches id d) : Does s e (s.work.signal id d cursor)
  | reset {id : String} (he : e = .dismiss id ∨ e = .accept id) : Does s e (s.work.reset id)
  | close {id : String} (he : e = .close id) :
      Does s e { s.work.reset id with controllers := (s.work.reset id).controllers.erase id }
  /-- A timer expires whose controller is gone. -/
  | lapse {t : Timer} {loop : Bool} (he : e = .expire t.id loop) (ht : t ∈ s.timers.live)
      (hnone : s.controllers.lookup t.owner = none) :
      Does s e { s.work with
        timers := { s.timers with live := s.timers.live.filter (·.id ≠ t.id) } }
  | elapse {t : Timer} {loop : Bool} {d d' : Debounce} {queued : List String}
      (he : e = .expire t.id loop) (ht : t ∈ s.timers.live)
      (hd : s.controllers.lookup t.owner = some d) (htimer : d'.timer = none)
      (hcursor : d'.lastCursor = d.lastCursor)
      (hqueued : queued = s.queued ∨ d.lastCursor ≠ none ∧ queued = s.queued ++ [t.owner]) :
      Does s e (s.work.elapse t.owner d' (s.timers.live.filter (·.id ≠ t.id)) queued)
  | begin {id : String} {queued : List String} {asked : List (Nat × String × List Text)}
      (hstarted : e.started? s = some id)
      (hqueued : queued = s.queued ∨ queued = s.queued.erase id)
      (hasked : asked = [] ∨ asked = [(s.lastRequest + 1, id, [])]) :
      Does s e { s.work with
        queued, lastRequest := s.lastRequest + 1, running := s.work.running ++ asked }
  | deliver {n : Nat} {piece : Text} (he : e = .deliver n piece) :
      Does s e { s.work with
        running := s.work.running.map fun r =>
          if r.1 = n then (r.1, r.2.1, r.2.2 ++ [piece]) else r }
  | conclude {n : Nat} (he : e = .conclude n) :
      Does s e { s.work with running := s.work.running.filter (·.1 ≠ n) }

theorem does_begin (e : Event) {queued : List String} (hstarted : e.started? s = some id)
    (hqueued : queued = s.queued ∨ queued = s.queued.erase id) :
    Does s e (({ s with queued } : Session).begin id).1.work := by
  obtain ⟨_, _, asked, hwork, hasked⟩ := begin_view { s with queued } id
  rw [hwork]
  exact .begin hstarted hqueued hasked

theorem work_deliver (s : Session) (n : Nat) (piece : Text) :
    (s.deliver n piece).work = { s.work with
      running := s.work.running.map fun r =>
        if r.1 = n then (r.1, r.2.1, r.2.2 ++ [piece]) else r } := by
  have hcore : (s.deliver n piece).requests.map Request.core
      = (s.requests.map Request.core).map fun r =>
          if r.1 = n then (r.1, r.2.1, r.2.2 ++ [piece]) else r := by
    rw [deliver, changeRequest, List.map_map, List.map_map]
    refine List.map_congr_left fun r _ => ?_
    show (if r.id = n then { r with parts := r.parts ++ [piece] } else r : Request).core
      = if r.id = n then (r.id, r.buffer, r.parts ++ [piece]) else r.core
    split <;> rfl
  rw [work, hcore]
  rfl

theorem work_conclude (s : Session) (n : Nat) :
    (s.conclude n).1.work = { s.work with running := s.work.running.filter (·.1 ≠ n) } := by
  have hcore : (s.requests.map Request.core).filter (·.1 ≠ n)
      = (s.requests.filter (·.id ≠ n)).map Request.core := List.filter_map
  show Work.mk _ _ _ _ ((s.requests.filter (·.id ≠ n)).map Request.core) = _
  rw [← hcore]
  rfl

theorem work_fail (s : Session) (n : Nat) (e : Failure) : (s.fail n e).1.work = s.work := by
  cases hr : s.request? n with
  | none => rw [fail, hr]
  | some r =>
    have hchanges : Changes r.buffer nothing s _ := changes_fail hr e
    exact hchanges.work

/-- **What an event does to the work.** -/
theorem handle_work (s : Session) (e : Event) : Does s e (s.handle e).work := by
  by_cases hdelivered : ∃ n piece, e = .deliver n piece
  · obtain ⟨n, piece, rfl⟩ := hdelivered
    show Does s _ (s.deliver n piece).work
    rw [work_deliver]
    exact .deliver rfl
  have hdeliver : ∀ n piece, e ≠ .deliver n piece := fun n piece he => hdelivered ⟨n, piece, he⟩
  have hrest : ∀ {t : Session}, e.started? s = none → t.work = s.work → Does s e t.work := by
    intro t hstarted h
    rw [h]
    exact .rest hstarted hdeliver
  have hchange : ∀ {other : String} {t : Session}, e.started? s = none →
      Changes other nothing s t → Does s e t.work :=
    fun hstarted h => hrest hstarted h.work
  cases e with
  | signal other =>
    show Does s _ (s.editSignal other).1.work
    obtain ⟨t, _, _, hwork⟩ := editSignal_effect s other
    rcases hwork with hwork | ⟨d, cursor, hd, hwork⟩
    · exact hrest rfl hwork
    · rw [hwork]
      exact .signal cursor (.inl rfl) hd
  | insert other =>
    show Does s _ (s.insertEnter other).1.work
    rw [insertEnter]
    split
    · exact .rest rfl hdeliver
    · obtain ⟨t, _, _, hwork⟩ := editSignal_effect s other
      rcases hwork with hwork | ⟨d, cursor, hd, hwork⟩
      · exact hrest rfl hwork
      · rw [hwork]
        exact .signal cursor (.inr rfl) hd
  | dismiss other =>
    show Does s _ (s.dismiss other).work
    rw [(drops_dismiss s other).work]
    exact .reset (.inl rfl)
  | close other =>
    show Does s _ { (s.dismiss other).work with
      controllers := (s.dismiss other).work.controllers.erase other }
    rw [(drops_dismiss s other).work]
    exact .close rfl
  | expire timer loop =>
    show Does s _ (s.expireTimer timer loop).work
    rw [expireTimer]
    split
    · exact .rest rfl hdeliver
    · next t ht =>
      have hmem : t ∈ s.timers.live := List.mem_of_find?_eq_some ht
      obtain rfl : t.id = timer := by simpa using List.find?_some ht
      rcases (expire_effect _ loop t.owner).2 with ⟨hnone, hwork⟩ |
        ⟨d, d', queued, hd, htimer, hcursor, hqueued, hwork⟩
      · rw [hwork]
        exact .lapse rfl hmem hnone
      · rw [hwork]
        exact .elapse rfl hmem hd htimer hcursor hqueued
  | start other =>
    show Does s _ (s.startQueued other).work
    by_cases hmem : other ∈ s.queued
    · rw [startQueued_of_mem hmem]
      exact does_begin (.start other) (if_pos hmem) (.inr rfl)
    · rw [startQueued_of_notMem hmem]
      exact .rest (if_neg hmem) hdeliver
  | suggest other => exact does_begin (.suggest other) rfl (.inl rfl)
  | deliver n piece => exact absurd rfl (hdeliver n piece)
  | finish n =>
    show Does s _ (s.finish n).1.work
    cases hr : s.request? n with
    | none =>
      rw [finish, hr]
      exact .rest rfl hdeliver
    | some r => exact hrest rfl (changes_finish hr).work
  | fail n e => exact hrest rfl (work_fail s n e)
  | abort n e => exact hrest rfl (work_fail s n _)
  | conclude n =>
    show Does s _ (s.conclude n).1.work
    rw [work_conclude]
    exact .conclude rfl
  | look other => exact hchange rfl (changes_touch s other)
  | present other => exact hchange rfl (changes_present s other)
  | hide other => exact hchange rfl (changes_hide s other)
  | next other => exact hchange rfl (changes_rotate s other 1)
  | prev other => exact hchange rfl (changes_rotate s other (-1))
  | accept other =>
    show Does s _ (s.accept other).1.work
    rcases accept_view s other with h | h | h
    · exact hchange rfl h
    · exact hrest rfl h.work
    · rw [h.work]
      exact .reset (.inr rfl)
  | write other b => exact hrest rfl rfl
  | clock now => exact hrest rfl rfl

/-- The number of the last request goes up by one when a request starts, and never else. -/
theorem handle_lastRequest (s : Session) (e : Event) :
    (s.handle e).lastRequest = s.lastRequest + if (e.started? s).isSome then 1 else 0 := by
  show (s.handle e).work.lastRequest = _
  have hdoes := handle_work s e
  generalize (s.handle e).work = w at hdoes
  cases hdoes with
  | begin hstarted _ _ => simp [hstarted]
  | rest hstarted _ =>
    simp [hstarted]
    rfl
  | signal cursor he _ => rcases he with rfl | rfl <;> rfl
  | reset he => rcases he with rfl | rfl <;> exact Work.lastRequest_reset _ _
  | close he => subst he; exact Work.lastRequest_reset _ _
  | lapse he _ _ => subst he; rfl
  | elapse he _ _ _ _ _ => subst he; rfl
  | deliver he => subst he; rfl
  | conclude he => subst he; rfl

/-! ## What an event leaves alone -/

/-- The buffer that an event is about. An expiry is about the buffer of the timer, and what a
provider reports about that of the request; an event whose timer or request is gone is about none,
and neither is the clock. -/
def Event.buffer? (s : Session) : Event → Option String
  | .signal id | .insert id | .dismiss id | .close id | .start id | .suggest id => some id
  | .look id | .present id | .hide id | .next id | .prev id | .accept id => some id
  | .write id _ => some id
  | .expire timer _ => (s.timers.live.find? (·.id = timer)).map Timer.owner
  | .deliver n _ | .finish n | .fail n _ | .abort n _ | .conclude n =>
    (s.request? n).map Request.buffer
  | .clock _ => none

theorem Event.buffer?_of_started? (h : e.started? s = some id) : e.buffer? s = some id := by
  cases e with
  | suggest other => exact h
  | start other =>
    rw [started?] at h
    split at h
    · exact h
    · cases h
  | _ => cases h

/-- Whether an event neither starts a request nor changes one that runs, nor moves the clock. -/
def Event.isEdit : Event → Bool
  | .start _ | .suggest _ | .deliver _ _ | .finish _ | .conclude _ | .clock _ => false
  | _ => true

/-- **An event about no buffer does nothing**, unless time passes. -/
theorem handle_of_none (h : e.buffer? s = none) (hclock : ∀ now, e ≠ .clock now) :
    s.handle e = s := by
  have hgone : ∀ {n : Nat}, (s.request? n).map Request.buffer = none →
      s.request? n = none ∧ ∀ r ∈ s.requests, r.id ≠ n := by
    intro n hn
    have hnone : s.request? n = none := Option.map_eq_none_iff.mp hn
    refine ⟨hnone, fun r hr heq => ?_⟩
    exact absurd (decide_eq_true heq) (List.find?_eq_none.mp hnone r hr)
  cases e with
  | expire timer loop =>
    have hnone : s.timers.live.find? (·.id = timer) = none := Option.map_eq_none_iff.mp h
    show s.expireTimer timer loop = s
    rw [expireTimer, hnone]
  | deliver n piece =>
    show { s with requests := s.requests.map _ } = s
    have hsame : s.requests.map (fun r =>
        if r.id = n then { r with parts := r.parts ++ [piece] } else r) = s.requests :=
      (List.map_congr_left fun r hr => if_neg ((hgone h).2 r hr)).trans (List.map_id _)
    rw [hsame]
  | finish n =>
    show (s.finish n).1 = s
    rw [finish, (hgone h).1]
  | fail n f =>
    show (s.fail n f).1 = s
    rw [fail, (hgone h).1]
  | abort n f =>
    show (s.fail n _).1 = s
    rw [fail, (hgone h).1]
  | conclude n =>
    show { s with requests := s.requests.filter (·.id ≠ n) } = s
    have hsame : s.requests.filter (·.id ≠ n) = s.requests :=
      List.filter_eq_self.mpr fun r hr => decide_eq_true ((hgone h).2 r hr)
    rw [hsame]
  | clock now => exact absurd rfl (hclock now)
  | _ => cases h

/-- **Most events edit one buffer at most.** -/
theorem handle_edits (hedit : e.isEdit = true) (h : e.buffer? s = some id) :
    Edits id s (s.handle e) := by
  cases e with
  | signal other =>
    cases h
    exact (drawsOnly_editSignal s id).edits
  | insert other =>
    cases h
    show Edits id s (s.insertEnter id).1
    rw [insertEnter]
    split
    · exact (DrawsOnly.refl s).edits
    · exact (drawsOnly_editSignal s id).edits
  | dismiss other =>
    cases h
    exact edits_dismiss s id
  | close other =>
    cases h
    have hforgotten : DrawsOnly id (s.dismiss id)
        { s.dismiss id with controllers := (s.dismiss id).controllers.erase id } :=
      drawsOnly_of_eq rfl rfl rfl rfl
    exact (edits_dismiss s id).trans hforgotten.edits
  | expire timer loop =>
    obtain ⟨t, ht, rfl⟩ := Option.map_eq_some_iff.mp h
    have hstopped : ∀ live, DrawsOnly t.owner s { s with timers := { s.timers with live } } :=
      fun _ => drawsOnly_of_eq rfl rfl rfl rfl
    show Edits t.owner s (s.expireTimer timer loop)
    rw [expireTimer, ht]
    exact ((hstopped _).trans (drawsOnly_expire ..)).edits
  | fail n f =>
    obtain ⟨r, hr, rfl⟩ := Option.map_eq_some_iff.mp h
    exact (drawsOnly_fail hr f).edits
  | abort n f =>
    obtain ⟨r, hr, rfl⟩ := Option.map_eq_some_iff.mp h
    exact (drawsOnly_fail hr _).edits
  | look other =>
    cases h
    exact (drawsOnly_touch s id).edits
  | present other =>
    cases h
    exact (drawsOnly_present s id).edits
  | hide other =>
    cases h
    exact (drawsOnly_hide s id).edits
  | next other =>
    cases h
    exact (drawsOnly_rotate s id 1).edits
  | prev other =>
    cases h
    exact (drawsOnly_rotate s id (-1)).edits
  | accept other =>
    cases h
    exact edits_accept s id
  | write other b =>
    cases h
    exact edits_put s _
  | _ => cases hedit

theorem exists_edits (s : Session) (hedit : e.isEdit = true) : ∃ id, Edits id s (s.handle e) := by
  cases h : e.buffer? s with
  | some id => exact ⟨id, handle_edits hedit h⟩
  | none =>
    have hclock : ∀ now, e ≠ .clock now := by
      rintro now rfl
      cases hedit
    rw [handle_of_none h hclock]
    exact ⟨"", (DrawsOnly.refl s).edits⟩

end Session

end GhostEdit
