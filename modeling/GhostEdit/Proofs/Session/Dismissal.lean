import GhostEdit.Proofs.Session.Newest

/-!
# Dismissal

When a buffer is dismissed, work that was started for it can be in three places: in a timer that
runs, in a request that is queued but has not started, and in a request whose answer is under way.
Dismissing cancels the timer and forgets the signal it came from, and it drops the context, so that
no answer finds its number any more. Nothing is done about a queued request.

So a dismissal is final, until the user acts again, exactly if no request that was queued before it
starts (`Session.dismissal_final`). One that does brings the buffer back to life
(`Session.dismissal_undone`). A host that fails to cancel a timer lets it run on, without effect: the
controller waits for it no longer, and queues nothing when it expires.

## Main definitions

* `Session.Work.Tidy`: every timer that runs is the one its controller waits for
* `Session.Work.Calm`, `Session.View.Calm`: a buffer for which nothing is under way
* `Session.Unawaited`, `Session.AtRest`: what is the same since the buffer was dismissed

## Main results

* `Session.dismissal_final`, `Session.dismissal_undone`
-/

namespace GhostEdit

/-! ## What a controller does to the timers -/

namespace Timers

variable {ts : Timers} {t : Timer}

theorem cancel_host (ts : Timers) (id : Nat) : (ts.cancel id).1.host = ts.host := by
  rw [cancel]
  split <;> rfl

/-- A host that can cancel does not keep the timer. -/
theorem mem_cancel {id : Nat} (h : t ∈ (ts.cancel id).1.live) :
    t ∈ ts.live ∧ (ts.host ≠ .stubborn → t.id ≠ id) := by
  rw [cancel] at h
  split at h
  · next hhost => exact ⟨h, fun hnot => absurd hhost hnot⟩
  · obtain ⟨hmem, hne⟩ := List.mem_filter.mp h
    exact ⟨hmem, fun _ => of_decide_eq_true hne⟩

theorem start_host (ts : Timers) (owner : String) (delay : Seconds) :
    (ts.start owner delay).1.host = ts.host := by
  rw [start]
  split <;> rfl

theorem mem_start {owner : String} {delay : Seconds} (h : t ∈ (ts.start owner delay).1.live) :
    t ∈ ts.live ∨ t.owner = owner ∧ (ts.start owner delay).2.1 = some t.id := by
  have hstarted : t ∈ ts.live ++ [⟨ts.next, owner, delay⟩] →
      t ∈ ts.live ∨ t.owner = owner ∧ some ts.next = some t.id := by
    intro h
    rcases List.mem_append.mp h with h | h
    · exact .inl h
    · obtain rfl := List.mem_singleton.mp h
      exact .inr ⟨rfl, rfl⟩
  rw [start] at h ⊢
  split at h
  · exact hstarted h
  · exact hstarted h
  · exact hstarted h
  · exact .inl h
  · exact .inl h
  · exact .inl h

end Timers

namespace Debounce

variable {d : Debounce} {ts : Timers} {t : Timer} {owner : String} {cursor : Cursor}

theorem cancel_host (d : Debounce) (ts : Timers) : (d.cancel ts).2.1.host = ts.host := by
  rw [cancel]
  split
  · rfl
  · exact ts.cancel_host _

theorem cancel_timer (d : Debounce) (ts : Timers) : (d.cancel ts).1.timer = none := by
  rw [cancel]
  split
  · next h => exact h
  · rfl

theorem mem_cancel (h : t ∈ (d.cancel ts).2.1.live) :
    t ∈ ts.live ∧ (ts.host ≠ .stubborn → d.timer ≠ some t.id) := by
  rw [cancel] at h
  split at h
  · next hnone => exact ⟨h, fun _ => by simp [hnone]⟩
  · next id hid =>
    obtain ⟨hmem, hne⟩ := Timers.mem_cancel h
    refine ⟨hmem, fun hhost heq => hne hhost ?_⟩
    rw [hid, Option.some.injEq] at heq
    exact heq.symm

theorem signal_host (d : Debounce) (ts : Timers) (owner : String) (cursor : Cursor) :
    (d.signal ts owner cursor).2.1.host = ts.host := by
  rw [signal]
  dsimp only
  split
  · exact d.cancel_host ts
  · exact (Timers.start_host ..).trans (d.cancel_host ts)

/-- After a signal, the timers of before run on, less the one of the controller, and the new one is
the one the controller waits for. -/
theorem mem_signal (h : t ∈ (d.signal ts owner cursor).2.1.live) :
    t ∈ ts.live ∧ (ts.host ≠ .stubborn → d.timer ≠ some t.id) ∨
      t.owner = owner ∧ (d.signal ts owner cursor).1.timer = some t.id := by
  rw [signal] at h ⊢
  dsimp only at h ⊢
  split at h
  · exact .inl (mem_cancel h)
  · rcases Timers.mem_start h with h | h
    · exact .inl (mem_cancel h)
    · exact .inr h

end Debounce

namespace Session

variable {s : Session} {e : Event} {w : Work} {id : String}

/-! ## Timers and their controllers -/

/-- As long as the host can cancel, every timer that runs is the one its controller waits for. -/
def Work.Tidy (w : Work) : Prop :=
  w.timers.host ≠ .stubborn → ∀ t ∈ w.timers.live,
    ∃ d, w.controllers.lookup t.owner = some d ∧ d.timer = some t.id

/-- Nothing waits for a buffer: its controller knows of no timer and no signal, and no timer of
it runs, unless the host could not cancel it. -/
structure Work.Calm (w : Work) (id : String) : Prop where
  controller : ∀ d, w.controllers.lookup id = some d → d.timer = none ∧ d.lastCursor = none
  timers : w.timers.host ≠ .stubborn → ∀ t ∈ w.timers.live, t.owner ≠ id

theorem Work.reset_of_none (h : w.controllers.lookup id = none) : w.reset id = w := by
  rw [Work.reset, h]

theorem Work.reset_of_some {d : Debounce} (h : w.controllers.lookup id = some d) :
    w.reset id = { w with
      controllers := w.controllers.put id (d.reset w.timers).1
      timers := (d.cancel w.timers).2.1 } := by
  rw [Work.reset, h]
  rfl

/-- **Resetting the controller of a buffer** leaves nothing that waits for it. -/
theorem Work.Tidy.calm_reset (h : w.Tidy) (id : String) : (w.reset id).Calm id := by
  cases hd : w.controllers.lookup id with
  | none =>
    rw [Work.reset_of_none hd]
    refine ⟨fun d hsome => ?_, fun hhost t ht howner => ?_⟩
    · rw [hd] at hsome
      cases hsome
    · obtain ⟨d, hsome, _⟩ := h hhost t ht
      rw [howner, hd] at hsome
      cases hsome
  | some d =>
    rw [Work.reset_of_some hd]
    refine ⟨fun d' hd' => ?_, fun hhost t ht howner => ?_⟩
    · have hput : (w.controllers.put id (d.reset w.timers).1).lookup id
          = some (d.reset w.timers).1 := (Registry.lookup_put ..).trans (if_pos rfl)
      obtain rfl := Option.some.inj (hput.symm.trans hd')
      exact ⟨d.cancel_timer w.timers, rfl⟩
    · have hhost : w.timers.host ≠ .stubborn := d.cancel_host w.timers ▸ hhost
      obtain ⟨hmem, hne⟩ := Debounce.mem_cancel ht
      obtain ⟨d', hd', htimer⟩ := h hhost t hmem
      rw [howner] at hd'
      obtain rfl := Option.some.inj (hd.symm.trans hd')
      exact hne hhost htimer

theorem Work.Tidy.reset (h : w.Tidy) (id : String) : (w.reset id).Tidy := by
  intro hhost t ht
  have hne : t.owner ≠ id := (h.calm_reset id).timers hhost t ht
  cases hd : w.controllers.lookup id with
  | none =>
    rw [Work.reset_of_none hd] at hhost ht ⊢
    exact h hhost t ht
  | some d =>
    rw [Work.reset_of_some hd] at hhost ht ⊢
    have hhost : w.timers.host ≠ .stubborn := d.cancel_host w.timers ▸ hhost
    obtain ⟨d', hd', htimer⟩ := h hhost t (Debounce.mem_cancel ht).1
    refine ⟨d', ?_, htimer⟩
    show List.lookup t.owner (w.controllers.put id (d.reset w.timers).1) = some d'
    rw [Registry.lookup_put, if_neg hne]
    exact hd'

theorem Work.Tidy.signal {d : Debounce} (h : w.Tidy) (hd : w.Reaches id d) (cursor : Cursor) :
    (w.signal id d cursor).Tidy := by
  intro hhost t ht
  have hhost : w.timers.host ≠ .stubborn := d.signal_host w.timers id cursor ▸ hhost
  show ∃ d', List.lookup t.owner (w.controllers.put id _) = some d' ∧ d'.timer = some t.id
  rw [Registry.lookup_put]
  rcases Debounce.mem_signal ht with ⟨hmem, hne⟩ | ⟨howner, htimer⟩
  · obtain ⟨d', hd', htimer⟩ := h hhost t hmem
    by_cases howner : t.owner = id
    · -- the timer of the controller itself was cancelled
      rw [howner] at hd'
      rcases hd with hd | ⟨hnone, _⟩
      · obtain rfl := Option.some.inj (hd.symm.trans hd')
        exact absurd htimer (hne hhost)
      · rw [hnone] at hd'
        cases hd'
    · rw [if_neg howner]
      exact ⟨d', hd', htimer⟩
  · rw [if_pos howner]
    exact ⟨_, rfl, htimer⟩

/-- **An event keeps timers and controllers in step.** -/
theorem Does.tidy (h : s.work.Tidy) (hdoes : Does s e w) : w.Tidy := by
  cases hdoes with
  | rest _ _ => exact h
  | signal cursor _ hd => exact h.signal hd cursor
  | reset _ => exact h.reset _
  | @close id _ =>
    intro hhost t ht
    obtain ⟨d, hd, htimer⟩ := h.reset id hhost t ht
    refine ⟨d, ?_, htimer⟩
    show List.lookup t.owner (Registry.erase id _) = some d
    rw [Registry.lookup_erase, if_neg ((h.calm_reset id).timers hhost t ht)]
    exact hd
  | lapse _ _ _ =>
    intro hhost t ht
    exact h hhost t (List.mem_filter.mp ht).1
  | @elapse expired _ d d' _ _ hexpired hd _ _ _ =>
    intro hhost t ht
    obtain ⟨hmem, hne⟩ := List.mem_filter.mp ht
    obtain ⟨d₀, hd₀, htimer⟩ := h hhost t hmem
    refine ⟨d₀, ?_, htimer⟩
    show List.lookup t.owner (Registry.put expired.owner d' _) = some d₀
    rw [Registry.lookup_put, if_neg]
    · exact hd₀
    · -- one buffer has one timer, and that has expired
      intro howner
      obtain ⟨d₁, hd₁, htimer'⟩ := h hhost expired hexpired
      rw [howner] at hd₀
      obtain rfl := Option.some.inj (hd₀.symm.trans hd₁)
      rw [htimer, Option.some.injEq] at htimer'
      simp [htimer'] at hne
  | begin _ _ _ => exact h
  | deliver _ => exact h
  | conclude _ => exact h

theorem tidy_run (h : Fresh s) (events : List Event) : (s.run events).work.Tidy := by
  refine run_induction (P := fun s => s.work.Tidy) ?_ (fun t e ht => ?_) events
  · intro _ t ht
    have ht : t ∈ s.timers.live := ht
    rw [h.timers] at ht
    cases ht
  · exact (handle_work t e).tidy ht

/-! ## A buffer for which nothing is under way -/

/-- A controller that belongs to another buffer was put in place, and no timer of this one was
added. -/
theorem Work.Calm.of_put {other : String} {d : Debounce} {w' : Work} (h : w.Calm id)
    (hcontrollers : w'.controllers = w.controllers.put other d)
    (hd : other = id → d.timer = none ∧ d.lastCursor = none)
    (hhost : w'.timers.host = w.timers.host)
    (hlive : w.timers.host ≠ .stubborn → ∀ t ∈ w'.timers.live, t ∈ w.timers.live ∨ t.owner ≠ id) :
    w'.Calm id := by
  refine ⟨fun d' hd' => ?_, fun hnot t ht => ?_⟩
  · rw [hcontrollers, Registry.lookup_put] at hd'
    split at hd'
    · next heq =>
      cases hd'
      exact hd heq.symm
    · exact h.controller d' hd'
  · rw [hhost] at hnot
    rcases hlive hnot t ht with hmem | hne
    · exact h.timers hnot t hmem
    · exact hne

theorem Work.Calm.reset (h : w.Calm id) (other : String) : (w.reset other).Calm id := by
  cases hd : w.controllers.lookup other with
  | none =>
    rw [Work.reset_of_none hd]
    exact h
  | some d =>
    rw [Work.reset_of_some hd]
    exact h.of_put rfl (fun _ => ⟨d.cancel_timer w.timers, rfl⟩) (d.cancel_host w.timers)
      fun _ t ht => .inl (Debounce.mem_cancel ht).1

theorem Work.Calm.erase (h : w.Calm id) (other : String) :
    ({ w with controllers := w.controllers.erase other } : Work).Calm id := by
  refine ⟨fun d hd => ?_, h.timers⟩
  have hd : List.lookup id (w.controllers.erase other) = some d := hd
  rw [Registry.lookup_erase] at hd
  split at hd
  · cases hd
  · exact h.controller d hd

/-- **Without a signal from the buffer** nothing comes to wait for it. -/
theorem Does.calm (h : s.work.Calm id) (hsignal : e ≠ .signal id) (hinsert : e ≠ .insert id)
    (hdoes : Does s e w) : w.Calm id := by
  cases hdoes with
  | rest _ _ => exact h
  | @signal other d cursor he _ =>
    have hne : other ≠ id := by
      rintro rfl
      rcases he with he | he
      · exact hsignal he
      · exact hinsert he
    refine h.of_put rfl (fun heq => absurd heq hne) (d.signal_host s.timers other cursor) ?_
    intro _ t ht
    rcases Debounce.mem_signal ht with ⟨hmem, _⟩ | ⟨howner, _⟩
    · exact .inl hmem
    · exact .inr (howner ▸ hne)
  | reset _ => exact h.reset _
  | close _ => exact (h.reset _).erase _
  | lapse _ _ _ =>
    exact ⟨h.controller, fun hhost t ht => h.timers hhost t (List.mem_filter.mp ht).1⟩
  | elapse _ _ hd htimer hcursor _ =>
    refine h.of_put rfl (fun heq => ?_) rfl fun _ t ht => .inl (List.mem_filter.mp ht).1
    rw [heq] at hd
    exact ⟨htimer, hcursor.trans (h.controller _ hd).2⟩
  | begin _ _ _ => exact ⟨h.controller, h.timers⟩
  | deliver _ => exact ⟨h.controller, h.timers⟩
  | conclude _ => exact ⟨h.controller, h.timers⟩

/-- And no request is queued for it. -/
theorem Does.mem_queued (h : s.work.Calm id) (hdoes : Does s e w) (hmem : id ∈ w.queued) :
    id ∈ s.queued := by
  cases hdoes with
  | reset _ =>
    rw [Work.queued_reset] at hmem
    exact hmem
  | @close other _ =>
    have hmem : id ∈ (s.work.reset other).queued := hmem
    rw [Work.queued_reset] at hmem
    exact hmem
  | elapse _ _ hd _ _ hqueued =>
    rcases hqueued with rfl | ⟨hcursor, rfl⟩
    · exact hmem
    · rcases List.mem_append.mp hmem with hmem | hmem
      · exact hmem
      · rw [← List.mem_singleton.mp hmem] at hd
        exact absurd (h.controller _ hd).2 hcursor
  | begin _ hqueued _ =>
    rcases hqueued with rfl | rfl
    · exact hmem
    · exact List.mem_of_mem_erase hmem
  | _ => exact hmem

/-- A request that runs for a buffer was running before, unless it was started just now. -/
theorem Does.mem_running (hstarted : e.started? s ≠ some id) (hdoes : Does s e w)
    {r : Nat × String × List Text} (hr : r ∈ w.running) (hid : r.2.1 = id) :
    ∃ r' ∈ s.work.running, r'.1 = r.1 ∧ r'.2.1 = id := by
  cases hdoes with
  | reset _ =>
    rw [Work.running_reset] at hr
    exact ⟨r, hr, rfl, hid⟩
  | @close other _ =>
    have hr : r ∈ (s.work.reset other).running := hr
    rw [Work.running_reset] at hr
    exact ⟨r, hr, rfl, hid⟩
  | @begin other _ asked hother _ hasked =>
    rcases List.mem_append.mp hr with hr | hr
    · exact ⟨r, hr, rfl, hid⟩
    · rcases hasked with rfl | rfl
      · cases hr
      · rw [List.mem_singleton.mp hr] at hid
        exact absurd (hid ▸ hother) hstarted
  | @deliver n piece _ =>
    obtain ⟨old, hold, rfl⟩ := List.mem_map.mp hr
    refine ⟨old, hold, ?_, ?_⟩
    · split <;> rfl
    · split at hid <;> exact hid
  | conclude _ => exact ⟨r, (List.mem_filter.mp hr).1, rfl, hid⟩
  | _ => exact ⟨r, hr, rfl, hid⟩

/-- A buffer without suggestions for which no request counts. -/
structure View.Calm (v : View) : Prop where
  overlay : v.overlay = []
  drawn : v.drawn = []
  context : ∀ c, v.context = some c → c.phase = .idle ∧ c.sets = [] ∧ c.request = 0

theorem View.calm_blank : View.blank.Calm := ⟨rfl, rfl, nofun⟩

/-- A change keeps a buffer calm, as only answers of numbered requests may be taken over. -/
theorem View.Change.calm {offers : Int → Text → List Text → Prop} {v w : View}
    (hoffers : ∀ answer rows, ¬ offers 0 answer rows) (hchange : View.Change offers v w)
    (h : v.Calm) : w.Calm := by
  induction hchange with
  | refl v => exact h
  | trans _ _ ih ih' => exact ih' (ih h)
  | touch overlay drawn =>
    refine ⟨h.overlay, h.drawn, ?_⟩
    rintro _ ⟨⟩
    exact ⟨rfl, rfl, rfl⟩
  | @turn c c' overlay drawn hturn =>
    obtain ⟨hidle, hsets, hrequest⟩ := h.context c rfl
    refine ⟨h.overlay, h.drawn, ?_⟩
    rintro _ ⟨⟩
    cases hturn with
    | note rows => exact ⟨hidle, hsets, hrequest⟩
    | still => exact ⟨hidle, hsets, hrequest⟩
    | select hready _ _ =>
      rw [hidle] at hready
      cases hready
    | offer hoffer _ _ =>
      rw [hrequest] at hoffer
      exact absurd hoffer (hoffers _ _)
  | hide v => exact ⟨rfl, rfl, h.context⟩
  | settle c overlay drawn =>
    refine ⟨rfl, rfl, ?_⟩
    rintro _ ⟨⟩
    exact ⟨rfl, rfl, (h.context c rfl).2.2⟩
  | @paint c set overlay drawn marks hset _ =>
    rw [Context.current?, (h.context c rfl).2.1] at hset
    split at hset <;> cases hset

theorem handle_calm (h : (s.view id).Calm) (hrunning : ∀ r ∈ s.work.running, 1 ≤ r.1)
    (hstarted : e.started? s ≠ some id) : ((s.handle e).view id).Calm := by
  have hoffers : ∀ answer rows, ¬ e.offers s id 0 answer rows := by
    intro answer rows hoffer
    cases e with
    | finish n =>
      obtain ⟨r, hr, _, hzero, _⟩ := hoffer
      have hone := hrunning _ (Session.mem_running hr)
      dsimp only at hone
      omega
    | _ => exact hoffer
  have hsees := handle_view s e id
  generalize (s.handle e).view id = v at hsees
  cases hsees with
  | change _ _ hchange => exact hchange.calm hoffers h
  | enter hyes _ => exact absurd hyes hstarted
  | drop _ => exact View.calm_blank
  | @cut c c' _ _ hc hcut _ =>
    cases hcut with
    | mk rows hready _ _ =>
      rw [(h.context c hc).1] at hready
      cases hready

/-! ## After a dismissal -/

/-- Nothing came to wait for a buffer, and nothing was queued for it, since the session was as in
`base`. -/
structure Unawaited (id : String) (base s : Session) : Prop where
  work : s.work.Calm id
  queued : id ∈ s.queued → id ∈ base.queued

/-- A buffer at rest since the session was as in `base`. -/
structure AtRest (id : String) (base s : Session) : Prop where
  view : (s.view id).Calm
  running : ∀ r ∈ s.work.running, r.2.1 = id →
    ∃ r' ∈ base.work.running, r'.1 = r.1 ∧ r'.2.1 = id

/-- **Dismissing** a buffer: nothing waits for it, and it is at rest. -/
theorem dismissed (h : s.work.Tidy) (he : e.dismissed? = some id) :
    Unawaited id s (s.handle e) ∧ AtRest id s (s.handle e) := by
  have hdrops := drops_dismiss s id
  have hqueued : (s.dismiss id).work.queued = s.queued := by
    rw [hdrops.work, Work.queued_reset]
    rfl
  have hrunning : (s.dismiss id).work.running = s.work.running := by
    rw [hdrops.work, Work.running_reset]
  have hview : ((s.dismiss id).view id).Calm := by
    rw [hdrops.here]
    exact View.calm_blank
  have hwork : (s.dismiss id).work.Calm id := by
    rw [hdrops.work]
    exact h.calm_reset id
  cases e with
  | dismiss other =>
    cases he
    exact ⟨⟨hwork, fun hmem => hqueued ▸ hmem⟩, hview, fun r hr hid => ⟨r, hrunning ▸ hr, rfl, hid⟩⟩
  | close other =>
    cases he
    exact ⟨⟨hwork.erase id, fun hmem => hqueued ▸ hmem⟩, hview,
      fun r hr hid => ⟨r, hrunning ▸ hr, rfl, hid⟩⟩
  | _ => cases he

/-- **One event** without a signal from the buffer brings nothing that waits for it. -/
theorem Unawaited.handle {base : Session} (h : Unawaited id base s) (hsignal : e ≠ .signal id)
    (hinsert : e ≠ .insert id) : Unawaited id base (s.handle e) :=
  have hdoes := handle_work s e
  ⟨hdoes.calm h.work hsignal hinsert, fun hmem => h.queued (hdoes.mem_queued h.work hmem)⟩

/-- **One event** that starts no request for a buffer leaves it at rest. -/
theorem AtRest.handle {base : Session} (h : AtRest id base s)
    (hrunning : ∀ r ∈ s.work.running, 1 ≤ r.1) (hstarted : e.started? s ≠ some id) :
    AtRest id base (s.handle e) := by
  refine ⟨handle_calm h.view hrunning hstarted, fun r hr hid => ?_⟩
  obtain ⟨r', hr', heq, hid'⟩ := (handle_work s e).mem_running hstarted hr hid
  obtain ⟨r'', hr'', heq', hid''⟩ := h.running r' hr' hid'
  exact ⟨r'', hr'', heq'.trans heq, hid''⟩

theorem Unawaited.run {base : Session} {before : List Event}
    (h : Unawaited id base (s.run before)) {after : List Event}
    (hacts : ∀ e ∈ after, e ≠ .signal id ∧ e ≠ .insert id) :
    Unawaited id base (s.run (before ++ after)) := by
  induction after generalizing before with
  | nil => rwa [List.append_nil]
  | cons e rest ih =>
    rw [List.append_cons]
    refine ih ?_ fun e' he' => hacts e' (List.mem_cons_of_mem _ he')
    rw [run_concat]
    obtain ⟨hsignal, hinsert⟩ := hacts e List.mem_cons_self
    exact h.handle hsignal hinsert

theorem AtRest.run {base : Session} (hfresh : Fresh s) {before : List Event}
    (h : AtRest id base (s.run before)) {after : List Event}
    (hstarted : ∀ pre e, pre ++ [e] <+: after → e.started? (s.run (before ++ pre)) ≠ some id) :
    AtRest id base (s.run (before ++ after)) := by
  induction after generalizing before with
  | nil => rwa [List.append_nil]
  | cons e rest ih =>
    rw [List.append_cons]
    refine ih ?_ fun pre e' hpre => ?_
    · rw [run_concat]
      have he := hstarted [] e (List.cons_prefix_cons.mpr ⟨rfl, List.nil_prefix⟩)
      rw [List.append_nil] at he
      exact h.handle (fun r hr => ((traced_run hfresh before).running r hr).1) he
    · rw [← List.append_cons]
      exact hstarted (e :: pre) e' (List.cons_prefix_cons.mpr ⟨rfl, hpre⟩)

/-- What there is to see of a buffer at rest. -/
theorem AtRest.still {base : Session} (h : AtRest id base s) :
    s.phase id = .idle ∧ s.overlay id = [] ∧ (s.context id).request = 0 ∧
      ∀ r ∈ s.requests, r.buffer = id → ∃ r' ∈ base.requests, r'.id = r.id ∧ r'.buffer = id := by
  have hcontext : s.phase id = .idle ∧ (s.context id).request = 0 := by
    rw [phase, context]
    cases hc : s.context? id with
    | none => exact ⟨rfl, rfl⟩
    | some c =>
      obtain ⟨hidle, _, hrequest⟩ := h.view.context c hc
      exact ⟨hidle, hrequest⟩
  refine ⟨hcontext.1, h.view.overlay, hcontext.2, fun r hr hid => ?_⟩
  obtain ⟨_, hmem, heq, hid'⟩ := h.running r.core (List.mem_map_of_mem hr) hid
  obtain ⟨r', hr', rfl⟩ := List.mem_map.mp hmem
  exact ⟨r', hr', heq, hid'⟩

/-- Unless the user asks, a request starts for a buffer only from the queue. -/
theorem Event.started?_eq_some (hsuggest : e ≠ .suggest id) (h : e.started? s = some id) :
    e = .start id ∧ id ∈ s.queued := by
  cases e with
  | suggest other => exact absurd (congrArg _ (Option.some.inj h)) hsuggest
  | start other =>
    rw [Event.started?] at h
    split at h
    · next hmem =>
      obtain rfl := Option.some.inj h
      exact ⟨rfl, hmem⟩
    · cases h
  | _ => cases h

/-- A request that starts from the queue is the newest one of its buffer. -/
theorem request_start (hqueued : id ∈ s.queued) :
    ((s.handle (.start id)).context id).request = s.lastRequest + 1 := by
  rcases handle_number s (.start id) id with ⟨_, hnumber⟩ | ⟨hstarted, _⟩
  · exact hnumber
  · exact absurd (if_pos hqueued) hstarted

/-- **A dismissal is final** until the user acts on the buffer again, unless a request that was
queued for it before starts. In any case the controller of the buffer waits for nothing, no timer of
it runs unless the host failed to cancel it, and nothing is queued that was not. And the buffer
stays without suggestions, with nothing drawn in it, no request that counts for it and none started,
throughout all that happens, exactly if no start finds it in the queue. -/
theorem dismissal_final (h : Fresh s) (before after : List Event) (he : e.dismissed? = some id)
    (hacts : ∀ e ∈ after, e ≠ .signal id ∧ e ≠ .insert id ∧ e ≠ .suggest id) :
    let t (pre : List Event) := s.run (before ++ e :: pre)
    (∀ pre, pre <+: after →
      (∀ d, (t pre).controllers.lookup id = some d → d.timer = none ∧ d.lastCursor = none) ∧
      ((t pre).timers.host ≠ .stubborn → ∀ timer ∈ (t pre).timers.live, timer.owner ≠ id) ∧
      (id ∈ (t pre).queued → id ∈ (s.run before).queued)) ∧
    ((∀ pre, pre <+: after →
        (t pre).phase id = .idle ∧ (t pre).overlay id = [] ∧ ((t pre).context id).request = 0 ∧
        ∀ r ∈ (t pre).requests, r.buffer = id →
          ∃ r' ∈ (s.run before).requests, r'.id = r.id ∧ r'.buffer = id) ↔
      ∀ pre, pre ++ [.start id] <+: after → id ∉ (t pre).queued) := by
  intro t
  have ⟨hunawaited, hrest⟩ := dismissed (tidy_run h before) he
  rw [← run_concat] at hunawaited hrest
  refine ⟨fun pre hpre => ?_, fun hall pre hpre hmem => ?_, fun hstarts pre hpre => ?_⟩
  · have hwork := hunawaited.run fun e' he' =>
      have ⟨hsignal, hinsert, _⟩ := hacts e' (hpre.subset he')
      ⟨hsignal, hinsert⟩
    rw [← List.append_cons] at hwork
    exact ⟨hwork.work.controller, hwork.work.timers, hwork.queued⟩
  · -- the request that starts is one that counts
    have hzero := (hall _ hpre).2.2.1
    have ht : t (pre ++ [.start id]) = (t pre).handle (.start id) := by
      show s.run (before ++ (e :: pre ++ [.start id])) = _
      rw [← List.append_assoc, run_concat]
    rw [ht, request_start hmem] at hzero
    omega
  · have hspared : ∀ pre' e', pre' ++ [e'] <+: pre →
        e'.started? (s.run (before ++ [e] ++ pre')) ≠ some id := by
      intro pre' e' hpre' hstarted
      have hmem : e' ∈ after := hpre.subset (hpre'.subset (by simp))
      rw [← List.append_cons] at hstarted
      obtain ⟨rfl, hqueued⟩ := Event.started?_eq_some (hacts e' hmem).2.2 hstarted
      exact hstarts pre' (hpre'.trans hpre) hqueued
    have hstill := hrest.run h hspared
    rw [← List.append_cons] at hstill
    exact hstill.still

/-- A timer runs, and an answer is under way. -/
def unsettled : List Event := [.suggest "notes", .deliver 1 Answer.sample, .signal "notes"]

/-- Both come too late, and nothing is queued. -/
def belated : List Event := [.expire 0 true, .start "notes", .finish 1, .accept "notes"]

theorem belated_final :
    Fresh (desk .listing) ∧ ((desk .listing).run unsettled).timers.live.map (·.owner) = ["notes"] ∧
      "notes" ∉ ((desk .listing).run unsettled).queued ∧
      ((desk .listing).run (unsettled ++ .dismiss "notes" :: belated)).phase "notes" = .idle ∧
      ((desk .listing).run (unsettled ++ .dismiss "notes" :: belated)).overlay "notes" = [] := by
  have hqueued : "notes" ∉ ((desk .listing).run unsettled).queued := by decide +kernel
  obtain ⟨hnothing, hrest⟩ := dismissal_final (fresh_desk .listing) unsettled belated
    (e := .dismiss "notes") rfl (by simp [belated])
  obtain ⟨hphase, hoverlay, _⟩ := hrest.mpr
    (fun pre hpre hmem => hqueued ((hnothing pre ((List.prefix_append ..).trans hpre)).2.2 hmem))
    belated List.prefix_rfl
  exact ⟨fresh_desk .listing, by decide +kernel, hqueued, hphase, hoverlay⟩

/-- **A queued request is not dismissed.** The timer of a signal expires and queues a request, the
buffer is dismissed, and then the request starts: the buffer waits for an answer again, although
nobody acted on it, and shows it when it arrives. -/
theorem dismissal_undone :
    let t := (desk .listing).run
      [.signal "notes", .expire 0 true, .dismiss "notes", .start "notes"]
    let u := t.run [.deliver 1 Answer.sample, .finish 1]
    t.phase "notes" = .fetching ∧ t.requests.map (·.buffer) = ["notes"] ∧
      u.phase "notes" = .ready ∧ u.overlay "notes" ≠ [] := by
  decide +kernel

end Session

end GhostEdit
