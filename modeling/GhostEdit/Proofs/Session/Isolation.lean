import GhostEdit.Proofs.Session.Ownership

/-!
# Buffers are apart

A session serves all buffers at once, and what is done about one of them must not reach another. The
events of a history are about one buffer each (`Session.Event.buffer?`), also those that name only
the number of a timer or of a request. This file shows that an event leaves everything alone that
belongs to another buffer: the buffer itself, its context and its marks, its controller and its
timers, and its requests, queued or running.

What is left of a session besides these shares is what it was set up with, which no event touches
but the clock, and what all buffers have in common: the cache, the metrics, the messages that were
shown, the journal, and the numbers to give next.

## Why histories come in

A view of a buffer is kept by its name, and so is a buffer. Timers and requests are kept by number,
and only a session that came about by a history is known to give no number twice
(`Session.owned_run`).

## Main definitions

* `Session.Share`, `Session.share`: what belongs to a buffer

## Main results

* `Session.handle_keepsTo`, `Session.view_handle_of_ne`: what an event leaves alone
* `Session.buffers_apart`
-/

namespace GhostEdit

namespace Session

variable {s : Session} {id other : String} {n : Nat}

/-! ## Requests for a buffer -/

/-- A request is changed whose number stands for requests of one buffer only. -/
theorem keepsTo_changeRequest {f : Request → Request} (hbuffer : ∀ r, (f r).buffer = r.buffer)
    (hn : ∀ r ∈ s.requests, r.id = n → r.buffer = id) : KeepsTo id s (s.changeRequest n f) := by
  refine keepsTo_map s (fun r => ?_) fun r hr hne => ?_
  · split
    · exact hbuffer r
    · rfl
  · exact if_neg fun heq => hne (hn r hr heq)

theorem keepsTo_ask (s : Session) (id : String) (n : Nat) (key : String) (row col : Int)
    (b : Buffer) : KeepsTo id s (s.ask id n key row col b).1 := by
  rw [ask]
  split
  · exact ((drawsOnly_noteRecords ..).trans (drawsOnly_giveUp ..)).keepsTo
  · refine ⟨fun _ _ => rfl, fun other hne => ?_, rfl⟩
    show List.filter _ (s.requests ++ [_]) = List.filter _ s.requests
    rw [List.filter_append, List.filter_cons_of_neg (by simpa using hne.symm), List.filter_nil,
      List.append_nil]

theorem keepsTo_proceed (s : Session) (id : String) (n : Nat) (key : String) (row col : Int)
    (b : Buffer) : KeepsTo id s (s.proceed id n key row col b).1 := by
  have hcached : Draws id s (s.cached key).1 := draws_cached s key
  rw [proceed]
  split
  · next m heq =>
    have hcached : Draws id s m := of_fst hcached heq
    exact hcached.keepsTo.trans (keepsTo_ask m id n key row col b)
  · next m answer heq =>
    have hcached : Draws id s m := of_fst hcached heq
    have htaken := hcached.trans ((drawsOnly_log m _ _).toDraws.trans
      (draws_commit (m.log .debug "Using cached suggestions") id n answer none))
    split
    · next u committed heq' =>
      have htaken : Draws id s u := of_fst htaken heq'
      exact (htaken.trans (drawsOnly_record id u ..).toDraws).keepsTo
    · next u f heq' =>
      have htaken : Draws id s u := of_fst htaken heq'
      split
      · exact (htaken.trans (drawsOnly_report u _ _).toDraws).keepsTo.trans
          (keepsTo_ask _ id n key row col b)
      · exact htaken.keepsTo
    · next heq' => exact (of_fst htaken heq' : Draws id s _).keepsTo

theorem keepsTo_begin (s : Session) (id : String) : KeepsTo id s (s.begin id).1 := by
  have hlogged := (drawsOnly_enter s id).trans
    (drawsOnly_log (s.enter id) .debug s!"Generating suggestions for {id}")
  rw [begin]
  split
  · exact (hlogged.trans (drawsOnly_giveUp ..)).keepsTo
  · split
    · exact hlogged.keepsTo
    · exact hlogged.keepsTo.trans (keepsTo_proceed ..)

theorem keepsTo_finish {r : Request} (hr : s.request? n = some r)
    (hn : ∀ r' ∈ s.requests, r'.id = n → r'.buffer = r.buffer) :
    KeepsTo r.buffer s (s.finish n).1 := by
  have hcommit := draws_commit s r.buffer n r.answer (some r.key)
  rw [finish, hr]
  dsimp only
  split
  · next m committed heq =>
    have hcommit : Draws r.buffer s m := of_fst hcommit heq
    have hmarked : KeepsTo r.buffer m (m.changeRequest n fun r => { r with committed }) :=
      keepsTo_changeRequest (fun _ => rfl) (hcommit.requests ▸ hn)
    exact hcommit.keepsTo.trans (hmarked.trans (drawsOnly_record ..).keepsTo)
  · next m f heq =>
    have hcommit : Draws r.buffer s m := of_fst hcommit heq
    split
    · exact (hcommit.trans
        ((drawsOnly_giveUp m ..).trans (drawsOnly_record ..)).toDraws).keepsTo
    · exact hcommit.keepsTo
  · next heq => exact (of_fst hcommit heq : Draws r.buffer s _).keepsTo

theorem keepsTo_conclude (hn : ∀ r ∈ s.requests, r.id = n → r.buffer = id) :
    KeepsTo id s (s.conclude n).1 := by
  refine ⟨fun _ _ => rfl, fun other hne => ?_, rfl⟩
  show (s.requests.filter (·.id ≠ n)).filter (·.buffer = other) = _
  rw [List.filter_filter, requestsOf]
  refine List.filter_congr fun r hr => ?_
  by_cases hbuffer : r.buffer = other
  · have hid : r.id ≠ n := fun heq => hne (hbuffer.symm.trans (hn r hr heq))
    simp [hbuffer, hid]
  · simp [hbuffer]

/-! ## Events -/

/-- A number that stands for a request stands for requests of its buffer only. -/
theorem Work.Issued.buffer_eq (h : s.work.Issued)
    (hn : (s.request? n).map Request.buffer = some id) :
    ∀ r ∈ s.requests, r.id = n → r.buffer = id := by
  rintro r hr rfl
  exact Option.some.inj ((h.request? hr).symm.trans hn)

/-- **What an event leaves alone**: all buffers but its own and their requests, and the setup. -/
theorem handle_keepsTo {e : Event} (hissued : s.work.Issued) (h : e.buffer? s = some id) :
    KeepsTo id s (s.handle e) := by
  cases e with
  | start other =>
    cases h
    have htaken : DrawsOnly id s { s with queued := s.queued.erase id } :=
      drawsOnly_of_eq rfl rfl rfl rfl
    show KeepsTo id s (s.startQueued id)
    rw [startQueued]
    split
    · exact htaken.keepsTo.trans (keepsTo_begin ..)
    · exact .refl s
  | suggest other =>
    cases h
    exact keepsTo_begin s id
  | deliver n piece => exact keepsTo_changeRequest (fun _ => rfl) (hissued.buffer_eq h)
  | finish n =>
    obtain ⟨r, hr, rfl⟩ := Option.map_eq_some_iff.mp h
    exact keepsTo_finish hr (hissued.buffer_eq h)
  | conclude n => exact keepsTo_conclude (hissued.buffer_eq h)
  | clock now => cases h
  | _ => exact Edits.toKeepsTo (handle_edits rfl h)

theorem editSignal_view_of_ne (s : Session) (h : other ≠ id) :
    (s.editSignal id).1.view other = s.view other := by
  obtain ⟨t, hchanges, hview, _⟩ := editSignal_effect s id
  exact (hview other).trans (hchanges.elsewhere other h)

/-- **The views of other buffers** stay as they are. -/
theorem view_handle_of_ne {e : Event} (h : e.buffer? s = some id) (hne : other ≠ id) :
    (s.handle e).view other = s.view other := by
  have hchanges : ∀ {t}, Changes id nothing s t → t.view other = s.view other :=
    fun h => h.elsewhere other hne
  have hfail : ∀ {n f}, (s.request? n).map Request.buffer = some id →
      (s.fail n f).1.view other = s.view other := by
    intro n f hn
    obtain ⟨r, hr, rfl⟩ := Option.map_eq_some_iff.mp hn
    exact hchanges (changes_fail hr f)
  cases e with
  | signal _ =>
    cases h
    exact editSignal_view_of_ne s hne
  | insert _ =>
    cases h
    show (s.insertEnter id).1.view other = _
    rw [insertEnter]
    split
    · rfl
    · exact editSignal_view_of_ne s hne
  | dismiss _ =>
    cases h
    exact (drops_dismiss s id).elsewhere other hne
  | close _ =>
    cases h
    exact (drops_dismiss s id).elsewhere other hne
  | expire timer loop => exact expireTimer_view s timer loop other
  | start _ =>
    cases h
    show (s.startQueued id).view other = _
    rw [startQueued]
    split
    · exact (begin_view { s with queued := s.queued.erase id } id).2.1 other hne
    · rfl
  | suggest _ =>
    cases h
    exact (begin_view s id).2.1 other hne
  | deliver n piece => rfl
  | finish n =>
    obtain ⟨r, hr, rfl⟩ := Option.map_eq_some_iff.mp h
    exact (changes_finish hr).elsewhere other hne
  | fail n f => exact hfail h
  | abort n f => exact hfail h
  | conclude n => rfl
  | look _ =>
    cases h
    exact hchanges (changes_touch s id)
  | present _ =>
    cases h
    exact hchanges (changes_present s id)
  | hide _ =>
    cases h
    exact hchanges (changes_hide s id)
  | next _ =>
    cases h
    exact hchanges (changes_rotate s id 1)
  | prev _ =>
    cases h
    exact hchanges (changes_rotate s id (-1))
  | accept _ =>
    cases h
    rcases accept_view s id with h | h | h
    · exact h.elsewhere other hne
    · exact h.elsewhere other hne
    · exact h.elsewhere other hne
  | write _ b => exact (quiet_putBuffer rfl).view other
  | clock now => rfl

/-! ## Shares -/

/-- What belongs to a buffer. -/
structure Share where
  buffer : Option Buffer
  /-- Its context and its marks. -/
  view : View
  /-- Its controller, its timers, and its requests that are queued. -/
  part : Part
  /-- Its requests that run. -/
  requests : List Request

/-- What of a session belongs to a buffer. -/
def share (s : Session) (id : String) : Share :=
  ⟨s.buffers.get? id, s.view id, s.work.part id, s.requestsOf id⟩

/-- **Buffers are apart.** An event about one buffer changes nothing that belongs to another, and
the newest request of the other is the same as before. The setup and the host stay as they are too,
so what the buffers have in common is no more than the cache, the metrics, the reporter, which knows
the messages that were shown, the journal, and the numbers of the last timer and request. -/
theorem buffers_apart (h : Fresh s) (history : List Event) {e : Event}
    (he : e.buffer? (s.run history) = some id) (hne : other ≠ id) :
    ((s.run history).handle e).share other = (s.run history).share other ∧
      (∀ n, ((s.run history).handle e).isCurrent other n = (s.run history).isCurrent other n) ∧
      ((s.run history).handle e).setup = (s.run history).setup ∧
      ((s.run history).handle e).timers.host = (s.run history).timers.host := by
  obtain ⟨howned, hissued⟩ := owned_run h history
  generalize s.run history = t at he howned hissued ⊢
  have hdoes : Does t e (t.handle e).work := handle_work t e
  have hkeeps := handle_keepsTo hissued he
  have hview := view_handle_of_ne he hne
  have hpart : (t.handle e).work.part other = t.work.part other := by
    refine hdoes.part howned fun hother => hne ?_
    exact Option.some.inj (hother.symm.trans he)
  refine ⟨?_, fun n => ?_, hkeeps.setup, hdoes.host⟩
  · rw [share, hkeeps.buffer other hne, hview, hpart, hkeeps.requests other hne, share]
  · have hcontext : (t.handle e).context? other = t.context? other := congrArg View.context hview
    rw [isCurrent, hcontext, isCurrent]

/-- Answers for two buffers are under way, and a timer of the second one runs. -/
def sideBySide : List Event :=
  [.write "todo"
      { lines := [['c']].map Value.str, cursor := .at 1 1, mode := insertMode },
    .suggest "notes", .suggest "todo", .signal "todo", .deliver 1 Answer.sample,
    .deliver 2 "[".toList]

/-- The answer for the first one is complete, and its suggestions are shown. -/
theorem sideBySide_apart :
    let s := (desk .listing).run sideBySide
    Fresh (desk .listing) ∧ Event.buffer? s (.finish 1) = some "notes" ∧
      (s.handle (.finish 1)).isVisible "notes" = true ∧
      (s.handle (.finish 1)).share "todo" = s.share "todo" ∧
      (s.share "todo").part.timers.map (·.owner) = ["todo"] ∧
      (s.share "todo").requests.map (·.parts) = [[['[']]] ∧
      (s.handle (.finish 1)).isCurrent "todo" 2 = true := by
  have hfresh := fresh_desk .listing
  have habout : Event.buffer? ((desk .listing).run sideBySide) (.finish 1) = some "notes" := by
    decide +kernel
  have hne : "todo" ≠ "notes" := by decide
  obtain ⟨hshare, hcurrent, _⟩ := buffers_apart hfresh sideBySide habout hne
  refine ⟨hfresh, habout, by decide +kernel, hshare, by decide +kernel, by decide +kernel, ?_⟩
  rw [hcurrent]
  decide +kernel

end Session

end GhostEdit
