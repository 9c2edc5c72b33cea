import GhostEdit.Proofs.Session.Moves
import GhostEdit.Session.Fetch
import GhostEdit.Session.Trigger

/-!
# What an operation can do to the suggestions of a buffer

A session has some twenty operations, and each of them touches several fields. What matters about
a buffer is little: its context, the overlay it carries, and the marks the board remembers for it.
This file calls that the `View` of the buffer, names the few things that can happen to a view
(`View.Change`), and shows of every operation that it does nothing else, and nothing at all to the
views of other buffers.

Three things are no `View.Change`, because they do not keep the number of the newest request or
the answer the sets come from. They are stated on their own: starting a request
(`View.enter`), dropping the context (`View.blank`) and taking an accepted item out (`Cut`).

## Where sets come from

`View.Change` has a parameter `offers`, which says for which request, answer and rows sets may be
taken over. An operation that reads no answer has `offers` empty (`nothing`), so that the lemma
about it also says that it brings no sets in.

## Main definitions

* `Session.View`, `Session.view`: what there is to a buffer
* `Session.Work`, `Session.work`: timers, queued requests and requests that run
* `Session.Turn`, `Session.View.Change`, `Session.Changes`: what can happen

## Main results

* `Session.changes_present`, `Session.changes_rotate`, `Session.changes_giveUp`,
  `Session.changes_commit`: operations that keep to a `View.Change`
* `Session.begin_view`, `Session.accept_view`, `Session.drops_dismiss`: those that do not
-/

namespace GhostEdit

/-- What a request is about, without what is noted for the metrics. -/
def Request.core (r : Request) : Nat × String × List Text := (r.id, r.buffer, r.parts)

theorem Buffers.get?_of_get {bs : Buffers} {id : String} {b : Buffer} (h : bs.get id = .ok b) :
    bs.get? id = some b := by
  rw [Buffers.get] at h
  split at h
  · next hb =>
    cases h
    exact hb
  · cases h

/-- What holds of what an operation leaves, for the name it was given. -/
theorem of_fst {α β : Type} {P : α → Prop} {x : α × β} {a : α} {b : β} (h : P x.1)
    (heq : x = (a, b)) : P a := by
  rw [heq] at h
  exact h

namespace Session

/-! ## Views -/

/-- What there is to a buffer besides its document. -/
structure View where
  context : Option Context
  /-- The marks on the overlay of the buffer. -/
  overlay : List Mark
  /-- The marks that the board remembers. -/
  drawn : List Mark

/-- A buffer without suggestions. -/
def View.blank : View := ⟨none, [], []⟩

/-- The buffer after a request with the given number was started. -/
def View.enter (v : View) (n : Int) : View :=
  { v with context := some { v.context.getD {} with request := n, phase := .fetching } }

/-- The number of the newest request; zero if there was none. -/
def View.number (v : View) : Int := (v.context.getD {}).request

/-- The overlay of a buffer; empty if there is no such buffer. -/
def overlay (s : Session) (id : String) : List Mark :=
  ((s.buffers.get? id).map (·.overlay)).getD []

/-- The marks that the board remembers for a buffer. -/
def drawn (s : Session) (id : String) : List Mark := (s.board.marks.lookup id).getD []

/-- The view of a buffer. -/
def view (s : Session) (id : String) : View := ⟨s.context? id, s.overlay id, s.drawn id⟩

/-- Timers, queued requests and the requests that run. -/
structure Work where
  controllers : Registry Debounce
  timers : Timers
  queued : List String
  lastRequest : Nat
  /-- The number and the buffer of each request, and the pieces of its answer. -/
  running : List (Nat × String × List Text)

/-- What goes on in a session beside the views. -/
def work (s : Session) : Work :=
  ⟨s.controllers, s.timers, s.queued, s.lastRequest, s.requests.map Request.core⟩

/-! ## What can happen to a view -/

/-- No answer at all. -/
def nothing (_ : Int) (_ : Text) (_ : List Text) : Prop := False

/-- What can become of a context while its request stays the newest. -/
inductive Turn (offers : Int → Text → List Text → Prop) : Context → Context → Prop
  /-- The rows are noted. -/
  | note (c : Context) (rows : List Value) : Turn offers c { c with previous := some rows }
  /-- The session stops moving the cursor. -/
  | still (c : Context) : Turn offers c { c with moving := false }
  /-- Another set is selected. -/
  | select (c : Context) {index : Int} (hready : c.phase = .ready) (hnonneg : 0 ≤ index)
      (hlt : index < c.sets.length) : Turn offers c { c with index }
  /-- The sets of an answer are taken over. -/
  | offer (c : Context) {answer : Text} {rows : List Text} {sets : List SuggestionSet}
      (hoffers : offers c.request answer rows) (hparse : Answer.parse answer rows = .ok sets)
      (hne : sets ≠ []) : Turn offers c { c with sets, index := 0, phase := .ready }

/-- What can become of a view while no request starts, nothing is dropped and no item taken. -/
inductive View.Change (offers : Int → Text → List Text → Prop) : View → View → Prop
  | refl (v : View) : Change offers v v
  | trans {u v w : View} : Change offers u v → Change offers v w → Change offers u w
  /-- A context is made. -/
  | touch (overlay drawn : List Mark) :
      Change offers ⟨none, overlay, drawn⟩ ⟨some {}, overlay, drawn⟩
  | turn {c c' : Context} (overlay drawn : List Mark) (h : Turn offers c c') :
      Change offers ⟨some c, overlay, drawn⟩ ⟨some c', overlay, drawn⟩
  /-- What is drawn is taken away. -/
  | hide (v : View) : Change offers v { v with overlay := [], drawn := [] }
  /-- The sets are given up. -/
  | settle (c : Context) (overlay drawn : List Mark) :
      Change offers ⟨some c, overlay, drawn⟩ ⟨some { c with phase := .idle, sets := [] }, [], []⟩
  /-- The selected set is drawn. -/
  | paint {c : Context} {set : SuggestionSet} (overlay drawn marks : List Mark)
      (hset : c.current? = some set) (hne : set ≠ []) :
      Change offers ⟨some c, overlay, drawn⟩ ⟨some c, marks, marks⟩

/-- An item was taken out of the selected set, of which something is left. -/
inductive Cut : Context → Context → Prop
  | mk (c : Context) {before after : SuggestionSet} {x : Item} (rows : List Value)
      (hready : c.phase = .ready) (hset : c.current? = some (before ++ x :: after))
      (hne : shiftBelow x x.growth (before ++ after) ≠ []) :
      Cut c { c with
        sets := c.sets.set c.index.toNat (shiftBelow x x.growth (before ++ after))
        previous := some rows
        moving := false }

/-- An operation keeps to the view of one buffer, and nothing goes on beside it. -/
structure Changes (id : String) (offers : Int → Text → List Text → Prop) (s t : Session) :
    Prop where
  here : View.Change offers (s.view id) (t.view id)
  elsewhere : ∀ other, other ≠ id → t.view other = s.view other
  work : t.work = s.work

/-- An operation that no view shows. -/
structure Quiet (s t : Session) : Prop where
  view : ∀ id, t.view id = s.view id
  work : t.work = s.work

variable {s t u : Session} {id other : String} {offers : Int → Text → List Text → Prop}

theorem drawn_ne_nil_iff : s.drawn id ≠ [] ↔ s.isVisible id = true := by
  rw [drawn, isVisible, Board.isVisible]
  cases s.board.marks.lookup id with
  | none => simp
  | some marks => simp

theorem Quiet.trans (h : Quiet s t) (h' : Quiet t u) : Quiet s u :=
  ⟨fun id => (h'.view id).trans (h.view id), h'.work.trans h.work⟩

theorem Quiet.context? (h : Quiet s t) (id : String) : t.context? id = s.context? id :=
  congrArg View.context (h.view id)

theorem Changes.refl (s : Session) : Changes id offers s s := ⟨.refl _, fun _ _ => rfl, rfl⟩

theorem Changes.trans (h : Changes id offers s t) (h' : Changes id offers t u) :
    Changes id offers s u :=
  ⟨h.here.trans h'.here, fun other hne => (h'.elsewhere other hne).trans (h.elsewhere other hne),
    h'.work.trans h.work⟩

theorem Quiet.changes (h : Quiet s t) : Changes id offers s t := by
  refine ⟨?_, fun other _ => h.view other, h.work⟩
  rw [h.view id]
  exact .refl _

theorem View.Change.mono {offers' : Int → Text → List Text → Prop} {v w : View}
    (hoffers : ∀ n answer rows, offers n answer rows → offers' n answer rows)
    (h : View.Change offers v w) : View.Change offers' v w := by
  induction h with
  | refl v => exact .refl v
  | trans _ _ ih ih' => exact ih.trans ih'
  | touch overlay drawn => exact .touch overlay drawn
  | turn overlay drawn hturn =>
    refine .turn overlay drawn ?_
    cases hturn with
    | note rows => exact .note _ rows
    | still => exact .still _
    | select hready hnonneg hlt => exact .select _ hready hnonneg hlt
    | offer h hparse hne => exact .offer _ (hoffers _ _ _ h) hparse hne
  | hide v => exact .hide v
  | settle c overlay drawn => exact .settle c overlay drawn
  | paint overlay drawn marks hset hne => exact .paint overlay drawn marks hset hne

theorem Turn.request {c c' : Context} (h : Turn offers c c') : c'.request = c.request := by
  cases h <;> rfl

/-- A change keeps the number of the newest request. -/
theorem View.Change.number {v w : View} (h : View.Change offers v w) : w.number = v.number := by
  induction h with
  | refl v => rfl
  | trans _ _ ih ih' => exact ih'.trans ih
  | touch overlay drawn => rfl
  | turn overlay drawn hturn => exact hturn.request
  | hide v => rfl
  | settle c overlay drawn => rfl
  | paint overlay drawn marks hset hne => rfl

/-! ## Operations that no view shows -/

theorem quiet_noteRecords (s : Session) (records : List Record) : Quiet s (s.noteRecords records) :=
  ⟨fun _ => rfl, rfl⟩

theorem quiet_log (s : Session) (severity : Severity) (message : String) :
    Quiet s (s.log severity message) :=
  ⟨fun _ => rfl, rfl⟩

theorem quiet_report (s : Session) (e : Failure) (place : String) : Quiet s (s.report e place) :=
  ⟨fun _ => rfl, rfl⟩

theorem quiet_notify (s : Session) (message : String) (level : Int) :
    Quiet s (s.notify message level) :=
  ⟨fun _ => rfl, rfl⟩

/-- Reading the cache touches the cache, and what is told about it. -/
theorem cached_frame (s : Session) (key : String) :
    ∃ cache reporter journal, (s.cached key).1 = { s with cache, reporter, journal } := by
  rw [cached]
  split <;> exact ⟨_, _, _, rfl⟩

/-- So does writing to it. -/
theorem keep_frame (s : Session) (key : String) (answer : Text) :
    ∃ cache reporter journal, s.keep key answer = { s with cache, reporter, journal } := by
  have hwrite : ∃ cache journal,
      (s.write key (.str answer)).1 = { s with cache, journal } := by
    rw [write]
    split <;> exact ⟨_, _, rfl⟩
  rw [keep]
  generalize s.write key (.str answer) = written at hwrite
  obtain ⟨m, outcome⟩ := written
  obtain ⟨cache, journal, rfl⟩ := hwrite
  split
  · next heq =>
    cases heq
    exact ⟨_, _, _, rfl⟩
  · next heq =>
    cases heq
    exact ⟨_, _, _, rfl⟩

/-- Noting how a request went touches the metrics and the journal. -/
theorem record_frame (s : Session) (buffer : String) (started : Seconds) (cacheHit : Bool)
    (sets chars : Nat) (success : Bool) :
    ∃ metrics journal, (s.record buffer started cacheHit sets chars success).1
      = { s with metrics, journal } := by
  rw [record]
  split
  · exact ⟨_, _, rfl⟩
  · dsimp only
    split <;> exact ⟨_, _, rfl⟩

theorem quiet_cached (s : Session) (key : String) : Quiet s (s.cached key).1 := by
  obtain ⟨cache, reporter, journal, hframe⟩ := cached_frame s key
  rw [hframe]
  exact ⟨fun _ => rfl, rfl⟩

theorem quiet_keep (s : Session) (key : String) (answer : Text) :
    Quiet s (s.keep key answer) := by
  obtain ⟨cache, reporter, journal, hframe⟩ := keep_frame s key answer
  rw [hframe]
  exact ⟨fun _ => rfl, rfl⟩

theorem quiet_record (s : Session) (buffer : String) (started : Seconds) (cacheHit : Bool)
    (sets chars : Nat) (success : Bool) :
    Quiet s (s.record buffer started cacheHit sets chars success).1 := by
  obtain ⟨metrics, journal, hframe⟩ := record_frame s buffer started cacheHit sets chars success
  rw [hframe]
  exact ⟨fun _ => rfl, rfl⟩

/-- A change to a request that concerns only the metrics. -/
theorem quiet_changeRequest (s : Session) (n : Nat) {f : Request → Request}
    (hf : ∀ r, (f r).core = r.core) : Quiet s (s.changeRequest n f) := by
  refine ⟨fun _ => rfl, ?_⟩
  have hcore : (s.changeRequest n f).requests.map Request.core = s.requests.map Request.core := by
    rw [changeRequest, List.map_map]
    refine List.map_congr_left fun r _ => ?_
    show (if r.id = n then f r else r).core = r.core
    split
    · exact hf r
    · rfl
  rw [work, hcore]
  rfl

/-- Asking whether an edit counts. -/
theorem quiet_shouldTrigger (s : Session) (id : String) : Quiet s (s.shouldTrigger id).1 := by
  rw [shouldTrigger]
  split
  · exact ⟨fun _ => rfl, rfl⟩
  · split
    · exact quiet_log ..
    · exact ⟨fun _ => rfl, rfl⟩
    · split
      · exact ⟨fun _ => rfl, rfl⟩
      · exact quiet_log ..
      · exact ⟨fun _ => rfl, rfl⟩

/-! ## Contexts -/

theorem context?_setContext_of_ne (c : Context) (h : other ≠ id) :
    (s.setContext id c).context? other = s.context? other := by
  rw [setContext, context?, Registry.lookup_put, if_neg h, context?]

theorem view_setContext (s : Session) (id : String) (c : Context) :
    (s.setContext id c).view id = { s.view id with context := some c } := by
  rw [view, context?_setContext]
  rfl

theorem view_setContext_of_ne (c : Context) (h : other ≠ id) :
    (s.setContext id c).view other = s.view other := by
  rw [view, context?_setContext_of_ne c h]
  rfl

theorem view_of_context? {c : Context} (h : s.context? id = some c) :
    s.view id = ⟨some c, s.overlay id, s.drawn id⟩ := by
  rw [view, h]

theorem changes_setContext {c c' : Context} (hc : s.context? id = some c)
    (hturn : Turn offers c c') : Changes id offers s (s.setContext id c') := by
  refine ⟨?_, fun other hne => view_setContext_of_ne c' hne, rfl⟩
  rw [view_setContext, view_of_context? hc]
  exact .turn _ _ hturn

theorem changes_touch (s : Session) (id : String) : Changes id offers s (s.touch id) := by
  rw [touch]
  split
  · exact .refl s
  · next hnone =>
    refine ⟨?_, fun other hne => view_setContext_of_ne {} hne, rfl⟩
    rw [view_setContext, view, hnone]
    exact .touch _ _

/-- Touching a buffer gives it a context. -/
theorem context?_touch (s : Session) (id : String) :
    (s.touch id).context? id = some (s.context id) := by
  rw [touch, context]
  split
  · next c hc => rw [hc, Option.getD_some]
  · next hnone => rw [context?_setContext, hnone, Option.getD_none]

theorem changes_endMove (s : Session) (id : String) : Changes id offers s (s.endMove id) := by
  rw [endMove, changeContext]
  split
  · next hc => exact changes_setContext hc (.still _)
  · exact .refl s

/-! ## Drawing -/

theorem overlay_of_get? {b : Buffer} (h : s.buffers.get? id = some b) :
    s.overlay id = b.overlay := by
  rw [overlay, h]
  rfl

/-- The buffers with one of them replaced. -/
theorem overlay_put (s : Session) (id other : String) (b : Buffer) :
    ({ s with buffers := s.buffers.put id b } : Session).overlay other
      = if other = id then b.overlay else s.overlay other := by
  show (((s.buffers.put id b).get? other).map (·.overlay)).getD [] = _
  rw [Buffers.get?_put]
  split
  · rfl
  · rfl

/-- Putting another buffer in place, with the overlay as it was. -/
theorem quiet_putBuffer {b : Buffer} (h : b.overlay = s.overlay id) :
    Quiet s { s with buffers := s.buffers.put id b } := by
  refine ⟨fun other => ?_, rfl⟩
  have hoverlay := overlay_put s id other b
  have hsame : ({ s with buffers := s.buffers.put id b } : Session).overlay other
      = s.overlay other := by
    rw [hoverlay]
    split
    · next heq => rw [heq, h]
    · rfl
  rw [view, hsame]
  rfl

/-- A change of a buffer that keeps its overlay. -/
theorem quiet_modify {f : Buffer → Except Failure Buffer}
    (hf : ∀ b b', f b = .ok b' → b'.overlay = b.overlay) {bs : Buffers}
    (h : s.buffers.modify id f = .ok bs) : Quiet s { s with buffers := bs } := by
  obtain ⟨b, hb, h⟩ := bind_eq_ok h
  obtain ⟨b', hb', h⟩ := bind_eq_ok h
  cases h
  exact quiet_putBuffer ((hf b b' hb').trans (overlay_of_get? (Buffers.get?_of_get hb)).symm)

theorem get?_hide {b : Buffer} (h : s.buffers.get? id = some b) :
    (s.hide id).buffers.get? id = some { b with overlay := [] } := by
  show (s.buffers.adjust id _).get? id = _
  rw [Buffers.adjust, h]
  exact (Buffers.get?_put ..).trans (if_pos rfl)

theorem overlay_hide (s : Session) (id other : String) :
    (s.hide id).overlay other = if other = id then [] else s.overlay other := by
  show (((s.buffers.adjust id _).get? other).map (·.overlay)).getD [] = _
  rw [Buffers.adjust]
  split
  · rw [Buffers.get?_put]
    split
    · rfl
    · rfl
  · next hnone =>
    split
    · next heq =>
      rw [heq, hnone]
      rfl
    · rfl

theorem drawn_hide (s : Session) (id other : String) :
    (s.hide id).drawn other = if other = id then [] else s.drawn other := by
  show ((s.board.marks.erase id).lookup other).getD [] = _
  rw [Registry.lookup_erase]
  split
  · rfl
  · rfl

theorem view_hide (s : Session) (id : String) :
    (s.hide id).view id = { s.view id with overlay := [], drawn := [] } := by
  rw [view, overlay_hide, drawn_hide, if_pos rfl, if_pos rfl]
  rfl

theorem view_hide_of_ne (h : other ≠ id) : (s.hide id).view other = s.view other := by
  rw [view, overlay_hide, drawn_hide, if_neg h, if_neg h]
  rfl

theorem changes_hide (s : Session) (id : String) : Changes id offers s (s.hide id) := by
  refine ⟨?_, fun other hne => view_hide_of_ne hne, rfl⟩
  rw [view_hide]
  exact .hide _

/-- Drawing in a buffer that exists puts the same marks on its overlay and on the board. -/
theorem drawOn_marks (board : Board) {bs : Buffers} {b : Buffer} (hb : bs.get? id = some b)
    (set : SuggestionSet) (rows : List Value) (cursor : Cursor) :
    ∃ marks, ∀ other,
      ((board.drawOn bs id set rows cursor).1.marks.lookup other).getD []
          = (if other = id then marks else (board.marks.lookup other).getD []) ∧
        (((board.drawOn bs id set rows cursor).2.1.get? other).map (·.overlay)).getD []
          = if other = id then marks else ((bs.get? other).map (·.overlay)).getD [] := by
  have hcleared : ∀ other, ((board.clear id).marks.lookup other).getD []
      = if other = id then [] else (board.marks.lookup other).getD [] := by
    intro other
    rw [Board.clear, Registry.lookup_erase]
    split <;> rfl
  have hadjust : bs.adjust id (fun b => { b with overlay := [] })
      = bs.put id { b with overlay := [] } := by rw [Buffers.adjust, hb]
  have htaken : ∀ other, (((bs.put id { b with overlay := [] }).get? other).map (·.overlay)).getD []
      = if other = id then [] else ((bs.get? other).map (·.overlay)).getD [] := by
    intro other
    rw [Buffers.get?_put]
    split <;> rfl
  rw [Board.drawOn, Board.draw, Board.clearOn, hadjust]
  cases Board.layout set rows cursor with
  | error e => exact ⟨[], fun other => ⟨hcleared other, htaken other⟩⟩
  | ok marks =>
    cases marks with
    | nil => exact ⟨[], fun other => ⟨hcleared other, htaken other⟩⟩
    | cons mark rest =>
      have hget : (bs.put id { b with overlay := [] }).get? id = some { b with overlay := [] } :=
        (Buffers.get?_put ..).trans (if_pos rfl)
      dsimp only
      rw [Buffers.modify_of_get? hget]
      refine ⟨mark :: rest, fun other => ⟨?_, ?_⟩⟩
      · show (List.lookup other (Registry.put id (mark :: rest) (board.clear id).marks)).getD [] = _
        rw [Registry.lookup_put]
        split
        · rfl
        · next hne => rw [hcleared, if_neg hne]
      · show ((((bs.put id { b with overlay := [] }).put id
          { b with overlay := mark :: rest }).get? other).map (·.overlay)).getD [] = _
        rw [Buffers.get?_put]
        split
        · rfl
        · next hne => rw [htaken, if_neg hne]

/-- The selected set is drawn in a buffer that exists. -/
theorem changes_draw {b : Buffer} {c : Context} {set : SuggestionSet}
    (hb : s.buffers.get? id = some b) (hc : s.context? id = some c) (hset : c.current? = some set)
    (hne : set ≠ []) (shape : Buffer) : Changes id offers s (s.draw id shape set).1 := by
  obtain ⟨marks, hmarks⟩ := drawOn_marks s.board hb set shape.lines shape.cursor
  have hview : ∀ other, (s.draw id shape set).1.view other
      = ⟨s.context? other, if other = id then marks else s.overlay other,
          if other = id then marks else s.drawn other⟩ := by
    intro other
    obtain ⟨hdrawn, hoverlay⟩ := hmarks other
    rw [overlay, drawn, ← hdrawn, ← hoverlay, draw]
    dsimp only
    split <;> rfl
  have hwork : (s.draw id shape set).1.work = s.work := by
    rw [draw]
    dsimp only
    split <;> rfl
  refine ⟨?_, fun other hother => ?_, hwork⟩
  · rw [hview, if_pos rfl, if_pos rfl, view_of_context? hc, hc]
    exact .paint _ _ marks hset hne
  · rw [hview, if_neg hother, if_neg hother]
    rfl

theorem changes_present (s : Session) (id : String) : Changes id offers s (s.present id).1 := by
  have hhide : Changes id offers s (s.hide id) := changes_hide s id
  rw [present]
  split
  · exact hhide
  · next b hget =>
    split
    · split
      · exact hhide
      · exact hhide
      · next set hne hcurrent =>
        obtain ⟨c, hc, hset⟩ := Option.bind_eq_some_iff.mp hcurrent
        refine hhide.trans (changes_draw (Buffers.get?_of_get hget) hc hset ?_ b)
        rintro rfl
        exact hne rfl
    · exact hhide

/-- Going round the sets. -/
theorem changes_rotate (s : Session) (id : String) (step : Int) :
    Changes id offers s (s.rotate id step).1 := by
  rw [rotate]
  split
  · exact .refl s
  · next c hc =>
    split
    · next hready =>
      rw [Bool.and_eq_true, decide_eq_true_eq, Bool.not_eq_true',
        List.isEmpty_eq_false_iff] at hready
      have hpos : (0 : Int) < c.sets.length := by
        have := List.length_pos_iff.mpr hready.2
        omega
      have hselect : Turn offers c { c with index := (c.index + step) % c.sets.length } :=
        .select c hready.1 (Int.emod_nonneg _ (by omega)) (Int.emod_lt_of_pos _ hpos)
      exact (changes_setContext hc hselect).trans (changes_present _ id)
    · exact .refl s

/-! ## Taking an answer over -/

theorem changes_settle (s : Session) (id : String) : Changes id offers s (s.settle id) := by
  rw [settle, changeContext]
  split
  · next c hc =>
    refine ⟨?_, fun other hne => ?_, rfl⟩
    · rw [view_hide, view_setContext, view_of_context? hc]
      exact .settle c _ _
    · rw [view_hide_of_ne hne, view_setContext_of_ne _ hne]
  · exact changes_hide s id

theorem changes_giveUp (s : Session) (id : String) (request : Nat) (e : Failure)
    (place : String) : Changes id offers s (s.giveUp id request e place) := by
  have hreport : Changes id offers s (s.report e place) := (quiet_report s e place).changes
  rw [giveUp]
  split
  · exact hreport.trans (changes_settle _ id)
  · exact hreport

/-- The newest request of a buffer has a context to name it. -/
theorem exists_of_isCurrent {request : Nat} (h : s.isCurrent id request = true) :
    ∃ c, s.context? id = some c ∧ c.request = request := by
  rw [isCurrent] at h
  split at h
  · next c hc => exact ⟨c, hc, of_decide_eq_true h⟩
  · cases h

theorem changes_offer {c : Context} {answer : Text} {rows : List Text}
    {sets : List SuggestionSet} (hc : s.context? id = some c)
    (hoffers : offers c.request answer rows) (hparse : Answer.parse answer rows = .ok sets) :
    Changes id offers s (s.offer id sets).1 := by
  rw [offer]
  split
  · exact (changes_settle s id).trans (quiet_notify _ _ _).changes
  · next hne =>
    have hne : sets ≠ [] := fun hnil => hne (List.isEmpty_iff.mpr hnil)
    have hready : Changes id offers s
        (s.changeContext id fun c => { c with sets, index := 0, phase := .ready }) := by
      rw [changeContext, hc]
      exact changes_setContext hc (.offer c hoffers hparse hne)
    have hlogged := hready.trans ((quiet_log _ .info
      s!"{sets.length} suggestion set(s) ready for {id}").changes.trans (changes_present _ id))
    dsimp only
    split
    · next heq => exact of_fst hlogged heq
    · next heq => exact of_fst hlogged heq

/-- **Taking an answer over** offers sets of that answer for the rows of the buffer, and only if the
request is the newest. -/
theorem changes_commit {request : Nat} {answer : Text} (key : Option String)
    (hoffers : ∀ b, s.buffers.get? id = some b →
      offers request answer (b.lines.map Value.plain)) :
    Changes id offers s (s.commit id request answer key).1 := by
  rw [commit]
  split
  · next hcurrent =>
    obtain ⟨c, hc, hrequest⟩ := exists_of_isCurrent hcurrent
    split
    · exact .refl s
    · next b hget =>
      have hrows := hoffers b (Buffers.get?_of_get hget)
      rw [← hrequest] at hrows
      have hnoted := quiet_noteRecords s (Answer.parseLog answer (b.lines.map Value.plain))
      dsimp only
      split
      · exact hnoted.changes
      · next sets hparse =>
        split
        · next key =>
          have hkept := hnoted.trans (quiet_keep _ key answer)
          exact hkept.changes.trans
            (changes_offer ((hkept.context? id).trans hc) hrows hparse)
        · exact hnoted.changes.trans (changes_offer hc hrows hparse)
  · exact (quiet_log _ _ _).changes

/-- The answer of a request that runs, for the rows of its buffer. -/
def answers (s : Session) (n : Nat) (r : Request) (k : Int) (answer : Text) (rows : List Text) :
    Prop :=
  k = n ∧ answer = r.answer ∧
    ∃ b, s.buffers.get? r.buffer = some b ∧ rows = b.lines.map Value.plain

/-- **The end of an answer** is taken over for the buffer of its request. -/
theorem changes_finish {n : Nat} {r : Request} (hr : s.request? n = some r) :
    Changes r.buffer (s.answers n r) s (s.finish n).1 := by
  have hcommit : Changes r.buffer (s.answers n r) s
      (s.commit r.buffer n r.answer (some r.key)).1 :=
    changes_commit _ fun b hb => ⟨rfl, rfl, b, hb, rfl⟩
  rw [finish, hr]
  dsimp only
  split
  · next m committed heq =>
    rw [heq] at hcommit
    have hflag : Quiet m (m.changeRequest n fun r => { r with committed }) :=
      quiet_changeRequest m n fun _ => rfl
    exact hcommit.trans (hflag.trans (quiet_record ..)).changes
  · next heq =>
    rw [heq] at hcommit
    split
    · exact hcommit.trans ((changes_giveUp ..).trans (quiet_record ..).changes)
    · exact hcommit
  · next heq =>
    rw [heq] at hcommit
    exact hcommit

theorem changes_fail {n : Nat} {r : Request} (hr : s.request? n = some r) (e : Failure) :
    Changes r.buffer offers s (s.fail n e).1 := by
  rw [fail, hr]
  dsimp only
  split
  · exact (changes_giveUp ..).trans (quiet_record ..).changes
  · exact (quiet_log ..).changes

/-! ## Starting a request -/

/-- What reading the cache gives: nothing if it cannot be read. -/
def retrieve? (s : Session) (key : String) : Option Text :=
  if s.unreadable.isNone then (s.cache.lookup key s.now).2 else none

/-- The answer that the cache has for the cursor of a buffer. -/
def stored? (s : Session) (id : String) : Option Text :=
  match s.position id with
  | .error _ => none
  | .ok (row, col, b) =>
    match Fingerprint.of row col b.lines with
    | .error _ => none
    | .ok key => s.retrieve? key

/-- The key for the cursor of a buffer, if the cursor is fit for a request. -/
def key? (s : Session) (id : String) : Option String :=
  match s.position id with
  | .error _ => none
  | .ok (row, col, b) => (Fingerprint.of row col b.lines).toOption

theorem key?_of_position {row col : Int} {b : Buffer} {key : String}
    (hpos : s.position id = .ok (row, col, b)) (hkey : Fingerprint.of row col b.lines = .ok key) :
    s.key? id = some key := by
  rw [key?, hpos]
  dsimp only
  rw [hkey]
  rfl

/-- What a request that is started may offer at once: the stored answer. -/
def recalls (s : Session) (id : String) (k : Int) (answer : Text) (rows : List Text) : Prop :=
  k = s.lastRequest + 1 ∧ s.stored? id = some answer ∧
    ∃ b, s.buffers.get? id = some b ∧ rows = b.lines.map Value.plain

/-- How a request goes on: it may be over, or the provider is asked. -/
structure Proceeds (id : String) (request : Nat) (offers : Int → Text → List Text → Prop)
    (s t : Session) : Prop where
  here : View.Change offers (s.view id) (t.view id)
  elsewhere : ∀ other, other ≠ id → t.view other = s.view other
  work : t.work = s.work ∨
    t.work = { s.work with running := s.work.running ++ [(request, id, [])] }

theorem Changes.proceeds {request : Nat} (h : Changes id offers s t) :
    Proceeds id request offers s t :=
  ⟨h.here, h.elsewhere, .inl h.work⟩

theorem Changes.trans_proceeds {request : Nat} (h : Changes id offers s t)
    (h' : Proceeds id request offers t u) : Proceeds id request offers s u := by
  refine ⟨h.here.trans h'.here, fun other hne => ?_, ?_⟩
  · exact (h'.elsewhere other hne).trans (h.elsewhere other hne)
  · rw [← h.work]
    exact h'.work

theorem proceeds_ask (s : Session) (id : String) (request : Nat) (key : String) (row col : Int)
    (b : Buffer) : Proceeds id request offers s (s.ask id request key row col b).1 := by
  rw [ask]
  split
  · exact ((quiet_noteRecords ..).changes.trans (changes_giveUp ..)).proceeds
  · refine ⟨.refl _, fun _ _ => rfl, .inr ?_⟩
    show Work.mk _ _ _ _ (List.map Request.core (s.requests ++ [_])) = _
    rw [List.map_append]
    rfl

theorem cached_snd (s : Session) (key : String) : (s.cached key).2 = s.retrieve? key := by
  rw [cached, retrieve?]
  split
  · next heq => rw [heq]; rfl
  · next heq => rw [heq]; rfl

theorem proceeds_proceed {request : Nat} {key : String} (row col : Int) (b : Buffer)
    (hoffers : ∀ answer, (s.cached key).2 = some answer →
      ∀ b, s.buffers.get? id = some b → offers request answer (b.lines.map Value.plain)) :
    Proceeds id request offers s (s.proceed id request key row col b).1 := by
  have hcached := quiet_cached s key
  have hbuffers : (s.cached key).1.buffers = s.buffers := by
    obtain ⟨cache, reporter, journal, hframe⟩ := cached_frame s key
    rw [hframe]
  rw [proceed]
  split
  · next m heq =>
    rw [heq] at hcached
    exact hcached.changes.trans_proceeds (proceeds_ask ..)
  · next m answer heq =>
    rw [heq] at hcached hbuffers hoffers
    have hcommit : Changes id offers m
        ((m.log .debug "Using cached suggestions").commit id request answer none).1 :=
      (quiet_log ..).changes.trans (changes_commit none fun b hb =>
        hoffers answer rfl b (hbuffers ▸ hb))
    split
    · next heq' =>
      rw [heq'] at hcommit
      exact (hcached.changes.trans (hcommit.trans (quiet_record ..).changes)).proceeds
    · next heq' =>
      rw [heq'] at hcommit
      have hboth := hcached.changes.trans hcommit
      split
      · exact (hboth.trans (quiet_report ..).changes).trans_proceeds (proceeds_ask ..)
      · exact hboth.proceeds
    · next heq' =>
      rw [heq'] at hcommit
      exact (hcached.changes.trans hcommit).proceeds

theorem touch_eq (s : Session) (id : String) :
    s.touch id = { s with contexts := (s.touch id).contexts } := by
  rw [touch]
  split <;> rfl

theorem enter_eq (s : Session) (id : String) :
    s.enter id = ({ s.touch id with lastRequest := s.lastRequest + 1 } : Session).setContext id
      { s.context id with request := (s.lastRequest + 1 : Nat), phase := .fetching } := by
  have hlast : (s.touch id).lastRequest = s.lastRequest := by rw [touch_eq]
  have hcontext : ({ s.touch id with lastRequest := s.lastRequest + 1 } : Session).context? id
      = some (s.context id) := context?_touch s id
  rw [enter]
  dsimp only
  rw [hlast, changeContext, hcontext]

/-- Entering a request touches nothing but the contexts and the number of the last request. -/
theorem enter_frame (s : Session) (id : String) :
    ∃ contexts, s.enter id = { s with lastRequest := s.lastRequest + 1, contexts } := by
  rw [enter_eq, touch_eq]
  exact ⟨_, rfl⟩

theorem view_enter (s : Session) (id : String) :
    (s.enter id).view id = (s.view id).enter (s.lastRequest + 1) := by
  rw [enter_eq, view_setContext, touch_eq]
  rfl

theorem view_enter_of_ne (h : other ≠ id) : (s.enter id).view other = s.view other := by
  rw [enter_eq, view_setContext_of_ne _ h]
  have htouch : Changes id nothing s (s.touch id) := changes_touch s id
  exact htouch.elsewhere other h

theorem work_enter (s : Session) (id : String) :
    (s.enter id).work = { s.work with lastRequest := s.lastRequest + 1 } := by
  rw [enter_eq, touch_eq]
  rfl

/-- **Starting a request** makes it the newest of its buffer; what is then offered at once is the
stored answer. -/
theorem begin_view (s : Session) (id : String) :
    View.Change (s.recalls id) ((s.view id).enter (s.lastRequest + 1)) ((s.begin id).1.view id) ∧
      (∀ other, other ≠ id → (s.begin id).1.view other = s.view other) ∧
      ∃ asked, (s.begin id).1.work
          = { s.work with
              lastRequest := s.lastRequest + 1, running := s.work.running ++ asked } ∧
        (asked = [] ∨ asked = [(s.lastRequest + 1, id, [])]) := by
  obtain ⟨contexts, henter⟩ := enter_frame s id
  let m : Session := ({ s with lastRequest := s.lastRequest + 1, contexts } : Session).log .debug
    s!"Generating suggestions for {id}"
  have hlog : Quiet (s.enter id) m := by
    rw [henter]
    exact quiet_log ..
  have hproceeds : Proceeds id m.lastRequest (s.recalls id) m (s.begin id).1 := by
    rw [begin, henter]
    split
    · exact (changes_giveUp ..).proceeds
    · next row col b hpos =>
      split
      · exact (Changes.refl m).proceeds
      · next key hkey =>
        refine proceeds_proceed row col b fun answer hanswer b' hb' => ⟨rfl, ?_, b', hb', rfl⟩
        have hpos : s.position id = .ok (row, col, b) := hpos
        rw [stored?, hpos]
        dsimp only
        rw [hkey]
        exact (cached_snd m key).symm.trans hanswer
  refine ⟨?_, fun other hne => ?_, ?_⟩
  · rw [← view_enter, ← hlog.view id]
    exact hproceeds.here
  · rw [hproceeds.elsewhere other hne, hlog.view other, view_enter_of_ne hne]
  · have hwork : m.work = { s.work with lastRequest := s.lastRequest + 1 } :=
      hlog.work.trans (work_enter s id)
    rcases hproceeds.work with h | h
    · exact ⟨[], by rw [h, hwork, List.append_nil], .inl rfl⟩
    · exact ⟨_, by rw [h, hwork]; rfl, .inr rfl⟩

/-! ## Dropping the context -/

/-- The work after the controller of a buffer was reset. -/
def Work.reset (w : Work) (id : String) : Work :=
  match w.controllers.lookup id with
  | none => w
  | some d =>
    { w with
      controllers := w.controllers.put id (d.reset w.timers).1
      timers := (d.reset w.timers).2.1 }

@[simp] theorem Work.lastRequest_reset (w : Work) (id : String) :
    (w.reset id).lastRequest = w.lastRequest := by
  rw [Work.reset]
  split <;> rfl

@[simp] theorem Work.running_reset (w : Work) (id : String) :
    (w.reset id).running = w.running := by
  rw [Work.reset]
  split <;> rfl

@[simp] theorem Work.queued_reset (w : Work) (id : String) : (w.reset id).queued = w.queued := by
  rw [Work.reset]
  split <;> rfl

/-- A buffer is left without suggestions, and its controller is reset. -/
structure Drops (id : String) (s t : Session) : Prop where
  here : t.view id = .blank
  elsewhere : ∀ other, other ≠ id → t.view other = s.view other
  work : t.work = s.work.reset id

theorem resetController_view (s : Session) (id other : String) :
    (s.resetController id).view other = s.view other := by
  rw [resetController]
  split <;> rfl

theorem resetController_work (s : Session) (id : String) :
    (s.resetController id).work = s.work.reset id := by
  rw [resetController]
  split
  · next hnone =>
    have hnone : s.work.controllers.lookup id = none := hnone
    rw [Work.reset, hnone]
  · next d hd =>
    have hd : s.work.controllers.lookup id = some d := hd
    rw [Work.reset, hd]
    rfl

theorem view_dropContext (s : Session) (id other : String) :
    (s.dropContext id).view other
      = { s.view other with context := if other = id then none else s.context? other } := by
  show View.mk (List.lookup other (s.contexts.erase id)) _ _ = _
  rw [Registry.lookup_erase]
  rfl

theorem work_dropContext (s : Session) (id : String) : (s.dropContext id).work = s.work := by
  have hcore : (s.dropContext id).requests.map Request.core = s.requests.map Request.core := by
    rw [dropContext, List.map_map]
    refine List.map_congr_left fun r _ => ?_
    show (if _ then { r with dropped := _ } else r : Request).core = r.core
    split <;> rfl
  rw [work, hcore]
  rfl

/-- **Dismissing** leaves nothing of the suggestions of a buffer. -/
theorem drops_dismiss (s : Session) (id : String) : Drops id s (s.dismiss id) := by
  refine ⟨?_, fun other hne => ?_, ?_⟩
  · rw [dismiss, view_dropContext, if_pos rfl, view_hide]
    rfl
  · rw [dismiss, view_dropContext, if_neg hne]
    show ((s.resetController id).hide id).view other = _
    rw [view_hide_of_ne hne, resetController_view]
  · rw [dismiss, work_dropContext, ← resetController_work]
    rfl

/-! ## Accepting -/

/-- An item is taken out of the selected set, and what is left may be drawn. -/
structure Cuts (id : String) (s t : Session) : Prop where
  here : ∃ c c', s.context? id = some c ∧ Cut c c' ∧
    View.Change nothing ⟨some c', [], []⟩ (t.view id)
  elsewhere : ∀ other, other ≠ id → t.view other = s.view other
  work : t.work = s.work

theorem apply_overlay (id : String) (item : Item) (b : Buffer) :
    (b.apply id item).1.overlay = b.overlay := by
  rcases Buffer.apply_cases id item b with ⟨-, h⟩ | ⟨-, ⟨_, h⟩ | ⟨_, _, h⟩⟩ <;> rw [h]

theorem quiet_handBack (s : Session) (id : String) : Quiet s (s.handBack id).1 := by
  rw [handBack]
  dsimp only
  split
  · split
    · exact ⟨fun _ => rfl, rfl⟩
    · next hbs =>
      refine (quiet_noteRecords s _).trans (quiet_modify ?_ hbs)
      intro b b' hb
      cases hb
      rfl
  · exact ⟨fun _ => rfl, rfl⟩

theorem changes_jump (s : Session) (id : String) (item : Item) :
    Changes id offers s (s.jump id item).1 := by
  rw [jump]
  split
  · exact (quiet_log ..).changes
  · next hbs =>
    have hoverlay : ∀ b b', jumpIn item b = .ok b' → b'.overlay = b.overlay := by
      intro b b' hb
      obtain ⟨_, rfl⟩ := jumpIn_eq_ok hb
      rfl
    have hmoved : Quiet s _ := (quiet_log ..).trans (quiet_modify hoverlay hbs)
    have hdrawn : Changes id offers s _ :=
      hmoved.changes.trans ((changes_endMove _ id).trans (changes_present _ id))
    split
    · next heq => exact of_fst hdrawn heq
    · next heq => exact of_fst hdrawn heq

theorem Drops.of_changes (h : Changes id nothing s t) (h' : Drops id t u) : Drops id s u := by
  refine ⟨h'.here, fun other hne => ?_, h.work ▸ h'.work⟩
  rw [h'.elsewhere other hne, h.elsewhere other hne]

theorem Cuts.of_changes (h : Changes id nothing s t) (hcontext : t.context? id = s.context? id)
    (h' : Cuts id t u) : Cuts id s u := by
  refine ⟨?_, fun other hne => ?_, h'.work.trans h.work⟩
  · rw [← hcontext]
    exact h'.here
  · rw [h'.elsewhere other hne, h.elsewhere other hne]

section Accept

variable {c : Context} {before after : SuggestionSet} {x : Item}

/-- Keeping what is left of the selected set in a buffer in which nothing is drawn. -/
theorem retain_view (hview : s.view id = ⟨some c, [], []⟩) (hready : c.phase = .ready)
    (hset : c.current? = some (before ++ x :: after)) (b : Buffer) :
    Cuts id s (s.retain id c b (shiftBelow x x.growth (before ++ after))).1 ∨
      Drops id s (s.retain id c b (shiftBelow x x.growth (before ++ after))).1 := by
  have hc : s.context? id = some c := congrArg View.context hview
  rw [retain]
  split
  · right
    have hdrops := drops_dismiss (s.setContext id
      { c with
        sets := c.sets.set c.index.toNat (shiftBelow x x.growth (before ++ after))
        previous := some b.lines
        moving := false }) id
    refine ⟨hdrops.here, fun other hne => ?_, hdrops.work⟩
    rw [hdrops.elsewhere other hne, view_setContext_of_ne _ hne]
  · next hleft =>
    left
    have hne : shiftBelow x x.growth (before ++ after) ≠ [] :=
      fun hnil => hleft (List.isEmpty_iff.mpr hnil)
    let kept : Context :=
      { c with
        sets := c.sets.set c.index.toNat (shiftBelow x x.growth (before ++ after))
        previous := some b.lines
        moving := false }
    have hdrawn : Changes id nothing (s.setContext id kept) _ := changes_present _ id
    have hcuts : Cuts id s ((s.setContext id kept).present id).1 := by
      refine ⟨⟨c, kept, hc, .mk c b.lines hready hset hne, ?_⟩, fun other hother => ?_, ?_⟩
      · have hkept : (s.setContext id kept).view id = ⟨some kept, [], []⟩ := by
          rw [view_setContext, hview]
        rw [← hkept]
        exact hdrawn.here
      · rw [hdrawn.elsewhere other hother, view_setContext_of_ne _ hother]
      · exact hdrawn.work
    split
    · next heq => exact of_fst hcuts heq
    · next heq => exact of_fst hcuts heq

theorem applyItem_view (hc : s.context? id = some c) (hready : c.phase = .ready)
    (hset : c.current? = some (before ++ x :: after)) (b : Buffer) :
    Changes id nothing s (s.applyItem id c b x (before ++ after)).1 ∨
      Cuts id s (s.applyItem id c b x (before ++ after)).1 ∨
      Drops id s (s.applyItem id c b x (before ++ after)).1 := by
  have hput : ∀ b' : Buffer, b'.overlay = [] →
      Quiet (s.hide id) { (s.hide id).noteRecords [Buffer.applyLog x] with
        buffers := (s.hide id).buffers.put id b' } := by
    intro b' hb'
    refine (quiet_putBuffer ?_).trans (quiet_noteRecords ..)
    rw [hb', overlay_hide, if_pos rfl]
  have hwritten := apply_overlay id x { b with overlay := [] }
  rw [applyItem]
  dsimp only
  split
  · next heq =>
    rw [heq] at hwritten
    exact .inl ((changes_hide s id).trans ((hput _ hwritten).changes.trans (changes_endMove _ id)))
  · next b' edit heq =>
    rw [heq] at hwritten
    right
    obtain ⟨rfl, _⟩ := Buffer.apply_eq_ok heq
    have hquiet := fun message => (hput b' hwritten).trans (quiet_log _ .debug message)
    have hview := fun message => ((hquiet message).view id).trans (view_hide s id)
    rw [view_of_context? hc] at hview
    rcases retain_view (hview _) hready hset b' with hcuts | hdrops
    · exact .inl (hcuts.of_changes ((changes_hide s id).trans (hquiet _).changes)
        ((hquiet _).context? id))
    · exact .inr (hdrops.of_changes ((changes_hide s id).trans (hquiet _).changes))

end Accept

/-- **Accepting** draws anew, takes an item out, or uses the last item up. -/
theorem accept_view (s : Session) (id : String) :
    Changes id nothing s (s.accept id).1 ∨ Cuts id s (s.accept id).1 ∨
      Drops id s (s.accept id).1 := by
  rw [accept]
  split
  · exact .inl (quiet_handBack s id).changes
  · next c hc =>
    split
    · next item rest hready hset =>
      split
      · exact .inl (.refl s)
      · next b _ =>
        rw [acceptAt]
        split
        · exact .inl (.refl s)
        · next row _ =>
          split
          · next before x after hfound =>
            rw [(itemAt?_eq_some hfound).1] at hset
            exact applyItem_view hc hready hset b
          · split
            · exact .inl (changes_jump s id _)
            · exact .inl (.refl s)
    · exact .inl (quiet_handBack s id).changes

end Session

end GhostEdit
