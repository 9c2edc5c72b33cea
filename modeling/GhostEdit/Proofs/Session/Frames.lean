import GhostEdit.Proofs.Session.Changes

/-!
# What an operation leaves alone

What an operation does to the suggestions of a buffer is said by `Session.Changes`. This file is
about the rest of a session: it says of each operation which buffers and which requests it leaves as
they were, and that the cache and what the session was set up with are the same. There are three
kinds of operations, and a relation for each.

* `DrawsOnly`: most operations draw in one buffer, and leave all else alone.
* `Draws`: taking an answer over may also ask something of the cache.
* `Edits`: accepting and dismissing may change the buffer itself, and note at its requests how many
  sets there were.

Proofs mostly need a part of that: that a buffer is as it was, its marks apart (`Keeps`), that all
others are (`KeepsTo`), or that the stored answers and the requests are (`ledger`). Where a request
starts or ends, the list of requests itself changes: that is none of the three, and the proofs that
follow a request say what changes there.

## Main definitions

* `Session.Carries`, `Session.Keeps`: the buffer is the same, its marks apart
* `Session.Setup`: what a session was set up with
* `Session.requestsOf`: the requests that run for a buffer
* `Session.KeepsTo`: an operation that changes one buffer and its requests at most
* `Session.DrawsOnly`, `Session.Draws`, `Session.Edits`: the kinds of operations

## Main results

* `Session.drawsOnly_present`, `Session.drawsOnly_giveUp`, `Session.drawsOnly_expire`
* `Session.draws_commit`
* `Session.edits_dismiss`, `Session.edits_accept`
-/

namespace GhostEdit

/-- What identifies a request: its number, its buffer and the key for its answer. -/
def Request.label (r : Request) : Nat × String × String := (r.id, r.buffer, r.key)

namespace Session

variable {s t u : Session} {id other : String} {n : Nat} {b : Buffer}

/-! ## Parts of a session -/

/-- The buffer with a name is `b`, whatever is drawn in it. -/
def Carries (s : Session) (id : String) (b : Buffer) : Prop :=
  ∃ overlay, s.buffers.get? id = some { b with overlay }

theorem carries_of_get? (h : s.buffers.get? id = some b) : s.Carries id b := ⟨b.overlay, h⟩

/-- What a session was set up with. -/
structure Setup where
  settings : Settings
  now : Seconds
  provider : String
  directory : Path
  rules : Option IgnoreRules
  unreadable : Option Failure
  unwritable : Option Failure

def setup (s : Session) : Setup :=
  ⟨s.settings, s.now, s.provider, s.directory, s.rules, s.unreadable, s.unwritable⟩

/-- The requests that run for a buffer. -/
def requestsOf (s : Session) (id : String) : List Request := s.requests.filter (·.buffer = id)

/-- The requests that run, by what identifies them. -/
def labels (s : Session) : List (Nat × String × String) := s.requests.map Request.label

/-- What a session keeps about answers: those in the cache, and the requests that run. -/
def ledger (s : Session) : Cache × List (Nat × String × String) := (s.cache, s.labels)

theorem labels_map (s : Session) {f : Request → Request} (hf : ∀ r, (f r).label = r.label) :
    ({ s with requests := s.requests.map f } : Session).labels = s.labels := by
  show (s.requests.map f).map Request.label = s.requests.map Request.label
  rw [List.map_map]
  exact List.map_congr_left fun r _ => hf r

/-! ## Kinds of operations -/

/-- An operation that draws at most: a buffer stays as it is, and so do requests and clock. -/
structure Keeps (id : String) (s t : Session) : Prop where
  carries : ∀ b, s.Carries id b → t.Carries id b
  requests : t.requests = s.requests
  now : t.now = s.now

/-- No buffer but one is changed, no request but those for it, and nothing of the setup. -/
structure KeepsTo (id : String) (s t : Session) : Prop where
  buffer : ∀ other, other ≠ id → t.buffers.get? other = s.buffers.get? other
  requests : ∀ other, other ≠ id → t.requestsOf other = s.requestsOf other
  setup : t.setup = s.setup

/-- An operation that draws in one buffer at most, and may use the cache. -/
structure Draws (id : String) (s t : Session) : Prop extends Keeps id s t where
  elsewhere : ∀ other, other ≠ id → t.buffers.get? other = s.buffers.get? other
  setup : t.setup = s.setup

/-- An operation that draws in one buffer at most. -/
structure DrawsOnly (id : String) (s t : Session) : Prop extends Draws id s t where
  cache : t.cache = s.cache

/-- An operation that edits one buffer at most. What is noted at its requests is not what identifies
them. -/
structure Edits (id : String) (s t : Session) : Prop extends KeepsTo id s t where
  ledger : t.ledger = s.ledger

theorem Keeps.request? (h : Keeps id s t) (n : Nat) : t.request? n = s.request? n := by
  rw [Session.request?, h.requests, Session.request?]

theorem Keeps.labels (h : Keeps id s t) : t.labels = s.labels := by
  rw [Session.labels, h.requests, Session.labels]

theorem KeepsTo.refl (s : Session) : KeepsTo id s s := ⟨fun _ _ => rfl, fun _ _ => rfl, rfl⟩

theorem KeepsTo.trans (h : KeepsTo id s t) (h' : KeepsTo id t u) : KeepsTo id s u := by
  refine ⟨fun other hne => ?_, fun other hne => ?_, h'.setup.trans h.setup⟩
  · exact (h'.buffer other hne).trans (h.buffer other hne)
  · exact (h'.requests other hne).trans (h.requests other hne)

theorem Draws.trans (h : Draws id s t) (h' : Draws id t u) : Draws id s u := by
  refine ⟨⟨fun b hb => h'.carries b (h.carries b hb), h'.requests.trans h.requests,
    h'.now.trans h.now⟩, fun other hne => ?_, h'.setup.trans h.setup⟩
  exact (h'.elsewhere other hne).trans (h.elsewhere other hne)

theorem Draws.keepsTo (h : Draws id s t) : KeepsTo id s t := by
  refine ⟨h.elsewhere, fun other _ => ?_, h.setup⟩
  rw [requestsOf, h.requests, requestsOf]

theorem DrawsOnly.trans (h : DrawsOnly id s t) (h' : DrawsOnly id t u) : DrawsOnly id s u :=
  ⟨h.toDraws.trans h'.toDraws, h'.cache.trans h.cache⟩

theorem DrawsOnly.edits (h : DrawsOnly id s t) : Edits id s t :=
  ⟨h.keepsTo, Prod.ext h.cache h.labels⟩

theorem Edits.trans (h : Edits id s t) (h' : Edits id t u) : Edits id s u :=
  ⟨h.toKeepsTo.trans h'.toKeepsTo, h'.ledger.trans h.ledger⟩

theorem Edits.cache (h : Edits id s t) : t.cache = s.cache := congrArg Prod.fst h.ledger

theorem Edits.labels (h : Edits id s t) : t.labels = s.labels := congrArg Prod.snd h.ledger

/-- An operation that touches no buffer, no request and not the setup. -/
theorem draws_of_eq (hbuffers : t.buffers = s.buffers) (hrequests : t.requests = s.requests)
    (hsetup : t.setup = s.setup) : Draws id s t := by
  refine ⟨⟨fun b hb => ?_, hrequests, congrArg Setup.now hsetup⟩, fun other _ => ?_, hsetup⟩
  · rw [Carries, hbuffers]
    exact hb
  · rw [hbuffers]

/-- An operation that does not touch the cache either. -/
theorem drawsOnly_of_eq (hbuffers : t.buffers = s.buffers) (hrequests : t.requests = s.requests)
    (hsetup : t.setup = s.setup) (hcache : t.cache = s.cache) : DrawsOnly id s t :=
  ⟨draws_of_eq hbuffers hrequests hsetup, hcache⟩

theorem DrawsOnly.refl (s : Session) : DrawsOnly id s s := drawsOnly_of_eq rfl rfl rfl rfl

/-! ## Operations that draw -/

theorem drawsOnly_noteRecords (s : Session) (records : List Record) :
    DrawsOnly id s (s.noteRecords records) :=
  drawsOnly_of_eq rfl rfl rfl rfl

theorem drawsOnly_log (s : Session) (severity : Severity) (message : String) :
    DrawsOnly id s (s.log severity message) :=
  drawsOnly_noteRecords s _

theorem drawsOnly_report (s : Session) (e : Failure) (place : String) :
    DrawsOnly id s (s.report e place) :=
  drawsOnly_of_eq rfl rfl rfl rfl

theorem drawsOnly_setContext (s : Session) (c : Context) : DrawsOnly id s (s.setContext id c) :=
  drawsOnly_of_eq rfl rfl rfl rfl

theorem drawsOnly_changeContext (s : Session) (f : Context → Context) :
    DrawsOnly id s (s.changeContext id f) := by
  rw [changeContext]
  split
  · exact drawsOnly_setContext ..
  · exact .refl s

theorem drawsOnly_touch (s : Session) (id : String) : DrawsOnly id s (s.touch id) := by
  rw [touch_eq]
  exact drawsOnly_of_eq rfl rfl rfl rfl

theorem drawsOnly_enter (s : Session) (id : String) : DrawsOnly id s (s.enter id) := by
  obtain ⟨contexts, hframe⟩ := enter_frame s id
  rw [hframe]
  exact drawsOnly_of_eq rfl rfl rfl rfl

theorem drawsOnly_record (id : String) (s : Session) (buffer : String) (started : Seconds)
    (cacheHit : Bool) (sets chars : Nat) (success : Bool) :
    DrawsOnly id s (s.record buffer started cacheHit sets chars success).1 := by
  obtain ⟨metrics, journal, hframe⟩ := record_frame s buffer started cacheHit sets chars success
  rw [hframe]
  exact drawsOnly_of_eq rfl rfl rfl rfl

theorem drawsOnly_hide (s : Session) (id : String) : DrawsOnly id s (s.hide id) := by
  refine ⟨⟨⟨fun b hb => ?_, rfl, rfl⟩, fun other hne => ?_, rfl⟩, rfl⟩
  · obtain ⟨overlay, hb⟩ := hb
    have hhidden := get?_hide hb
    exact ⟨[], hhidden⟩
  · show (s.buffers.adjust id _).get? other = _
    rw [Buffers.adjust]
    split
    · exact (Buffers.get?_put ..).trans (if_neg hne)
    · rfl

/-- Drawing puts marks on the overlay of a buffer and touches nothing else of it. -/
theorem get?_drawOn (board : Board) {bs : Buffers} (hb : bs.get? id = some b)
    (set : SuggestionSet) (rows : List Value) (cursor : Cursor) :
    ∃ overlay, (board.drawOn bs id set rows cursor).2.1.get? id = some { b with overlay } := by
  have hadjust : bs.adjust id (fun b => { b with overlay := [] })
      = bs.put id { b with overlay := [] } := by rw [Buffers.adjust, hb]
  have hcleared : (bs.put id { b with overlay := [] }).get? id = some { b with overlay := [] } :=
    (Buffers.get?_put ..).trans (if_pos rfl)
  rw [Board.drawOn, Board.clearOn, hadjust]
  dsimp only
  split
  · exact ⟨[], hcleared⟩
  · exact ⟨[], hcleared⟩
  · next marks _ _ =>
    rw [Buffers.modify_of_get? hcleared]
    exact ⟨marks, (Buffers.get?_put ..).trans (if_pos rfl)⟩

/-- It touches no other buffer. -/
theorem get?_drawOn_of_ne (board : Board) {bs : Buffers} (hne : other ≠ id)
    (set : SuggestionSet) (rows : List Value) (cursor : Cursor) :
    (board.drawOn bs id set rows cursor).2.1.get? other = bs.get? other := by
  have hcleared : (bs.adjust id fun b => { b with overlay := [] }).get? other = bs.get? other := by
    rw [Buffers.adjust]
    split
    · exact (Buffers.get?_put ..).trans (if_neg hne)
    · rfl
  rw [Board.drawOn, Board.clearOn]
  dsimp only
  split
  · exact hcleared
  · exact hcleared
  · split
    · next hmarked =>
      obtain ⟨b, _, hmarked⟩ := bind_eq_ok hmarked
      obtain ⟨b', _, hmarked⟩ := bind_eq_ok hmarked
      cases hmarked
      exact (Buffers.get?_put ..).trans ((if_neg hne).trans hcleared)
    · exact hcleared

theorem drawsOnly_draw (s : Session) (id : String) (shape : Buffer) (set : SuggestionSet) :
    DrawsOnly id s (s.draw id shape set).1 := by
  have hdrawn : DrawsOnly id s
      { s with
        board := (s.board.drawOn s.buffers id set shape.lines shape.cursor).1
        buffers := (s.board.drawOn s.buffers id set shape.lines shape.cursor).2.1 } := by
    refine ⟨⟨⟨fun b hb => ?_, rfl, rfl⟩, fun other hne => ?_, rfl⟩, rfl⟩
    · obtain ⟨_, hb⟩ := hb
      exact get?_drawOn s.board hb set shape.lines shape.cursor
    · exact get?_drawOn_of_ne s.board hne set shape.lines shape.cursor
  rw [draw]
  dsimp only
  split
  · exact hdrawn
  · exact hdrawn.trans (drawsOnly_noteRecords ..)

theorem drawsOnly_present (s : Session) (id : String) : DrawsOnly id s (s.present id).1 := by
  have hhide := drawsOnly_hide s id
  rw [present]
  split
  · exact hhide
  · split
    · split
      · exact hhide
      · exact hhide
      · exact hhide.trans (drawsOnly_draw ..)
    · exact hhide

theorem drawsOnly_rotate (s : Session) (id : String) (step : Int) :
    DrawsOnly id s (s.rotate id step).1 := by
  rw [rotate]
  split
  · exact .refl s
  · split
    · exact (drawsOnly_setContext ..).trans (drawsOnly_present ..)
    · exact .refl s

theorem drawsOnly_settle (s : Session) (id : String) : DrawsOnly id s (s.settle id) :=
  (drawsOnly_changeContext s _).trans (drawsOnly_hide _ id)

theorem drawsOnly_giveUp (s : Session) (id : String) (n : Nat) (e : Failure) (place : String) :
    DrawsOnly id s (s.giveUp id n e place) := by
  have hreport : DrawsOnly id s (s.report e place) := drawsOnly_report ..
  rw [giveUp]
  split
  · exact hreport.trans (drawsOnly_settle ..)
  · exact hreport

theorem drawsOnly_offer (s : Session) (id : String) (sets : List SuggestionSet) :
    DrawsOnly id s (s.offer id sets).1 := by
  rw [offer]
  split
  · exact (drawsOnly_settle s id).trans (drawsOnly_of_eq rfl rfl rfl rfl)
  · have hready := fun f message => (drawsOnly_changeContext s f).trans
      ((drawsOnly_log (s.changeContext id f) .info message).trans (drawsOnly_present _ id))
    dsimp only
    split
    · next heq => exact of_fst (hready _ _) heq
    · next heq => exact of_fst (hready _ _) heq

theorem drawsOnly_fail {r : Request} (hr : s.request? n = some r) (e : Failure) :
    DrawsOnly r.buffer s (s.fail n e).1 := by
  rw [fail, hr]
  dsimp only
  split
  · exact (drawsOnly_giveUp ..).trans (drawsOnly_record ..)
  · exact drawsOnly_log ..

/-! ### Edits and timers -/

theorem drawsOnly_resetController (s : Session) (id : String) :
    DrawsOnly id s (s.resetController id) := by
  rw [resetController]
  split
  · exact .refl s
  · exact drawsOnly_of_eq rfl rfl rfl rfl

theorem drawsOnly_shouldTrigger (s : Session) (id : String) :
    DrawsOnly id s (s.shouldTrigger id).1 := by
  rw [shouldTrigger]
  split
  · exact .refl s
  · split
    · exact drawsOnly_log ..
    · exact .refl s
    · split
      · exact .refl s
      · exact drawsOnly_log ..
      · exact .refl s

theorem drawsOnly_noteEdit (s : Session) (id : String) (b : Buffer) :
    DrawsOnly id s (s.noteEdit id b).1 := by
  have htouched := drawsOnly_touch s id
  rw [noteEdit]
  split
  · exact htouched
  · rw [startTimer]
    split
    · exact htouched.trans (drawsOnly_setContext ..)
    · exact htouched.trans (drawsOnly_of_eq rfl rfl rfl rfl)

theorem drawsOnly_editSignal (s : Session) (id : String) :
    DrawsOnly id s (s.editSignal id).1 := by
  have hasked := drawsOnly_shouldTrigger s id
  rw [editSignal]
  split
  · next heq => exact of_fst hasked heq
  · next heq => exact of_fst hasked heq
  · next m heq =>
    have hasked : DrawsOnly id s m := of_fst hasked heq
    split
    · exact hasked
    · exact hasked.trans (drawsOnly_noteEdit ..)

theorem drawsOnly_debounced (s : Session) (loop : Bool) (id : String) :
    DrawsOnly id s (s.debounced loop id).1 := by
  have hasked := drawsOnly_shouldTrigger s id
  rw [debounced]
  split
  · next heq => exact of_fst hasked heq
  · next heq => exact of_fst hasked heq
  · next m heq =>
    have hasked : DrawsOnly id s m := of_fst hasked heq
    split
    · exact hasked.trans (drawsOnly_of_eq rfl rfl rfl rfl)
    · exact hasked.trans (drawsOnly_log ..)

theorem drawsOnly_expire (s : Session) (loop : Bool) (id : String) :
    DrawsOnly id s (s.expire loop id).1 := by
  rw [expire]
  split
  · exact .refl s
  · have hput : ∀ d records, DrawsOnly id s
        (({ s with controllers := s.controllers.put id d } : Session).noteRecords records) :=
      fun _ _ => drawsOnly_of_eq rfl rfl rfl rfl
    dsimp only
    split
    · exact hput _ _
    · exact hput _ _
    · exact (hput _ _).trans (drawsOnly_debounced ..)

/-! ## Operations that use the cache -/

theorem draws_cached (s : Session) (key : String) : Draws id s (s.cached key).1 := by
  obtain ⟨cache, reporter, journal, hframe⟩ := cached_frame s key
  rw [hframe]
  exact draws_of_eq rfl rfl rfl

theorem draws_keep (s : Session) (key : String) (answer : Text) :
    Draws id s (s.keep key answer) := by
  obtain ⟨cache, reporter, journal, hframe⟩ := keep_frame s key answer
  rw [hframe]
  exact draws_of_eq rfl rfl rfl

theorem draws_commit (s : Session) (id : String) (n : Nat) (answer : Text)
    (key : Option String) : Draws id s (s.commit id n answer key).1 := by
  have hnoted : ∀ records, Draws id s (s.noteRecords records) := fun records =>
    (drawsOnly_noteRecords s records).toDraws
  rw [commit]
  split
  · split
    · exact (DrawsOnly.refl s).toDraws
    · dsimp only
      split
      · exact hnoted _
      · split
        · exact (hnoted _).trans ((draws_keep ..).trans (drawsOnly_offer ..).toDraws)
        · exact (hnoted _).trans (drawsOnly_offer ..).toDraws
  · exact (drawsOnly_log ..).toDraws

/-! ## Operations that edit a buffer -/

/-- A buffer is put in place. -/
theorem edits_put (s : Session) (b : Buffer) :
    Edits id s { s with buffers := s.buffers.put id b } :=
  ⟨⟨fun _ hne => (Buffers.get?_put ..).trans (if_neg hne), fun _ _ => rfl, rfl⟩, rfl⟩

theorem edits_modify {f : Buffer → Except Failure Buffer} {bs : Buffers}
    (h : s.buffers.modify id f = .ok bs) : Edits id s { s with buffers := bs } := by
  obtain ⟨b, _, h⟩ := bind_eq_ok h
  obtain ⟨b', _, h⟩ := bind_eq_ok h
  cases h
  exact edits_put s b'

/-- Requests for one buffer are changed. -/
theorem keepsTo_map (s : Session) {f : Request → Request} (hbuffer : ∀ r, (f r).buffer = r.buffer)
    (hf : ∀ r ∈ s.requests, r.buffer ≠ id → f r = r) :
    KeepsTo id s { s with requests := s.requests.map f } := by
  refine ⟨fun _ _ => rfl, fun other hne => ?_, rfl⟩
  show List.filter _ (s.requests.map f) = List.filter _ s.requests
  rw [List.filter_map]
  have hsame : (fun r : Request => decide (r.buffer = other)) ∘ f
      = fun r => decide (r.buffer = other) := by
    funext r
    rw [Function.comp_apply, hbuffer]
  rw [hsame]
  refine (List.map_congr_left fun r hr => ?_).trans (List.map_id _)
  obtain ⟨hmem, hother⟩ := List.mem_filter.mp hr
  have hother : r.buffer = other := of_decide_eq_true hother
  exact hf r hmem (hother ▸ hne)

theorem edits_dropContext (s : Session) (id : String) : Edits id s (s.dropContext id) := by
  have hcontext : DrawsOnly id s { s with contexts := s.contexts.erase id } :=
    drawsOnly_of_eq rfl rfl rfl rfl
  have hmarked : ∀ count, Edits id { s with contexts := s.contexts.erase id }
      { s with
        contexts := s.contexts.erase id
        requests := s.requests.map fun r =>
          if r.buffer = id && r.dropped.isNone then { r with dropped := some count } else r } := by
    intro count
    refine ⟨keepsTo_map _ (fun r => ?_) fun r _ hne => ?_, Prod.ext rfl (labels_map s fun r => ?_)⟩
    · split <;> rfl
    · simp [hne]
    · split <;> rfl
  exact hcontext.edits.trans (hmarked _)

theorem edits_dismiss (s : Session) (id : String) : Edits id s (s.dismiss id) :=
  ((drawsOnly_resetController s id).trans (drawsOnly_hide _ id)).edits.trans
    (edits_dropContext _ id)

theorem edits_handBack (s : Session) (id : String) : Edits id s (s.handBack id).1 := by
  have hfed : ∀ records, Edits id s (s.noteRecords records) := fun records =>
    (drawsOnly_noteRecords s records).edits
  rw [handBack]
  dsimp only
  split
  · split
    · exact hfed _
    · next hbs => exact (hfed _).trans (edits_modify hbs)
  · exact (DrawsOnly.refl s).edits

theorem edits_jump (s : Session) (id : String) (item : Item) : Edits id s (s.jump id item).1 := by
  rw [jump]
  split
  · exact (drawsOnly_log ..).edits
  · next hbs =>
    have hmoved : Edits id s _ := (drawsOnly_log ..).edits.trans (edits_modify hbs)
    have hdrawn := hmoved.trans
      ((drawsOnly_changeContext _ fun c => { c with moving := false }).trans
        (drawsOnly_present _ id)).edits
    split
    · next heq => exact of_fst hdrawn heq
    · next heq => exact of_fst hdrawn heq

theorem edits_retain (s : Session) (id : String) (c : Context) (b : Buffer)
    (left : SuggestionSet) : Edits id s (s.retain id c b left).1 := by
  rw [retain]
  split
  · exact (drawsOnly_setContext ..).edits.trans (edits_dismiss ..)
  · have hdrawn := fun c => ((drawsOnly_setContext s c).trans (drawsOnly_present _ id)).edits
    split
    · next heq => exact of_fst (hdrawn _) heq
    · next heq => exact of_fst (hdrawn _) heq

theorem edits_applyItem (s : Session) (id : String) (c : Context) (b : Buffer) (item : Item)
    (others : SuggestionSet) : Edits id s (s.applyItem id c b item others).1 := by
  have hput : ∀ b', Edits id s
      { (s.hide id).noteRecords [Buffer.applyLog item] with
        buffers := (s.hide id).buffers.put id b' } := fun b' =>
    ((drawsOnly_hide s id).trans (drawsOnly_noteRecords ..)).edits.trans (edits_put _ b')
  rw [applyItem]
  dsimp only
  split
  · exact (hput _).trans (drawsOnly_changeContext ..).edits
  · exact (hput _).trans ((drawsOnly_log ..).edits.trans (edits_retain ..))

/-- **Accepting** edits one buffer at most. -/
theorem edits_accept (s : Session) (id : String) : Edits id s (s.accept id).1 := by
  have hnone : Edits id s s := (DrawsOnly.refl s).edits
  rw [accept]
  split
  · exact edits_handBack s id
  · split
    · split
      · exact hnone
      · rw [acceptAt]
        split
        · exact hnone
        · split
          · exact edits_applyItem ..
          · split
            · exact edits_jump ..
            · exact hnone
    · exact edits_handBack s id

end Session

end GhostEdit
