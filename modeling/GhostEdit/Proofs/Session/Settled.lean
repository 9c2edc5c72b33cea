import GhostEdit.Proofs.Clock
import GhostEdit.Proofs.Session.Newest
import GhostEdit.Proofs.Session.Round
import GhostEdit.Proofs.Session.Stored
import GhostEdit.Proofs.Text.Utf8

/-!
# A round settles

A round can be over in many ways: there is no such buffer, the cursor is nowhere in it, the answer
was stored, the provider is not asked, breaks or delivers what cannot be read, the answer has no
sets, or it has some. This file shows that each of them leaves the buffer in one of two states, and
that the round tells which: sets are on offer and the first one is selected, or there is nothing on
offer and nothing drawn.

It also says which of the two it is. The sets on offer are those of the answer that the round comes
to (`Session.reply?`), and so a round that never took an answer over would not do.

## Where a round could break

Three steps of a round hand their failures to the caller: the fingerprint of the rows, taking a
stored answer over, and noting how long the request took. The first cannot fail over texts
(`Fingerprint.exists_of`), the second not for an answer that the session itself has stored
(`Session.run_readable`), and the third not as long as the clock shows a finite time
(`Seconds.toMillis_sub_self`). Other failures reach the provider's caller, who gives the request up.

## Main definitions

* `Session.View.Settled`: a buffer after a round
* `Session.reply?`, `Session.proposals`: the answer a round comes to, and its sets
* `Session.Awaits`: a request whose answer is still to come

## Main results

* `Session.Awaits.follow`: a request is settled by every stream that is closed
* `Session.settles_round`: so is every round
* `Session.round_settles`: and every round after every history
-/

namespace GhostEdit

/-! ## The fingerprint of texts -/

/-- **Texts have a fingerprint**: no half of a pair stands in them. -/
theorem Fingerprint.exists_of (row col : Int) (texts : List Text) :
    ∃ key, Fingerprint.of row col (texts.map .str) = .ok key := by
  let codes := Utf8.codesOf (Text.unlines texts)
  have hgap : Utf8.gapFrom? 0 (tail codes) = none := by
    rw [Utf8.gapFrom?_eq_none_iff, List.any_eq_false]
    intro n hn
    rw [Utf8.isHalf_of_mem_codesOf (List.mem_of_mem_drop hn)]
    nofun
  simp only [Fingerprint.of, Value.joinRows_texts, Utf8.encode, bind, Except.bind, codes, hgap]
  exact ⟨_, rfl⟩

/-! ## The sets of an answer -/

/-- The sets that come of an answer: none if there is no answer, or if it cannot be read. -/
def Answer.setsOf (answer : Option Text) (rows : List Text) : List SuggestionSet :=
  (answer.bind fun answer => (Answer.parse answer rows).toOption).getD []

theorem Answer.setsOf_some {answer : Text} {rows : List Text} {sets : List SuggestionSet}
    (h : Answer.parse answer rows = .ok sets) : setsOf (some answer) rows = sets := by
  rw [setsOf, Option.bind_some, h]
  rfl

theorem Answer.setsOf_some_of_error {answer : Text} {rows : List Text} {e : Failure}
    (h : Answer.parse answer rows = .error e) : setsOf (some answer) rows = [] := by
  rw [setsOf, Option.bind_some, h]
  rfl

theorem Answer.ne_nil_of_mem_setsOf {answer : Option Text} {rows : List Text} {set : SuggestionSet}
    (h : set ∈ setsOf answer rows) : set ≠ [] := by
  cases answer with
  | none => cases h
  | some answer =>
    cases hparse : Answer.parse answer rows with
    | error e =>
      rw [setsOf_some_of_error hparse] at h
      cases h
    | ok sets =>
      rw [setsOf_some hparse] at h
      exact (exists_assemble_of_mem_parse hparse h).1

/-- A buffer in which a set can be drawn: its rows are strings and its cursor has a row. -/
structure Buffer.Drawable (b : Buffer) : Prop where
  strings : ∀ row ∈ b.lines, row.IsString
  cursor : ∃ row, b.cursor.row = .ok row

namespace Session

variable {s t : Session} {id : String} {n : Nat} {b : Buffer} {c : Context} {r : Request}
  {answer : Text} {sets : List SuggestionSet} {stream : List Message → List StreamEvent}

/-! ## Settled buffers -/

/-- A buffer after a round that came to these sets: they are on offer and the first is selected, or
there are none and nothing is drawn. -/
inductive View.Settled : View → List SuggestionSet → Prop
  | idle {c : Context} (hphase : c.phase = .idle) (hsets : c.sets = []) :
      Settled ⟨some c, [], []⟩ []
  | ready {c : Context} (overlay drawn : List Mark) (hphase : c.phase = .ready)
      (hindex : c.index = 0) (hne : c.sets ≠ []) : Settled ⟨some c, overlay, drawn⟩ c.sets

/-- An operation settles a buffer and tells whether there are sets on offer. -/
structure Settles (id : String) (sets : List SuggestionSet)
    (result : Session × Except Failure Bool) : Prop where
  told : result.2 = .ok (!sets.isEmpty)
  view : (result.1.view id).Settled sets

theorem settled_settle (hc : s.context? id = some c) : ((s.settle id).view id).Settled [] := by
  rw [settle, changeContext, hc, view_hide, view_setContext]
  exact .idle rfl rfl

theorem settled_giveUp (h : s.isCurrent id n = true) (e : Failure) (place : String) :
    ((s.giveUp id n e place).view id).Settled [] := by
  obtain ⟨c, hc, _⟩ := exists_of_isCurrent h
  have hcurrent : (s.report e place).isCurrent id n = true := h
  rw [giveUp, if_pos hcurrent]
  exact settled_settle (s := s.report e place) hc

/-- **Offering sets** that can be drawn. -/
theorem settles_offer (hc : s.context? id = some c) (hb : s.Carries id b) (hdraw : b.Drawable)
    (hsets : ∀ set ∈ sets, ∀ item ∈ set, 1 ≤ item.startRow) :
    Settles id sets (s.offer id sets) := by
  rw [offer]
  split
  · next hnil =>
    obtain rfl := List.isEmpty_iff.mp hnil
    refine ⟨rfl, ?_⟩
    rw [(quiet_notify ..).view]
    exact settled_settle hc
  · next hne =>
    have hne : sets ≠ [] := fun hnil => hne (List.isEmpty_iff.mpr hnil)
    obtain ⟨row, hcursor⟩ := hdraw.cursor
    obtain ⟨overlay, hb⟩ := hb
    let message := s!"{sets.length} suggestion set(s) ready for {id}"
    let offered : Session :=
      (s.setContext id { c with sets, index := 0, phase := .ready }).log .info message
    have hcontext : offered.context? id = some { c with sets, index := 0, phase := .ready } :=
      context?_setContext _
    have hpresent : (offered.present id).2 = .ok () := by
      refine present_ok (b := { b with overlay }) hb hdraw.strings hcursor ?_
      intro set hset
      rw [current?, hcontext] at hset
      exact hsets set (List.mem_of_getElem? hset)
    have hkept : (offered.present id).1.context? id
        = some { c with sets, index := 0, phase := .ready } := by
      rw [context?, present_contexts]
      exact hcontext
    obtain ⟨t, heq⟩ : ∃ t, offered.present id = (t, .ok ()) :=
      ⟨(offered.present id).1, Prod.ext rfl hpresent⟩
    rw [heq] at hkept
    have hchanged : (s.changeContext id fun c =>
        { c with sets, index := 0, phase := .ready }).log .info message = offered := by
      rw [changeContext, hc]
    dsimp only
    rw [hchanged, heq]
    refine ⟨?_, ?_⟩
    · rw [List.isEmpty_eq_false_iff.mpr hne]
      rfl
    · rw [view_of_context? hkept]
      exact .ready _ _ rfl rfl hne

/-- **Taking an answer over** that can be read. -/
theorem settles_commit (hcurrent : s.isCurrent id n = true) (hb : s.Carries id b)
    (hdraw : b.Drawable) (hparse : Answer.parse answer (b.lines.map Value.plain) = .ok sets)
    (key : Option String) : Settles id sets (s.commit id n answer key) := by
  obtain ⟨c, hc, _⟩ := exists_of_isCurrent hcurrent
  obtain ⟨overlay, hget⟩ := hb
  have hplaced : ∀ set ∈ sets, ∀ item ∈ set, 1 ≤ item.startRow := by
    intro set hset item hitem
    exact ((Answer.parse_placed hparse hset).fits item hitem).one_le_startRow
  have hnoted := quiet_noteRecords s (Answer.parseLog answer (b.lines.map Value.plain))
  have hdraws : Draws id s (s.noteRecords (Answer.parseLog answer (b.lines.map Value.plain))) :=
    (drawsOnly_noteRecords ..).toDraws
  rw [commit, if_pos hcurrent, Buffers.get_of_get? hget]
  dsimp only
  rw [hparse]
  dsimp only
  split
  · next key =>
    have hkept := hnoted.trans (quiet_keep _ key answer)
    exact settles_offer ((hkept.context? id).trans hc)
      ((hdraws.trans (draws_keep ..)).carries b ⟨overlay, hget⟩) hdraw hplaced
  · exact settles_offer ((hnoted.context? id).trans hc) (hdraws.carries b ⟨overlay, hget⟩) hdraw
      hplaced

/-- An answer that cannot be read changes nothing. -/
theorem commit_of_error {e : Failure} (hcurrent : s.isCurrent id n = true) (hb : s.Carries id b)
    (hparse : Answer.parse answer (b.lines.map Value.plain) = .error e) (key : Option String) :
    ∃ records, s.commit id n answer key = (s.noteRecords records, .error e) := by
  obtain ⟨overlay, hget⟩ := hb
  rw [commit, if_pos hcurrent, Buffers.get_of_get? hget]
  dsimp only
  rw [hparse]
  exact ⟨_, rfl⟩

/-! ## What a provider reports -/

/-- A report of the provider settles the buffer of a request and notes whether its answer was taken
over. -/
structure Ends (id : String) (n : Nat) (sets : List SuggestionSet)
    (result : Session × Except Failure Unit) : Prop where
  told : result.2 = .ok ()
  view : (result.1.view id).Settled sets
  flagged : result.1.flagged n = !sets.isEmpty

theorem Ends.orAbort {result : Session × Except Failure Unit} (h : Ends id n sets result) :
    Ends id n sets (orAbort n result) := by
  rw [orAbort_of_ok h.told]
  exact h

theorem ends_record {started : Seconds} {millis : Int}
    (hmillis : (s.now - started).toMillis = .ok millis) (hview : (s.view id).Settled sets)
    (hflagged : s.flagged n = !sets.isEmpty) (cacheHit : Bool) (count chars : Nat)
    (success : Bool) :
    Ends id n sets (s.record id started cacheHit count chars success) := by
  refine ⟨?_, ?_, ?_⟩
  · rw [record_snd, hmillis]
    rfl
  · rw [(quiet_record ..).view]
    exact hview
  · rw [flagged_record]
    exact hflagged

/-- A request that is the newest of its buffer, and whose answer is still to come. -/
structure Awaits (s : Session) (n : Nat) (r : Request) (b : Buffer) : Prop where
  request : s.request? n = some r
  unset : r.committed = false
  current : s.isCurrent r.buffer n = true
  carries : s.Carries r.buffer b
  drawable : b.Drawable
  millis : ∃ millis, (s.now - r.started).toMillis = .ok millis

theorem Awaits.frame (h : Awaits s n r b) (hquiet : Quiet s t) (hkeeps : Keeps r.buffer s t) :
    Awaits t n r b where
  request := (hkeeps.request? n).trans h.request
  unset := h.unset
  current := by
    rw [isCurrent, hquiet.context?]
    exact h.current
  carries := hkeeps.carries b h.carries
  drawable := h.drawable
  millis := by
    rw [hkeeps.now]
    exact h.millis

/-- A request that is given up. -/
theorem Awaits.giveUp (h : Awaits s n r b) (e : Failure) (place : String) :
    Ends r.buffer n [] ((s.giveUp r.buffer n e place).record r.buffer r.started false 0
      r.answer.length false) := by
  have hdraws := drawsOnly_giveUp s r.buffer n e place
  obtain ⟨millis, hmillis⟩ := h.millis
  rw [← hdraws.now] at hmillis
  refine ends_record hmillis (settled_giveUp h.current e place) ?_ ..
  rw [hdraws.flagged, flagged, h.request, Option.any_some, h.unset]
  rfl

/-- **A failure of the provider.** -/
theorem Awaits.fail (h : Awaits s n r b) (e : Failure) : Ends r.buffer n [] (s.fail n e) := by
  rw [Session.fail, h.request]
  dsimp only
  rw [if_pos h.current]
  exact h.giveUp ..

/-- **The end of an answer**, whether it can be read or not, and whatever it cannot be read for. -/
theorem Awaits.finish (h : Awaits s n r b) :
    Ends r.buffer n (Answer.setsOf (some r.answer) (b.lines.map Value.plain))
      (orAbort n (s.finish n)) := by
  rw [Session.finish, h.request]
  dsimp only
  cases hparse : Answer.parse r.answer (b.lines.map Value.plain) with
  | ok sets =>
    have hdraws := draws_commit s r.buffer n r.answer (some r.key)
    have hsettles := settles_commit h.current h.carries h.drawable hparse (some r.key)
    generalize s.commit r.buffer n r.answer (some r.key) = result at hdraws hsettles
    obtain ⟨t, outcome⟩ := result
    obtain rfl : outcome = .ok (!sets.isEmpty) := hsettles.told
    let noted : Session := t.changeRequest n fun r => { r with committed := !sets.isEmpty }
    have hquiet : Quiet t noted := quiet_changeRequest t n fun _ => rfl
    have hrequest : noted.request? n = some { r with committed := !sets.isEmpty } :=
      request?_changeRequest ((hdraws.request? n).trans h.request) fun _ => rfl
    obtain ⟨millis, hmillis⟩ := h.millis
    have hnow : noted.now = s.now := hdraws.now
    rw [← hnow] at hmillis
    rw [Answer.setsOf_some hparse]
    refine Ends.orAbort (ends_record hmillis ?_ ?_ ..)
    · rw [hquiet.view]
      exact hsettles.view
    · rw [flagged, hrequest]
      rfl
  | error e =>
    obtain ⟨records, hcommit⟩ := commit_of_error h.current h.carries hparse (some r.key)
    have hnoted : Awaits (s.noteRecords records) n r b :=
      h.frame (quiet_noteRecords ..) (drawsOnly_noteRecords ..).toKeeps
    rw [hcommit, Answer.setsOf_some_of_error hparse]
    -- a failure to decode is caught where the answer ends; any other breaks the call of the
    -- provider, and the request is given up by the caller
    cases e with
    | fault f =>
      dsimp only
      split
      · exact (hnoted.giveUp ..).orAbort
      · exact hnoted.fail _
    | _ => exact hnoted.fail _

/-- **A closed stream** settles the buffer of its request. -/
theorem Awaits.follow {events : List StreamEvent} (h : Awaits s n r b) (hparts : r.parts = [])
    (hclosed : StreamEvent.Closed events) :
    Ends r.buffer n (Answer.setsOf (StreamEvent.answer? events) (b.lines.map Value.plain))
      (follow n s events) := by
  obtain ⟨pieces, last, rfl, hlast⟩ := hclosed
  obtain ⟨requests, hsession, hrequest⟩ := foldl_deliver h.request pieces
  have hawaits : Awaits { s with requests } n { r with parts := r.parts ++ pieces } b :=
    { h with request := hrequest }
  rw [follow_pieces, hsession, follow_singleton, StreamEvent.answer?_pieces]
  cases last with
  | chunk piece => exact absurd rfl (hlast piece)
  | finished =>
    have hanswer : ({ r with parts := r.parts ++ pieces } : Request).answer = pieces.flatten := by
      rw [Request.answer, hparts]
      rfl
    have hfinish := hawaits.finish
    rw [hanswer] at hfinish
    rw [StreamEvent.answer?, Option.map_some, List.append_nil]
    exact hfinish
  | failed e => exact (hawaits.fail e).orAbort
  | broke e => exact hawaits.fail _

/-! ## The start of a round -/

/-- How a round goes on after its start. -/
def carryOn (stream : List Message → List StreamEvent) :
    Session × Except Failure Start → Session × Except Failure Bool
  | (s, .error e) => (s, .error e)
  | (s, .ok (.settled committed)) => (s, .ok committed)
  | (s, .ok (.asked request messages)) =>
    settleRequest request (follow request s (stream messages))

theorem round_eq (s : Session) (id : String) (stream : List Message → List StreamEvent) :
    s.round id stream = carryOn stream (s.begin id) := by
  rw [round]
  split
  · next heq => rw [heq, carryOn]
  · next heq => rw [heq, carryOn]
  · next heq => rw [heq, carryOn]

theorem Ends.settles {result : Session × Except Failure Unit} (h : Ends id n sets result) :
    Settles id sets (settleRequest n result) := by
  obtain ⟨t, outcome⟩ := result
  obtain rfl : outcome = .ok () := h.told
  refine ⟨?_, h.view⟩
  show Except.ok (t.conclude n).2 = _
  rw [conclude_snd]
  exact congrArg Except.ok h.flagged

/-- What the provider answers when it is asked at a cursor, if it comes to an end. -/
def told? (s : Session) (row col : Int) (b : Buffer)
    (stream : List Message → List StreamEvent) : Option Text :=
  (s.messagesAt row col b).toOption.bind fun messages => StreamEvent.answer? (stream messages)

/-- The answer that a round comes to: the stored one, or else what the provider answers. -/
def reply? (s : Session) (id : String) (stream : List Message → List StreamEvent) : Option Text :=
  match s.position id with
  | .error _ => none
  | .ok (row, col, b) => (s.stored? id).or (s.told? row col b stream)

/-- The sets that a round comes to. -/
def proposals (s : Session) (id : String) (stream : List Message → List StreamEvent) :
    List SuggestionSet :=
  match s.buffers.get? id with
  | none => []
  | some b => Answer.setsOf (s.reply? id stream) (b.lines.map Value.plain)

/-- **Asking the provider.** -/
theorem settles_ask (hcurrent : s.isCurrent id n = true) (hb : s.Carries id b)
    (hdraw : b.Drawable) (hclock : s.now.value.isFinite = true)
    (hnumbers : ∀ r ∈ s.requests, r.id ≠ n)
    (hclosed : ∀ messages, StreamEvent.Closed (stream messages)) (key : String) (row col : Int) :
    Settles id (Answer.setsOf (s.told? row col b stream) (b.lines.map Value.plain))
      (carryOn stream
        ((s.ask id n key row col b).1, .ok (s.ask id n key row col b).2)) := by
  let noted := s.noteRecords
    (Window.chunksLog b.lines (s.settings.value .windowSize) (s.settings.value .chunkSize))
  have hmessages : noted.messagesAt row col b = s.messagesAt row col b := rfl
  rw [ask, told?, ← hmessages]
  cases noted.messagesAt row col b with
  | error e => exact ⟨rfl, settled_giveUp (s := noted) hcurrent e source⟩
  | ok messages =>
    let r : Request := { id := n, buffer := id, started := s.now, key }
    let asked : Session := { noted with requests := noted.requests ++ [r] }
    have hrequest : asked.request? n = some r := find?_requests_concat hnumbers rfl
    have hawaits : Awaits asked n r b :=
      ⟨hrequest, rfl, hcurrent, hb, hdraw, 0, Seconds.toMillis_sub_self hclock⟩
    exact (hawaits.follow rfl (hclosed messages)).settles

/-- **Going on from a cursor**, with a stored answer that can be read or with the provider. -/
theorem settles_proceed {key : String} (hcurrent : s.isCurrent id n = true)
    (hb : s.Carries id b) (hdraw : b.Drawable) (hclock : s.now.value.isFinite = true)
    (hnumbers : ∀ r ∈ s.requests, r.id ≠ n)
    (hclosed : ∀ messages, StreamEvent.Closed (stream messages))
    (hread : ∀ answer, s.retrieve? key = some answer → Answer.Readable answer) (row col : Int) :
    Settles id (Answer.setsOf ((s.retrieve? key).or (s.told? row col b stream))
      (b.lines.map Value.plain)) (carryOn stream (s.proceed id n key row col b)) := by
  have hfound := cached_snd s key
  obtain ⟨cache, reporter, journal, hframe⟩ := cached_frame s key
  rw [proceed]
  generalize s.cached key = result at hfound hframe
  obtain ⟨m, found⟩ := result
  obtain rfl : m = { s with cache, reporter, journal } := hframe
  obtain rfl : found = s.retrieve? key := hfound
  cases hanswer : s.retrieve? key with
  | none =>
    exact settles_ask (s := { s with cache, reporter, journal }) hcurrent hb hdraw hclock hnumbers
      hclosed key row col
  | some answer =>
    obtain ⟨sets, hparse⟩ := (hread answer hanswer).exists_parse (b.lines.map Value.plain)
    let m : Session := { s with cache, reporter, journal }
    have hsettles : Settles id sets
        ((m.log .debug "Using cached suggestions").commit id n answer none) :=
      settles_commit (s := m.log .debug "Using cached suggestions") hcurrent hb hdraw hparse none
    have hnow : ((m.log .debug "Using cached suggestions").commit id n answer none).1.now = s.now :=
      (draws_commit _ id n answer none).now
    rw [Option.some_or, Answer.setsOf_some hparse]
    dsimp only
    generalize (m.log .debug "Using cached suggestions").commit id n answer none = result
      at hsettles hnow
    obtain ⟨t, outcome⟩ := result
    obtain rfl : outcome = .ok (!sets.isEmpty) := hsettles.told
    -- the time is read again for the record, so that no time has passed
    have hnoted : (t.record id t.now true (t.context id).sets.length answer.length true).2
        = .ok () := by
      rw [record_snd, Seconds.toMillis_sub_self]
      · rfl
      · exact hnow ▸ hclock
    have hview : ((t.record id t.now true (t.context id).sets.length answer.length true).1.view
        id).Settled sets := by
      rw [(quiet_record ..).view]
      exact hsettles.view
    show Settles id sets (carryOn stream
      ((t.record id t.now true (t.context id).sets.length answer.length true).1,
        (t.record id t.now true (t.context id).sets.length answer.length true).2.map
          fun _ => .settled (!sets.isEmpty)))
    rw [hnoted]
    exact ⟨rfl, hview⟩

/-- The request of a round is the newest of its buffer. -/
theorem isCurrent_enter (s : Session) (id : String) :
    (s.enter id).isCurrent id (s.lastRequest + 1) = true := by
  rw [enter_eq, isCurrent, context?_setContext]
  exact decide_eq_true rfl

/-- **A round settles its buffer** and comes to the sets of its reply. -/
theorem settles_round (hnumbers : ∀ r ∈ s.requests, r.id ≤ s.lastRequest)
    (hread : ∀ e ∈ s.cache.entries, Answer.Readable e.payload)
    (htexts : ∀ b, s.buffers.get? id = some b → ∃ texts : List Text, b.lines = texts.map Value.str)
    (hclock : s.now.value.isFinite = true)
    (hclosed : ∀ messages, StreamEvent.Closed (stream messages)) :
    Settles id (s.proposals id stream) (s.round id stream) := by
  have hcurrent := isCurrent_enter s id
  obtain ⟨contexts, henter⟩ := enter_frame s id
  rw [henter] at hcurrent
  let entered : Session := ({ s with lastRequest := s.lastRequest + 1, contexts } : Session).log
    .debug s!"Generating suggestions for {id}"
  have hentered : ({ s with lastRequest := s.lastRequest + 1, contexts } : Session).log
    .debug s!"Generating suggestions for {id}" = entered := rfl
  have hposition : entered.position id = s.position id := rfl
  have hlast : entered.lastRequest = s.lastRequest + 1 := rfl
  rw [round_eq, begin, henter, hentered, hposition, hlast]
  cases hpos : s.position id with
  | error e =>
    have hnone : s.proposals id stream = [] := by
      rw [proposals, reply?, hpos]
      split <;> rfl
    rw [hnone]
    exact ⟨rfl, settled_giveUp (s := entered) hcurrent e source⟩
  | ok place =>
    obtain ⟨row, col, b⟩ := place
    obtain ⟨hb, _, hrow⟩ := position_eq_ok hpos
    obtain ⟨texts, hlines⟩ := htexts b hb
    obtain ⟨key, hkey⟩ := Fingerprint.exists_of row col texts
    rw [← hlines] at hkey
    have hreply : s.proposals id stream
        = Answer.setsOf ((entered.retrieve? key).or (entered.told? row col b stream))
          (b.lines.map Value.plain) := by
      rw [proposals, hb, reply?, stored?, hpos]
      dsimp only
      rw [hkey]
      rfl
    have hfound : ∀ answer, entered.retrieve? key = some answer → Answer.Readable answer := by
      intro answer hanswer
      obtain ⟨_, e, he, _, rfl⟩ := entry_of_retrieve? hanswer
      exact hread e he
    have hfresh : ∀ r ∈ entered.requests, r.id ≠ s.lastRequest + 1 := by
      intro r hr
      have hle := hnumbers r hr
      omega
    dsimp only
    rw [hkey, hreply]
    exact settles_proceed (s := entered) hcurrent (carries_of_get? hb)
      ⟨Value.isString_of_mem_texts hlines, row, hrow⟩ hclock hfresh hclosed hfound row col

theorem ne_nil_of_mem_proposals {set : SuggestionSet} (h : set ∈ s.proposals id stream) :
    set ≠ [] := by
  rw [proposals] at h
  split at h
  · cases h
  · exact Answer.ne_nil_of_mem_setsOf h

/-- The session with other buffers: what the host holds may change at any time. -/
def withBuffers (s : Session) (buffers : Buffers) : Session := { s with buffers }

/-- **Every round settles its buffer**, after every history of a session that starts with an empty
cache, for every buffer that holds texts or does not exist at all, and whatever the provider does.
It never breaks. If it tells that there are suggestions, the sets of its reply are on offer, the
first one is selected and has items; if not, there are no sets and nothing is drawn. -/
theorem round_settles (h : Fresh s) (hempty : s.cache.entries = []) (events : List Event)
    (buffers : Buffers) (id : String)
    (htexts : ∀ b, buffers.get? id = some b → ∃ texts : List Text, b.lines = texts.map Value.str)
    (hclock : (s.run events).now.value.isFinite = true) (p : Endpoint) (reading : Seconds) :
    ∃ t flag c, ((s.run events).withBuffers buffers).round id (p.stream reading) = (t, .ok flag) ∧
      t.context? id = some c ∧ c.phase ≠ .fetching ∧
      (flag = true ↔ ((s.run events).withBuffers buffers).proposals id (p.stream reading) ≠ []) ∧
      (flag = true → c.phase = .ready ∧ c.index = 0 ∧
        c.sets = ((s.run events).withBuffers buffers).proposals id (p.stream reading) ∧
        ∃ set, c.current? = some set ∧ set ≠ []) ∧
      (flag = false → c.phase = .idle ∧ c.sets = [] ∧ t.overlay id = [] ∧
        t.isVisible id = false) := by
  have hnumbers : ∀ r ∈ (s.run events).requests, r.id ≤ (s.run events).lastRequest := by
    intro r hr
    exact ((traced_run h events).running r.core (List.mem_map_of_mem hr)).2.1
  have hsettles : Settles id (((s.run events).withBuffers buffers).proposals id (p.stream reading))
      (((s.run events).withBuffers buffers).round id (p.stream reading)) :=
    settles_round hnumbers (run_readable hempty events) htexts hclock (p.stream_closed reading)
  have hitems : ∀ set ∈ ((s.run events).withBuffers buffers).proposals id (p.stream reading),
      set ≠ [] := fun _ => ne_nil_of_mem_proposals
  generalize ((s.run events).withBuffers buffers).proposals id (p.stream reading) = sets
    at hsettles hitems
  generalize ((s.run events).withBuffers buffers).round id (p.stream reading) = result at hsettles
  obtain ⟨t, outcome⟩ := result
  obtain ⟨htold, hview⟩ := hsettles
  obtain rfl : outcome = .ok (!sets.isEmpty) := htold
  generalize hv : t.view id = v at hview
  have hcontext : t.context? id = v.context := congrArg View.context hv
  cases hview with
  | @idle c hphase hsets =>
    have hoverlay : t.overlay id = [] := congrArg View.overlay hv
    have hdrawn : t.drawn id = [] := congrArg View.drawn hv
    have hvisible : t.isVisible id = false := by
      rw [← Bool.not_eq_true, ← drawn_ne_nil_iff]
      exact not_not_intro hdrawn
    refine ⟨t, false, c, rfl, hcontext, ?_, by simp, nofun, ?_⟩
    · rw [hphase]
      nofun
    · exact fun _ => ⟨hphase, hsets, hoverlay, hvisible⟩
  | @ready c overlay drawn hphase hindex hne =>
    have hflag : (!c.sets.isEmpty) = true := by simpa using hne
    refine ⟨t, true, c, by rw [hflag], hcontext, ?_, by simp [hne], fun _ => ?_, nofun⟩
    · rw [hphase]
      nofun
    · obtain ⟨set, rest, hsets⟩ := List.exists_cons_of_ne_nil hne
      refine ⟨hphase, hindex, rfl, set, ?_, hitems set (by simp [hsets])⟩
      rw [Context.current?, hindex, hsets]
      rfl

/-- An answer arrives. -/
def heardOut : List Event := [.suggest "notes", .deliver 1 Answer.sample, .finish 1]

/-- The document with a row more, and the cursor in that row. -/
def grown : Buffers :=
  ⟨[("notes", { lines := [['a'], ['b'], ['c']].map Value.str, cursor := .at 3 0 })]⟩

/-- An endpoint that delivers an answer in two pieces, as long as it is not offline. -/
def teller (offline : Bool) : Endpoint where
  name := "local"
  available := true
  pieces _ := [Answer.sample.take 40, Answer.sample.drop 40]
  breaks _ := none
  guarded :=
    some { name := "local", offline, breaker := { threshold := .int 5, cooldown := .int 60 } }

/-- After an answer about an older document, a round comes to new suggestions or drops the old ones,
by whether the provider can be reached. -/
theorem grown_settles :
    Fresh (desk .listing) ∧ (desk .listing).cache.entries = [] ∧
      ((desk .listing).run heardOut).phase "notes" = .ready ∧
      ∀ offline, ∃ t c,
        (((desk .listing).run heardOut).withBuffers grown).round "notes"
            ((teller offline).stream .zero) = (t, .ok !offline) ∧ t.context? "notes" = some c ∧
          c.phase = if offline then .idle else .ready := by
  have htexts : ∀ b, grown.get? "notes" = some b →
      ∃ texts : List Text, b.lines = texts.map Value.str := by
    rintro _ ⟨⟩
    exact ⟨_, rfl⟩
  have ⟨hclock, hphase, hnone, hsome⟩ :
      ((desk .listing).run heardOut).now.value.isFinite = true ∧
        ((desk .listing).run heardOut).phase "notes" = .ready ∧
        (((desk .listing).run heardOut).withBuffers grown).proposals "notes"
          ((teller true).stream .zero) = [] ∧
        (((desk .listing).run heardOut).withBuffers grown).proposals "notes"
          ((teller false).stream .zero) ≠ [] := by decide +kernel
  refine ⟨fresh_desk .listing, rfl, hphase, fun offline => ?_⟩
  obtain ⟨t, flag, c, hround, hc, _, hflag, hready, hidle⟩ :=
    round_settles (fresh_desk .listing) rfl heardOut grown "notes" htexts hclock (teller offline)
      .zero
  cases offline with
  | true =>
    obtain rfl : flag = false := by simpa [hnone] using hflag
    exact ⟨t, c, hround, hc, (hidle rfl).1⟩
  | false =>
    obtain rfl := hflag.mpr hsome
    exact ⟨t, c, hround, hc, (hready rfl).1⟩

end Session

end GhostEdit
