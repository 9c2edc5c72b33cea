import GhostEdit.Proofs.Document.Window
import GhostEdit.Proofs.Session.Settled

/-!
# A stored answer is as good as a fresh one

A request whose answer is in the cache never reaches the provider: no prompt is built, nothing is
delivered, and the answer is taken over before the request starts to run. This file compares such a
round with one from the same state in which the cache lacks the answer and the provider delivers it,
in whatever pieces. Both tell the same and leave the same session behind, the cache itself, the
metrics and the log apart.

The two take different ways through the code and meet in one place: each offers the sets of the
answer in a session that looks like the one the request was entered in. So the comparison rests on a
relation between sessions (`Alike`) that every step before and after that place keeps to, and that
offering sets respects.

## Main definitions

* `Session.Alike`: sessions that look the same
* `Session.Indistinct`: and in which the same requests run

## Main results

* `Session.Alike.offer`: offering sets does the same to sessions that look the same
* `Session.hit_offers`, `Session.stream_offers`: what the two rounds come to
* `Session.hit_indistinct`
-/

namespace GhostEdit

/-- Rows that have a fingerprint are strings. -/
theorem Value.isString_of_collect {rows : List Value} {index : Nat} {parts : List (List Nat)}
    (h : collect codes? index rows = .ok parts) : ∀ row ∈ rows, row.IsString := by
  induction rows generalizing index parts with
  | nil => simp
  | cons row rest ih =>
    rw [collect] at h
    split at h
    · next points hpoints =>
      obtain ⟨_, hrest, _⟩ := map_eq_ok h
      intro v hv
      rcases List.mem_cons.mp hv with rfl | hv
      · exact ⟨points, hpoints⟩
      · exact ih hrest v hv
    · cases h

theorem Fingerprint.isString {row col : Int} {rows : List Value} {key : String}
    (h : Fingerprint.of row col rows = .ok key) : ∀ row ∈ rows, row.IsString := by
  obtain ⟨codes, hcodes, _⟩ := bind_eq_ok h
  obtain ⟨parts, hparts, _⟩ := map_eq_ok hcodes
  exact Value.isString_of_collect hparts

/-- What was removed is not there. -/
theorem Cache.find?_remove (c : Cache) (key : String) : (c.remove key).find? key = none := by
  rw [find?, List.find?_eq_none]
  intro e he hsame
  exact notMem_remove c key (List.mem_map.mpr ⟨e, he, of_decide_eq_true hsame⟩)

namespace Session

variable {s t u : Session} {id : String} {n : Nat} {b : Buffer} {answer : Text} {key : String}
  {sets : List SuggestionSet} {stream : List Message → List StreamEvent}

/-! ## Sessions that look the same -/

/-- Two sessions look the same: they differ at most in the cache, the metrics, the log and the
requests that run. -/
def Alike (s t : Session) : Prop :=
  ∃ cache metrics journal requests, t = { s with cache, metrics, journal, requests } ∧
    journal.filterMap Entry.notice? = s.journal.filterMap Entry.notice?

theorem Alike.refl (s : Session) : Alike s s := ⟨_, _, _, _, rfl, rfl⟩

theorem Alike.symm (h : Alike s t) : Alike t s := by
  obtain ⟨_, _, _, _, rfl, hnotices⟩ := h
  exact ⟨_, _, _, _, rfl, hnotices.symm⟩

theorem Alike.trans (h : Alike s t) (h' : Alike t u) : Alike s u := by
  obtain ⟨_, _, _, _, rfl, hnotices⟩ := h
  obtain ⟨_, _, _, _, rfl, hnotices'⟩ := h'
  exact ⟨_, _, _, _, rfl, hnotices'.trans hnotices⟩

/-- Log records are no notices. -/
theorem alike_noteRecords (s : Session) (records : List Record) :
    Alike s (s.noteRecords records) := by
  refine ⟨_, _, _, _, rfl, ?_⟩
  have hnone : (records.map Entry.log).filterMap Entry.notice? = [] := by
    rw [List.filterMap_map, List.filterMap_eq_nil_iff]
    exact fun _ _ => rfl
  rw [List.filterMap_append, hnone, List.append_nil]

theorem alike_log (s : Session) (severity : Severity) (message : String) :
    Alike s (s.log severity message) :=
  alike_noteRecords ..

theorem alike_cache (s : Session) (cache : Cache) : Alike s { s with cache } :=
  ⟨_, _, _, _, rfl, rfl⟩

theorem alike_requests (s : Session) (requests : List Request) : Alike s { s with requests } :=
  ⟨_, _, _, _, rfl, rfl⟩

theorem alike_record (s : Session) (buffer : String) (started : Seconds) (cacheHit : Bool)
    (sets chars : Nat) (success : Bool) :
    Alike s (s.record buffer started cacheHit sets chars success).1 := by
  have hadded : ∀ metrics, Alike s { s with metrics } := fun _ => ⟨_, _, _, _, rfl, rfl⟩
  rw [record]
  split
  · exact .refl s
  · dsimp only
    split
    · exact (hadded _).trans (alike_log ..)
    · exact hadded _

/-- A failure to write to the cache is one of the cache, which the user is not told about. -/
theorem kind_writeFault (e : Failure) :
    (Reporter.faultOf (writeFault e)).kind = .cacheFailure := by
  cases e with
  | fault f =>
    rw [writeFault]
    split
    · next hkind => exact hkind
    · rfl
  | _ => rfl

/-- What is not surfaced is only logged. -/
theorem alike_report {e : Failure} (h : (Reporter.faultOf e).kind.surfaced = false)
    (s : Session) (place : String) : Alike s (s.report e place) := by
  have hreport : s.report e place = s.noteRecords
      [⟨(Reporter.faultOf e).kind.severity, .faults, Reporter.line (Reporter.faultOf e) place⟩] := by
    rw [report, Reporter.report, h]
    rfl
  rw [hreport]
  exact alike_noteRecords ..

/-- The user is not told how a look into the cache went. -/
theorem alike_cached (s : Session) (key : String) : Alike s (s.cached key).1 := by
  rw [cached]
  split
  · have hkind : ∀ message, (Reporter.faultOf (.ofFault .cacheFailure message [])).kind.surfaced
        = false := fun _ => rfl
    exact alike_report (hkind _) s source
  · exact (alike_cache s _).trans (alike_noteRecords _ _)

theorem alike_keep (s : Session) (key : String) (answer : Text) : Alike s (s.keep key answer) := by
  have hwrite : Alike s (s.write key (.str answer)).1 := by
    rw [write]
    split
    · exact .refl s
    · exact (alike_cache s _).trans (alike_noteRecords _ _)
  rw [keep]
  split
  · next heq =>
    rw [heq] at hwrite
    exact hwrite
  · next e heq =>
    rw [heq] at hwrite
    refine hwrite.trans (alike_report ?_ _ _)
    rw [kind_writeFault]
    rfl

/-! ## Operations that respect it -/

theorem Alike.now (h : Alike s t) : t.now = s.now := by
  obtain ⟨_, _, _, _, rfl, _⟩ := h
  rfl

theorem Alike.buffers (h : Alike s t) : t.buffers = s.buffers := by
  obtain ⟨_, _, _, _, rfl, _⟩ := h
  rfl

theorem Alike.lastRequest (h : Alike s t) : t.lastRequest = s.lastRequest := by
  obtain ⟨_, _, _, _, rfl, _⟩ := h
  rfl

theorem Alike.context? (h : Alike s t) (id : String) : t.context? id = s.context? id := by
  obtain ⟨_, _, _, _, rfl, _⟩ := h
  rfl

theorem Alike.setContext (h : Alike s t) (id : String) (c : Context) :
    Alike (s.setContext id c) (t.setContext id c) := by
  obtain ⟨_, _, _, _, rfl, hnotices⟩ := h
  exact ⟨_, _, _, _, rfl, hnotices⟩

theorem Alike.changeContext (h : Alike s t) (id : String) (f : Context → Context) :
    Alike (s.changeContext id f) (t.changeContext id f) := by
  rw [Session.changeContext, Session.changeContext, h.context?]
  split
  · exact h.setContext ..
  · exact h

theorem Alike.touch (h : Alike s t) (id : String) : Alike (s.touch id) (t.touch id) := by
  rw [Session.touch, Session.touch, h.context?]
  split
  · exact h
  · exact h.setContext ..

theorem Alike.enter (h : Alike s t) (id : String) : Alike (s.enter id) (t.enter id) := by
  obtain ⟨_, _, _, _, htouched, hnotices⟩ := h.touch id
  rw [enter_eq, enter_eq, context, context, h.context?, h.lastRequest, htouched]
  exact ⟨_, _, _, _, rfl, hnotices⟩

theorem Alike.hide (h : Alike s t) (id : String) : Alike (s.hide id) (t.hide id) := by
  obtain ⟨_, _, _, _, rfl, hnotices⟩ := h
  exact ⟨_, _, _, _, rfl, hnotices⟩

theorem Alike.settle (h : Alike s t) (id : String) : Alike (s.settle id) (t.settle id) :=
  (h.changeContext ..).hide id

theorem Alike.log (h : Alike s t) (severity : Severity) (message : String) :
    Alike (s.log severity message) (t.log severity message) :=
  (alike_log ..).symm.trans (h.trans (alike_log ..))

theorem Alike.notify (h : Alike s t) (message : String) (level : Int) :
    Alike (s.notify message level) (t.notify message level) := by
  obtain ⟨cache, metrics, journal, requests, rfl, hnotices⟩ := h
  refine ⟨cache, metrics, _, requests, rfl, ?_⟩
  show (journal ++ (s.reporter.notifyOnce message level).2.1).filterMap Entry.notice?
    = (s.journal ++ (s.reporter.notifyOnce message level).2.1).filterMap Entry.notice?
  rw [List.filterMap_append, List.filterMap_append, hnotices]

theorem Alike.isCurrent (h : Alike s t) (id : String) (n : Nat) :
    t.isCurrent id n = s.isCurrent id n := by
  rw [Session.isCurrent, Session.isCurrent, h.context?]

/-- What comes of an operation looks the same for two sessions, and it tells the same. -/
structure AlikeResults {α : Type} (x y : Session × α) : Prop where
  session : Alike x.1 y.1
  told : y.2 = x.2

theorem Alike.draw (h : Alike s t) (id : String) (b : Buffer) (set : SuggestionSet) :
    AlikeResults (s.draw id b set) (t.draw id b set) := by
  obtain ⟨cache, metrics, journal, requests, rfl, hnotices⟩ := h
  rw [Session.draw, Session.draw]
  dsimp only
  split
  · exact ⟨⟨_, _, _, _, rfl, hnotices⟩, rfl⟩
  · refine ⟨(alike_noteRecords ..).symm.trans (Alike.trans ?_ (alike_noteRecords ..)), rfl⟩
    exact ⟨_, _, _, _, rfl, hnotices⟩

theorem Alike.present (h : Alike s t) (id : String) :
    AlikeResults (s.present id) (t.present id) := by
  have hhidden := h.hide id
  have hcurrent : (t.hide id).current? id = (s.hide id).current? id := by
    rw [current?, current?, hhidden.context?]
  rw [Session.present, Session.present, hhidden.buffers, hcurrent]
  split
  · exact ⟨hhidden, rfl⟩
  · split
    · split
      · exact ⟨hhidden, rfl⟩
      · exact ⟨hhidden, rfl⟩
      · exact hhidden.draw ..
    · exact ⟨hhidden, rfl⟩

/-- **Offering sets** does the same to sessions that look the same. -/
theorem Alike.offer (h : Alike s t) (id : String) (sets : List SuggestionSet) :
    AlikeResults (s.offer id sets) (t.offer id sets) := by
  rw [Session.offer, Session.offer]
  split
  · exact ⟨(h.settle id).notify .., rfl⟩
  · obtain ⟨hsession, htold⟩ := (((h.changeContext id fun c =>
      { c with sets, index := 0, phase := .ready }).log .info
        s!"{sets.length} suggestion set(s) ready for {id}").present id)
    dsimp only
    generalize (((s.changeContext id fun c =>
      { c with sets, index := 0, phase := .ready }).log .info
        s!"{sets.length} suggestion set(s) ready for {id}").present id) = x at hsession htold
    generalize (((t.changeContext id fun c =>
      { c with sets, index := 0, phase := .ready }).log .info
        s!"{sets.length} suggestion set(s) ready for {id}").present id) = y at hsession htold
    obtain ⟨x, told⟩ := x
    obtain ⟨y, told'⟩ := y
    obtain rfl : told' = told := htold
    cases told' with
    | error e => exact ⟨hsession, rfl⟩
    | ok _ => exact ⟨hsession, rfl⟩

/-! ## Where the two rounds meet -/

/-- A stored answer is stored under the key for the cursor. -/
theorem exists_of_stored? (h : s.stored? id = some answer) :
    ∃ row col b key, s.position id = .ok (row, col, b) ∧ Fingerprint.of row col b.lines = .ok key ∧
      s.retrieve? key = some answer := by
  rw [stored?] at h
  split at h
  · cases h
  · next row col b hpos =>
    split at h
    · cases h
    · next key hkey => exact ⟨row, col, b, key, hpos, hkey, h⟩

/-- A key that the cache does not have is not found. -/
theorem retrieve?_of_absent (h : s.cache.find? key = none) : s.retrieve? key = none := by
  rw [retrieve?, Cache.lookup, h]
  exact ite_self none

/-- A request from a cursor that has a key. -/
theorem begin_of_key {row col : Int} (hpos : s.position id = .ok (row, col, b))
    (hkey : Fingerprint.of row col b.lines = .ok key) :
    s.begin id = ((s.enter id).log .debug s!"Generating suggestions for {id}").proceed id
      (s.lastRequest + 1) key row col b := by
  obtain ⟨contexts, henter⟩ := enter_frame s id
  have hpos : (((s.enter id).log .debug s!"Generating suggestions for {id}").position id)
      = .ok (row, col, b) := by
    rw [henter]
    exact hpos
  have hlast : ((s.enter id).log .debug s!"Generating suggestions for {id}").lastRequest
      = s.lastRequest + 1 := by
    rw [henter]
    rfl
  rw [begin, hpos]
  dsimp only
  rw [hkey, hlast]

theorem proceed_of_found {row col : Int} (hfound : s.cached key = (t, some answer))
    {committed : Bool}
    (hcommit : (t.log .debug "Using cached suggestions").commit id n answer none
      = (u, .ok committed)) :
    s.proceed id n key row col b
      = ((u.record id u.now true (u.context id).sets.length answer.length true).1,
        (u.record id u.now true (u.context id).sets.length answer.length true).2.map
          fun _ => .settled committed) := by
  rw [proceed, hfound]
  dsimp only
  rw [hcommit]

theorem proceed_of_missing {row col : Int} (hmissing : s.cached key = (t, none)) :
    s.proceed id n key row col b
      = ((t.ask id n key row col b).1, .ok (t.ask id n key row col b).2) := by
  rw [proceed, hmissing]

/-- An answer that can be read is taken over by offering its sets. -/
theorem commit_eq_offer (hcurrent : s.isCurrent id n = true) (hb : s.buffers.get? id = some b)
    (hparse : Answer.parse answer (b.lines.map Value.plain) = .ok sets) (key : Option String) :
    ∃ m, Alike s m ∧ s.commit id n answer key = m.offer id sets := by
  have hnoted := alike_noteRecords s (Answer.parseLog answer (b.lines.map Value.plain))
  rw [commit, if_pos hcurrent, Buffers.get_of_get? hb]
  dsimp only
  rw [hparse]
  cases key with
  | none => exact ⟨_, hnoted, rfl⟩
  | some key => exact ⟨_, hnoted.trans (alike_keep _ key answer), rfl⟩

theorem stored?_of_absent {cache : Cache}
    (habsent : ∀ key, s.key? id = some key → cache.find? key = none) :
    ({ s with cache } : Session).stored? id = none := by
  have hpos : ({ s with cache } : Session).position id = s.position id := rfl
  rw [stored?, hpos]
  split
  · rfl
  · next hpos =>
    split
    · rfl
    · next key hkey => exact retrieve?_of_absent (habsent key (key?_of_position hpos hkey))

/-- The state of a cursor for which there is an answer that can be read. -/
structure Poised (s : Session) (id : String) (row col : Int) (b : Buffer) (key : String)
    (answer : Text) (sets : List SuggestionSet) : Prop where
  position : s.position id = .ok (row, col, b)
  key : Fingerprint.of row col b.lines = .ok key
  parse : Answer.parse answer (b.lines.map Value.plain) = .ok sets

variable {row col : Int}

/-- In a session that looks like the one the request was entered in, the answer is taken over with
the same result. -/
theorem Poised.commit (h : Poised s id row col b key answer sets) (halike : Alike (s.enter id) t)
    (stored : Option String) :
    AlikeResults ((s.enter id).offer id sets)
        (t.commit id (s.lastRequest + 1) answer stored) ∧
      (t.commit id (s.lastRequest + 1) answer stored).2 = .ok (!sets.isEmpty) := by
  obtain ⟨contexts, henter⟩ := enter_frame s id
  have hcurrent : t.isCurrent id (s.lastRequest + 1) = true :=
    (halike.isCurrent ..).trans (isCurrent_enter s id)
  have hb : t.buffers.get? id = some b := by
    rw [halike.buffers, henter]
    exact (position_eq_ok h.position).1
  have hdraw : b.Drawable :=
    ⟨Fingerprint.isString h.key, row, (position_eq_ok h.position).2.2⟩
  have htold := (settles_commit hcurrent (carries_of_get? hb) hdraw h.parse stored).told
  obtain ⟨m, hm, hcommit⟩ := commit_eq_offer hcurrent hb h.parse stored
  refine ⟨?_, htold⟩
  rw [hcommit]
  exact (halike.trans hm).offer id sets

/-- A round that comes to these sets: they are offered in the session in which its request was
entered, and nothing else is left of it. -/
structure Offers (s : Session) (id : String) (sets : List SuggestionSet)
    (result : Session × Except Failure Bool) : Prop where
  told : result.2 = .ok (!sets.isEmpty)
  session : Alike ((s.enter id).offer id sets).1 result.1
  requests : result.1.requests = s.requests

/-- What comes of taking over the answer that is stored under a key. -/
def reuse (s : Session) (id key : String) (answer : Text) : Session × Except Failure Bool :=
  ((((s.enter id).log .debug s!"Generating suggestions for {id}").cached key).1.log .debug
    "Using cached suggestions").commit id (s.lastRequest + 1) answer none

/-- **A request that finds its answer in the cache** takes it over and is done. -/
theorem begin_of_found (h : Poised s id row col b key answer sets)
    (hfound : s.retrieve? key = some answer) :
    AlikeResults ((s.enter id).offer id sets) (s.reuse id key answer) ∧
      (s.reuse id key answer).2 = .ok (!sets.isEmpty) ∧
      s.begin id =
        (((s.reuse id key answer).1.record id (s.reuse id key answer).1.now true
            ((s.reuse id key answer).1.context id).sets.length answer.length true).1,
          ((s.reuse id key answer).1.record id (s.reuse id key answer).1.now true
            ((s.reuse id key answer).1.context id).sets.length answer.length true).2.map
              fun _ => .settled (!sets.isEmpty)) := by
  obtain ⟨contexts, henter⟩ := enter_frame s id
  let m := (s.enter id).log .debug s!"Generating suggestions for {id}"
  have hretrieve : m.retrieve? key = s.retrieve? key := by
    simp only [m, henter]
    rfl
  have hlooked : Alike (s.enter id) ((m.cached key).1.log .debug "Using cached suggestions") :=
    (alike_log ..).trans ((alike_cached m key).trans (alike_log ..))
  obtain ⟨hsame, htold⟩ := h.commit hlooked none
  have hcached : m.cached key = ((m.cached key).1, some answer) :=
    Prod.ext rfl ((cached_snd m key).trans (hretrieve.trans hfound))
  refine ⟨hsame, htold, ?_⟩
  rw [begin_of_key h.position h.key]
  exact proceed_of_found hcached (Prod.ext rfl htold)

/-- **A round that finds its answer in the cache.** -/
theorem hit_offers (h : Poised s id row col b key answer sets)
    (hclock : s.now.value.isFinite = true) (hfound : s.retrieve? key = some answer)
    (stream : List Message → List StreamEvent) : Offers s id sets (s.round id stream) := by
  obtain ⟨hsame, _, hbegin⟩ := begin_of_found h hfound
  let u := (s.reuse id key answer).1
  have hdraws : Draws id s u :=
    ((drawsOnly_enter s id).trans (drawsOnly_log ..)).toDraws.trans
      ((draws_cached ..).trans ((drawsOnly_log ..).toDraws.trans (draws_commit ..)))
  have hnoted : (u.record id u.now true (u.context id).sets.length answer.length true).2
      = .ok () := by
    rw [record_snd, Seconds.toMillis_sub_self]
    · rfl
    · rw [hdraws.now]
      exact hclock
  rw [round_eq, hbegin, hnoted]
  refine ⟨rfl, hsame.session.trans (alike_record ..), ?_⟩
  exact (hdraws.trans (drawsOnly_record id u ..).toDraws).requests

/-- A document with rows can be shown to the provider. -/
theorem exists_messagesAt (hne : b.lines ≠ []) (s : Session) (row col : Int) :
    ∃ messages, s.messagesAt row col b = .ok messages := by
  rw [messagesAt, Window.chunks_numbered hne]
  exact ⟨_, rfl⟩

theorem ask_of_rows (hne : b.lines ≠ []) (s : Session) (id : String) (n : Nat) (key : String)
    (row col : Int) :
    ∃ t messages, s.ask id n key row col b = (t, .asked n messages) ∧ Alike s t ∧
      t.requests = s.requests ++ [{ id := n, buffer := id, started := s.now, key }] := by
  let records :=
    Window.chunksLog b.lines (s.settings.value .windowSize) (s.settings.value .chunkSize)
  obtain ⟨messages, hmessages⟩ := exists_messagesAt hne (s.noteRecords records) row col
  rw [ask, hmessages]
  exact ⟨_, messages, rfl, (alike_noteRecords s records).trans (alike_requests _ _), rfl⟩

/-- The requests beside one that is changed. -/
theorem filter_changeRequest (s : Session) (n : Nat) {f : Request → Request}
    (hf : ∀ r, (f r).id = r.id) :
    (s.changeRequest n f).requests.filter (·.id ≠ n) = s.requests.filter (·.id ≠ n) := by
  rw [changeRequest]
  induction s.requests with
  | nil => rfl
  | cons r rest ih =>
    by_cases heq : r.id = n
    · simpa [heq, hf] using ih
    · simpa [heq] using ih

theorem filter_foldl_deliver (s : Session) (n : Nat) (pieces : List Text) :
    (pieces.foldl (fun s piece => s.deliver n piece) s).requests.filter (·.id ≠ n)
      = s.requests.filter (·.id ≠ n) := by
  induction pieces generalizing s with
  | nil => rfl
  | cons piece pieces ih => exact (ih _).trans (filter_changeRequest s n fun _ => rfl)

theorem finish_of_commit {r : Request} (hr : s.request? n = some r) {committed : Bool}
    (hcommit : s.commit r.buffer n r.answer (some r.key) = (t, .ok committed)) :
    s.finish n = (t.changeRequest n fun r => { r with committed }).record r.buffer r.started false
      ((t.changeRequest n fun r => { r with committed }).setCount r) r.answer.length true := by
  rw [finish, hr]
  dsimp only
  rw [hcommit]

/-- A request for which there is no stored answer is put to the provider. -/
theorem begin_of_missing (h : Poised s id row col b key answer sets)
    (hmissing : s.retrieve? key = none) :
    ∃ asked messages, s.begin id = (asked, .ok (.asked (s.lastRequest + 1) messages)) ∧
      Alike (s.enter id) asked ∧ asked.requests = s.requests ++
        [{ id := s.lastRequest + 1, buffer := id, started := s.now, key }] := by
  obtain ⟨contexts, henter⟩ := enter_frame s id
  let m := (s.enter id).log .debug s!"Generating suggestions for {id}"
  have hm : m.requests = s.requests ∧ m.now = s.now ∧ m.retrieve? key = s.retrieve? key := by
    simp only [m, henter]
    exact ⟨rfl, rfl, rfl⟩
  obtain ⟨hrequests, hnow, hretrieve⟩ := hm
  have hlooked : Alike (s.enter id) (m.cached key).1 := (alike_log ..).trans (alike_cached m key)
  have hkept : Draws id m (m.cached key).1 := draws_cached m key
  cases hcached : m.cached key with
  | mk v found =>
    rw [hcached] at hlooked hkept
    have hnone : found = none := by rw [← hmissing, ← hretrieve, ← cached_snd, hcached]
    subst hnone
    have hrows : b.lines ≠ [] := (position_eq_ok h.position).2.1
    obtain ⟨asked, messages, hask, hasked, hadded⟩ :=
      ask_of_rows hrows v id (s.lastRequest + 1) key row col
    refine ⟨asked, messages, ?_, hlooked.trans hasked, ?_⟩
    · rw [begin_of_key h.position h.key, proceed_of_missing hcached, hask]
    · rw [hadded, hkept.requests, hkept.now, hrequests, hnow]

/-- The request has heard the whole answer. -/
theorem Poised.finish (h : Poised s id row col b key answer sets)
    (hclock : s.now.value.isFinite = true) {r : Request} (halike : Alike (s.enter id) t)
    (hr : t.request? (s.lastRequest + 1) = some r)
    (hbuffer : r.buffer = id) (hanswer : r.answer = answer) (hstarted : r.started = s.now) :
    ∃ u, orAbort (s.lastRequest + 1) (t.finish (s.lastRequest + 1)) = (u, .ok ()) ∧
      Alike ((s.enter id).offer id sets).1 u ∧ u.flagged (s.lastRequest + 1) = !sets.isEmpty ∧
      u.requests.filter (·.id ≠ s.lastRequest + 1)
        = t.requests.filter (·.id ≠ s.lastRequest + 1) := by
  subst hbuffer hanswer
  have hdraws := draws_commit t r.buffer (s.lastRequest + 1) r.answer (some r.key)
  obtain ⟨hsame, htold⟩ := h.commit halike (some r.key)
  cases hcommit : t.commit r.buffer (s.lastRequest + 1) r.answer (some r.key) with
  | mk o outcome =>
    rw [hcommit] at hsame htold hdraws
    obtain rfl : outcome = .ok (!sets.isEmpty) := htold
    let marked := o.changeRequest (s.lastRequest + 1) fun r =>
      { r with committed := !sets.isEmpty }
    have hmarked : marked.request? (s.lastRequest + 1)
        = some { r with committed := !sets.isEmpty } :=
      request?_changeRequest ((hdraws.request? _).trans hr) fun _ => rfl
    have hnow : marked.now = s.now :=
      hdraws.now.trans (halike.now.trans (drawsOnly_enter s r.buffer).now)
    have htold : (marked.record r.buffer r.started false (marked.setCount r) r.answer.length
        true).2 = .ok () := by
      rw [record_snd, hnow, hstarted, Seconds.toMillis_sub_self hclock]
      rfl
    refine ⟨(marked.record r.buffer r.started false (marked.setCount r) r.answer.length true).1,
      ?_, ?_, ?_, ?_⟩
    · rw [finish_of_commit hr hcommit]
      exact (orAbort_of_ok htold).trans (Prod.ext rfl htold)
    · exact hsame.session.trans ((alike_requests o _).trans (alike_record ..))
    · rw [flagged_record, flagged, hmarked]
      rfl
    · rw [(drawsOnly_record r.buffer marked ..).requests, ← hdraws.requests]
      exact filter_changeRequest o _ fun _ => rfl

/-- **A round whose answer the provider delivers**, in whatever pieces. -/
theorem stream_offers (h : Poised s id row col b key answer sets)
    (hclock : s.now.value.isFinite = true) (hnumbers : ∀ r ∈ s.requests, r.id ≤ s.lastRequest)
    (hmissing : s.retrieve? key = none)
    (hstream : ∀ messages, ∃ pieces : List Text,
      stream messages = pieces.map .chunk ++ [.finished] ∧ pieces.flatten = answer) :
    Offers s id sets (s.round id stream) := by
  obtain ⟨asked, messages, hbegin, hasked, hrequests⟩ := begin_of_missing h hmissing
  obtain ⟨pieces, hpieces, hanswer⟩ := hstream messages
  have hfresh : ∀ r ∈ s.requests, r.id ≠ s.lastRequest + 1 := by
    intro r hr
    have hle := hnumbers r hr
    omega
  have hrequest : asked.request? (s.lastRequest + 1)
      = some { id := s.lastRequest + 1, buffer := id, started := s.now, key } := by
    rw [request?, hrequests]
    exact find?_requests_concat hfresh rfl
  have hothers := filter_foldl_deliver asked (s.lastRequest + 1) pieces
  obtain ⟨requests, hdelivered, hheard⟩ := foldl_deliver hrequest pieces
  rw [hdelivered, hrequests] at hothers
  obtain ⟨u, hfinish, hsame, hflagged, hkept⟩ :=
    h.finish hclock (hasked.trans (alike_requests asked requests)) hheard rfl hanswer rfl
  have hfollow : follow (s.lastRequest + 1) asked (stream messages) = (u, .ok ()) := by
    rw [hpieces, follow_pieces, hdelivered, follow_singleton]
    exact hfinish
  rw [round_eq, hbegin, carryOn, hfollow, settleRequest]
  refine ⟨?_, hsame.trans (alike_requests u _), ?_⟩
  · show Except.ok (u.conclude (s.lastRequest + 1)).2 = _
    rw [conclude_snd, hflagged]
  · show u.requests.filter (·.id ≠ s.lastRequest + 1) = s.requests
    rw [hkept, hothers, List.filter_append, List.filter_eq_self.mpr (by simpa using hfresh)]
    simp

/-! ## The two rounds -/

/-- Two sessions are told apart by their cache, their metrics and their log at most. -/
def Indistinct (s t : Session) : Prop :=
  ∃ cache metrics journal, t = { s with cache, metrics, journal } ∧
    journal.filterMap Entry.notice? = s.journal.filterMap Entry.notice?

theorem Alike.indistinct (h : Alike s t) (hrequests : t.requests = s.requests) :
    Indistinct s t := by
  obtain ⟨cache, metrics, journal, requests, rfl, hnotices⟩ := h
  obtain rfl : requests = s.requests := hrequests
  exact ⟨cache, metrics, journal, rfl, hnotices⟩

/-- **A stored answer is as good as a fresh one.** Where the cache has an answer for a buffer that
can be read, a round that finds it and a round over a cache without it, in which the provider
delivers the same answer in any pieces, tell the same. The sessions they leave behind differ in
nothing but the cache, the metrics and the log, and the same notices were shown. -/
theorem hit_indistinct (hnumbers : ∀ r ∈ s.requests, r.id ≤ s.lastRequest)
    (hclock : s.now.value.isFinite = true) (hstored : s.stored? id = some answer)
    (hread : Answer.Readable answer) {cache : Cache}
    (habsent : ∀ key, s.key? id = some key → cache.find? key = none)
    (idle : List Message → List StreamEvent) (hstream : ∀ messages, ∃ pieces : List Text,
      stream messages = pieces.map .chunk ++ [.finished] ∧ pieces.flatten = answer) :
    ∃ t u flag, s.round id idle = (t, .ok flag) ∧
      ({ s with cache } : Session).round id stream = (u, .ok flag) ∧ Indistinct t u := by
  obtain ⟨row, col, b, key, hpos, hkey, hfound⟩ := exists_of_stored? hstored
  obtain ⟨sets, hparse⟩ := hread.exists_parse (b.lines.map Value.plain)
  have hpoised : Poised s id row col b key answer sets := ⟨hpos, hkey, hparse⟩
  have hpoised' : Poised { s with cache } id row col b key answer sets :=
    ⟨hpos, hkey, hparse⟩
  have hmissing : ({ s with cache } : Session).retrieve? key = none :=
    retrieve?_of_absent (habsent key (key?_of_position hpos hkey))
  have hhit := hit_offers hpoised hclock hfound idle
  have hfresh := stream_offers hpoised' hclock hnumbers hmissing hstream
  have hoffers := ((alike_cache s cache).enter id).offer id sets
  have hrequests := hfresh.requests.trans hhit.requests.symm
  refine ⟨(s.round id idle).1, (({ s with cache } : Session).round id stream).1, !sets.isEmpty,
    Prod.ext rfl hhit.told, Prod.ext rfl hfresh.told, Alike.indistinct ?_ hrequests⟩
  exact hhit.session.symm.trans (hoffers.session.trans hfresh.session)

/-- A provider that delivers an answer in two pieces. -/
def halves (_ : List Message) : List StreamEvent :=
  [.chunk (Answer.sample.take 40), .chunk (Answer.sample.drop 40), .finished]

/-- The document after an answer about it was dismissed: asked about it again, the session finds the
answer in its cache. -/
def forgotten : Session := (desk .listing).run (heardOut ++ [.dismiss "notes"])

/-- With its entry taken out of the cache, the answer is heard a second time, and nothing else is
different. -/
theorem forgotten_indistinct :
    forgotten.stored? "notes" = some Answer.sample ∧
      ∃ t u cache, forgotten.round "notes" (fun _ => []) = (t, .ok true) ∧
        ({ forgotten with cache } : Session).stored? "notes" = none ∧
        ({ forgotten with cache } : Session).round "notes" halves = (u, .ok true) ∧
        Indistinct t u := by
  have ⟨hstored, htold, hnumbers, hclock⟩ : forgotten.stored? "notes" = some Answer.sample ∧
      (forgotten.round "notes" fun _ => []).2.toOption = some true ∧
      (∀ r ∈ forgotten.requests, r.id ≤ forgotten.lastRequest) ∧
      forgotten.now.value.isFinite = true := by decide +kernel
  obtain ⟨row, col, b, key, hpos, hkey, _⟩ := exists_of_stored? hstored
  have habsent : ∀ other, forgotten.key? "notes" = some other →
      (forgotten.cache.remove key).find? other = none := by
    intro other hother
    rw [key?_of_position hpos hkey] at hother
    rw [← Option.some.inj hother]
    exact Cache.find?_remove forgotten.cache key
  have hhalves : ∀ messages, ∃ pieces : List Text,
      halves messages = pieces.map .chunk ++ [.finished] ∧ pieces.flatten = Answer.sample :=
    fun _ => ⟨[Answer.sample.take 40, Answer.sample.drop 40], rfl, by decide⟩
  obtain ⟨t, u, flag, hhit, hheard, hsame⟩ := hit_indistinct hnumbers hclock hstored
    (Answer.readable_of_parse Answer.parse_sample) habsent (fun _ => []) hhalves
  rw [hhit] at htold
  obtain rfl : flag = true := Option.some.inj htold
  exact ⟨hstored, t, u, _, hhit, stored?_of_absent habsent, hheard, hsame⟩

end Session

end GhostEdit
