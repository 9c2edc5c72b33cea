import GhostEdit.Proofs.Session.CacheHit
import Mathlib.Data.List.Induction

/-!
# Where stored answers come from

The key of an answer is taken down when its request starts, and the answer is stored under it when
the request finishes. In between anything may happen: the rows change, the buffer is dismissed,
other requests start and finish. This file follows the key through all of it. Whatever the cache
holds after a history was earned (`Earned`): it is all that was delivered to one request, the
request was still the newest of its buffer when it finished, its key is the one its buffer had when
the request started, and the answer can be read.

Whether an answer can be read does not depend on rows. So a stored answer is never found unusable,
whatever became of the buffer since: the request that finds it is over without the provider, and no
fault is reported.

## Main definitions

* `Session.Earned`: a history in which an answer was earned
* `Session.faults`: the faults reported so far

## Main results

* `Session.run_labels`: a request keeps the key it was started with
* `Session.run_earned`
-/

namespace GhostEdit

namespace Session

variable {s t : Session} {id : String} {n : Nat} {key : String} {answer : Text}
  {events : List Session.Event} {e : Session.Event}

/-! ## Requests and their keys -/

/-- Asking adds one request at most. -/
theorem labels_ask (s : Session) (id : String) (n : Nat) (key : String) (row col : Int)
    (b : Buffer) : (s.ask id n key row col b).1.labels = s.labels ∨
      (s.ask id n key row col b).1.labels = s.labels ++ [(n, id, key)] := by
  rw [ask]
  split
  · exact .inl (drawsOnly_giveUp _ id ..).labels
  · exact .inr (List.map_append ..)

theorem labels_proceed (s : Session) (id : String) (n : Nat) (key : String) (row col : Int)
    (b : Buffer) : (s.proceed id n key row col b).1.labels = s.labels ∨
      (s.proceed id n key row col b).1.labels = s.labels ++ [(n, id, key)] := by
  have hcached : Draws id s (s.cached key).1 := draws_cached s key
  have hask : ∀ {m : Session}, m.labels = s.labels →
      (m.ask id n key row col b).1.labels = s.labels ∨
        (m.ask id n key row col b).1.labels = s.labels ++ [(n, id, key)] := by
    intro m hm
    rw [← hm]
    exact labels_ask ..
  rw [proceed]
  split
  · next m heq =>
    have hcached : Draws id s m := of_fst hcached heq
    exact hask hcached.labels
  · next m answer heq =>
    have hcached : Draws id s m := of_fst hcached heq
    have hcommit := hcached.trans ((drawsOnly_log m _ _).toDraws.trans
      (draws_commit (m.log .debug "Using cached suggestions") id n answer none))
    split
    · next u _ heq' =>
      have hcommit : Draws id s u := of_fst hcommit heq'
      exact .inl (hcommit.trans (drawsOnly_record id u ..).toDraws).labels
    · next u _ heq' =>
      have hcommit : Draws id s u := of_fst hcommit heq'
      split
      · exact hask (hcommit.trans (drawsOnly_report u ..).toDraws).labels
      · exact .inl hcommit.labels
    · next u _ _ heq' =>
      have hcommit : Draws id s u := of_fst hcommit heq'
      exact .inl hcommit.labels

/-- **Starting a request** adds it with the key of its buffer, or adds nothing. -/
theorem labels_begin (s : Session) (id : String) : (s.begin id).1.labels = s.labels ∨
    ∃ key, s.key? id = some key ∧
      (s.begin id).1.labels = s.labels ++ [(s.lastRequest + 1, id, key)] := by
  obtain ⟨contexts, henter⟩ := enter_frame s id
  rw [begin, henter]
  split
  · exact .inl (drawsOnly_giveUp _ id ..).labels
  · next row col b hpos =>
    split
    · exact .inl rfl
    · next key hkey =>
      let m : Session := ({ s with lastRequest := s.lastRequest + 1, contexts } : Session).log
        .debug s!"Generating suggestions for {id}"
      rcases labels_proceed m id (s.lastRequest + 1) key row col b with h | h
      · exact .inl h
      · exact .inr ⟨key, key?_of_position (s := s) hpos hkey, h⟩

theorem labels_changeRequest (s : Session) (n : Nat) {f : Request → Request}
    (hf : ∀ r, (f r).label = r.label) : (s.changeRequest n f).labels = s.labels := by
  refine labels_map s fun r => ?_
  split
  · exact hf r
  · rfl

/-- The end of an answer keeps every request. -/
theorem labels_finish (s : Session) (n : Nat) : (s.finish n).1.labels = s.labels := by
  rw [finish]
  split
  · rfl
  · next r _ =>
    have hcommit := draws_commit s r.buffer n r.answer (some r.key)
    dsimp only
    split
    · next m committed heq =>
      have hcommit : Draws r.buffer s m := of_fst hcommit heq
      have hmarked : (m.changeRequest n fun r => { r with committed }).labels = m.labels :=
        labels_changeRequest m n fun _ => rfl
      rw [(drawsOnly_record r.buffer ..).labels, hmarked, hcommit.labels]
    · next m _ heq =>
      have hcommit : Draws r.buffer s m := of_fst hcommit heq
      split
      · exact (hcommit.trans ((drawsOnly_giveUp m ..).trans (drawsOnly_record ..)).toDraws).labels
      · exact hcommit.labels
    · next m _ _ heq =>
      have hcommit : Draws r.buffer s m := of_fst hcommit heq
      exact hcommit.labels

/-- **A request that runs after an event** ran before, or the event started it with the key that its
buffer has. -/
theorem handle_labels (s : Session) (e : Event) {label : Nat × String × String}
    (hlabel : label ∈ (s.handle e).labels) : label ∈ s.labels ∨
      ∃ id key, e.started? s = some id ∧ s.key? id = some key ∧
        label = (s.lastRequest + 1, id, key) := by
  have hbegin : ∀ {t : Session} {id : String}, t.labels = s.labels →
      t.lastRequest = s.lastRequest → t.key? id = s.key? id → e.started? s = some id →
      label ∈ (t.begin id).1.labels → label ∈ s.labels ∨
        ∃ id key, e.started? s = some id ∧ s.key? id = some key ∧
          label = (s.lastRequest + 1, id, key) := by
    intro t id hlabels hlast hkeyed hstarted hmem
    rcases labels_begin t id with h | ⟨key, hkey, h⟩
    · rw [h, hlabels] at hmem
      exact .inl hmem
    · rw [h, hlabels, hlast] at hmem
      rcases List.mem_append.mp hmem with hmem | hmem
      · exact .inl hmem
      · exact .inr ⟨id, key, hstarted, hkeyed.symm.trans hkey, List.mem_singleton.mp hmem⟩
  by_cases hedit : e.isEdit = true
  · obtain ⟨_, hedits⟩ := exists_edits s hedit
    rw [hedits.labels] at hlabel
    exact .inl hlabel
  · cases e with
    | start other =>
      have hlabel : label ∈ (s.startQueued other).labels := hlabel
      rw [startQueued] at hlabel
      split at hlabel
      · next hqueued =>
        exact hbegin (t := { s with queued := s.queued.erase other }) rfl rfl rfl (if_pos hqueued)
          hlabel
      · exact .inl hlabel
    | suggest other => exact hbegin rfl rfl rfl rfl hlabel
    | deliver n piece =>
      have hlabel : label ∈ (s.deliver n piece).labels := hlabel
      have hsame : (s.deliver n piece).labels = s.labels := labels_changeRequest s n fun _ => rfl
      rw [hsame] at hlabel
      exact .inl hlabel
    | finish n =>
      have hlabel : label ∈ (s.finish n).1.labels := hlabel
      rw [labels_finish] at hlabel
      exact .inl hlabel
    | conclude n =>
      obtain ⟨r, hr, rfl⟩ := List.mem_map.mp hlabel
      exact .inl (List.mem_map_of_mem (List.mem_filter.mp hr).1)
    | clock now => exact .inl hlabel
    | _ => exact absurd rfl hedit

/-- A history in which a request was started, by number, buffer and key. -/
inductive Started (s : Session) : List Event → Nat × String × String → Prop
  | intro {before later : List Event} {start : Event} {id key : String}
      (hstart : start.started? (s.run before) = some id)
      (hkey : (s.run before).key? id = some key) :
      Started s (before ++ start :: later) ((s.run before).lastRequest + 1, id, key)

theorem Started.concat {label : Nat × String × String} (h : Started s events label) (e : Event) :
    Started s (events ++ [e]) label := by
  cases h with
  | intro hstart hkey =>
    rw [List.append_assoc]
    exact .intro hstart hkey

/-- **A request keeps the key it was started with.** -/
theorem run_labels (hfresh : Fresh s) (events : List Event) :
    ∀ label ∈ (s.run events).labels, Started s events label := by
  induction events using List.reverseRecOn with
  | nil =>
    intro label hlabel
    have hlabel : label ∈ s.labels := hlabel
    rw [labels, hfresh.requests] at hlabel
    cases hlabel
  | append_singleton events e ih =>
    intro label hlabel
    rw [run_concat] at hlabel
    rcases handle_labels _ e hlabel with hmem | ⟨id, key, hstart, hkey, rfl⟩
    · exact (ih label hmem).concat e
    · exact .intro hstart hkey

/-! ## Where a stored answer comes from -/

/-- A history in which an answer was earned under a key. The key is that of the buffer `id` when the
request `n` was started for it; when the request finished it was still the newest of the buffer, and
the answer is all that had been delivered to it. -/
inductive Earned (s : Session) : List Event → String → Text → Prop
  | intro {before middle later : List Event} {start : Event} {id key : String} {n : Nat}
      (hstart : start.started? (s.run before) = some id)
      (hn : n = (s.run before).lastRequest + 1)
      (hkey : (s.run before).key? id = some key)
      (hnewest : s.newest id (before ++ start :: middle) = some n)
      (hread : ∀ rows, ∃ sets,
        Answer.parse (heard n s (before ++ start :: middle)).flatten rows = .ok sets) :
      Earned s (before ++ start :: middle ++ .finish n :: later) key
        (heard n s (before ++ start :: middle)).flatten

theorem Earned.concat (h : Earned s events key answer) (e : Event) :
    Earned s (events ++ [e]) key answer := by
  cases h with
  | intro hstart hn hkey hnewest hread =>
    rw [List.append_assoc]
    exact .intro hstart hn hkey hnewest hread

/-- What an event stores was earned. -/
theorem earned_of_stores (hfresh : Fresh s) (h : e.stores (s.run events) key answer) :
    Earned s (events ++ [e]) key answer := by
  cases e with
  | finish n =>
    obtain ⟨r, hr, hcurrent, rfl, rfl, hread⟩ := h
    have htraced := traced_run hfresh events
    have hmem : r ∈ (s.run events).requests := List.mem_of_find?_eq_some hr
    have hn : r.id = n := by simpa using List.find?_some hr
    obtain ⟨hone, _, hparts⟩ := htraced.running _ (mem_running hr)
    have hanswer : r.answer = (heard n s events).flatten := congrArg List.flatten hparts
    have hnewest : s.newest r.buffer events = some n := by
      obtain ⟨c, hc, hrequest⟩ := exists_of_isCurrent hcurrent
      refine htraced.newest_eq hone ?_
      rw [view_of_context? hc]
      exact hrequest
    have hstarted : Started s events (n, r.buffer, r.key) := by
      rw [← hn]
      exact run_labels hfresh events _ (List.mem_map_of_mem hmem)
    rw [hanswer] at hread ⊢
    generalize hlabel : (n, r.buffer, r.key) = label at hstarted
    cases hstarted with
    | intro hstart hkey =>
      cases hlabel
      exact .intro hstart rfl hkey hnewest hread.exists_parse
  | _ => exact h.elim

/-- **Every stored answer was earned**, after every history of a session that starts with an empty
cache. -/
theorem run_stored (hfresh : Fresh s) (hempty : s.cache.entries = []) (events : List Event) :
    ∀ e ∈ (s.run events).cache.entries, Earned s events e.key e.payload := by
  induction events using List.reverseRecOn with
  | nil =>
    intro entry hentry
    have hentry : entry ∈ s.cache.entries := hentry
    rw [hempty] at hentry
    cases hentry
  | append_singleton events e ih =>
    intro entry hentry
    rw [run_concat] at hentry
    rcases mem_cache_handle hentry with ⟨x, hx, hkey, hpayload⟩ | hstores
    · rw [← hkey, ← hpayload]
      exact (ih x hx).concat e
    · exact earned_of_stores hfresh hstores

/-! ## Finding an answer again -/

/-- The faults reported so far. -/
def faults (s : Session) : List Record :=
  (s.journal.filterMap Entry.record?).filter (·.channel = .faults)

theorem faults_noteRecords {records : List Record} (h : ∀ r ∈ records, r.channel ≠ .faults)
    (s : Session) : (s.noteRecords records).faults = s.faults := by
  have hnone : (records.map Entry.log).filterMap Entry.record? = records := by
    rw [List.filterMap_map]
    exact List.filterMap_some
  have hempty : records.filter (·.channel = .faults) = [] :=
    List.filter_eq_nil_iff.mpr fun r hr => by simpa using h r hr
  show ((s.journal ++ records.map Entry.log).filterMap Entry.record?).filter _ = _
  rw [List.filterMap_append, List.filter_append, hnone, hempty, List.append_nil]
  rfl

@[simp] theorem faults_log (s : Session) (severity : Severity) (message : String) :
    (s.log severity message).faults = s.faults :=
  faults_noteRecords (by simp) s

@[simp] theorem faults_hide (s : Session) (id : String) : (s.hide id).faults = s.faults := rfl

@[simp] theorem faults_changeContext (s : Session) (id : String) (f : Context → Context) :
    (s.changeContext id f).faults = s.faults := by
  rw [changeContext]
  split <;> rfl

@[simp] theorem faults_settle (s : Session) (id : String) : (s.settle id).faults = s.faults := by
  simp [settle]

/-- A notice is no fault. -/
@[simp] theorem faults_notify (s : Session) (message : String) (level : Int) :
    (s.notify message level).faults = s.faults := by
  have hnotices : (s.reporter.notifyOnce message level).2.1.filterMap Entry.record? = [] := by
    rw [Reporter.notifyOnce]
    split
    · rfl
    · dsimp only
      split <;> rfl
  show ((s.journal ++ (s.reporter.notifyOnce message level).2.1).filterMap Entry.record?).filter _
    = _
  rw [List.filterMap_append, hnotices, List.append_nil]
  rfl

@[simp] theorem faults_record (s : Session) (buffer : String) (started : Seconds) (cacheHit : Bool)
    (sets chars : Nat) (success : Bool) :
    (s.record buffer started cacheHit sets chars success).1.faults = s.faults := by
  rw [record]
  split
  · rfl
  · dsimp only
    split
    · exact faults_log ..
    · rfl

@[simp] theorem faults_draw (s : Session) (id : String) (b : Buffer) (set : SuggestionSet) :
    (s.draw id b set).1.faults = s.faults := by
  rw [draw]
  dsimp only
  split
  · rfl
  · refine faults_noteRecords (fun r hr => ?_) _
    rw [Board.drawLog] at hr
    split at hr
    · cases hr
    · rw [List.mem_singleton.mp hr]
      intro hchannel
      cases hchannel

@[simp] theorem faults_present (s : Session) (id : String) : (s.present id).1.faults = s.faults := by
  rw [present]
  split
  · rfl
  · split
    · split
      · rfl
      · rfl
      · exact faults_draw ..
    · rfl

@[simp] theorem faults_offer (s : Session) (id : String) (sets : List SuggestionSet) :
    (s.offer id sets).1.faults = s.faults := by
  rw [offer]
  split
  · simp
  · have hpresent : ∀ f message,
        (((s.changeContext id f).log .info message).present id).1.faults = s.faults := by simp
    dsimp only
    split
    · next heq =>
      rw [← congrArg Prod.fst heq]
      exact hpresent _ _
    · next heq =>
      rw [← congrArg Prod.fst heq]
      exact hpresent _ _

/-- What is logged while an answer is read are no faults. -/
theorem channel_of_mem_parseLog {rows : List Text} {r : Record}
    (hr : r ∈ Answer.parseLog answer rows) : r.channel = .answers := by
  have hbuild : ∀ raw, r ∈ Assembly.buildLog raw rows → r.channel = .answers := by
    intro raw hr
    cases raw with
    | arr raws =>
      rcases List.mem_append.mp hr with hr | hr
      · obtain ⟨raw, _, hr⟩ := List.mem_filterMap.mp hr
        cases hjudged : Assembly.judge rows raw with
        | candidate _ => rw [hjudged] at hr; cases hr
        | _ => rw [hjudged] at hr; cases hr; rfl
      · obtain ⟨_, _, rfl⟩ := List.mem_map.mp hr
        rfl
    | _ => rw [List.mem_singleton.mp hr]
  rw [Answer.parseLog] at hr
  split at hr
  · cases hr
  · rw [List.mem_singleton.mp hr]
  · obtain ⟨raw, _, hr⟩ := List.mem_flatMap.mp hr
    exact hbuild raw hr

@[simp] theorem faults_parsed (s : Session) (answer : Text) (rows : List Text) :
    (s.noteRecords (Answer.parseLog answer rows)).faults = s.faults := by
  refine faults_noteRecords (fun r hr => ?_) s
  rw [channel_of_mem_parseLog hr]
  nofun

/-- Taking over an answer that is stored already reports nothing. -/
@[simp] theorem faults_commit (s : Session) (id : String) (n : Nat) (answer : Text) :
    (s.commit id n answer none).1.faults = s.faults := by
  rw [commit]
  split
  · split
    · rfl
    · dsimp only
      split <;> simp
  · exact faults_log ..

/-- Nor does a look into a cache that can be read. -/
theorem faults_cached (h : s.unreadable = none) (key : String) :
    (s.cached key).1.faults = s.faults := by
  have hlog : ∀ r ∈ s.cache.lookupLog key s.now, r.channel ≠ .faults := by
    intro r hr
    rw [Cache.lookupLog] at hr
    split at hr
    · split at hr
      · rw [List.mem_singleton.mp hr]
        nofun
      · cases hr
    · cases hr
  rw [cached]
  split
  · next hunreadable => cases h.symm.trans hunreadable
  · exact faults_noteRecords hlog _

/-- **A request that finds an answer which can be read** is over without the provider, and no fault
is reported. -/
theorem begin_of_stored (hstored : s.stored? id = some answer) (hread : Answer.Readable answer) :
    (∀ n messages, (s.begin id).2 ≠ .ok (.asked n messages)) ∧
      (s.begin id).1.faults = s.faults := by
  obtain ⟨row, col, b, key, hpos, hkey, hfound⟩ := exists_of_stored? hstored
  obtain ⟨sets, hparse⟩ := hread.exists_parse (b.lines.map Value.plain)
  obtain ⟨_, _, hbegin⟩ := begin_of_found ⟨hpos, hkey, hparse⟩ hfound
  have hunreadable := (entry_of_retrieve? hfound).1
  have hentered : (s.enter id).unreadable = none ∧ (s.enter id).faults = s.faults := by
    obtain ⟨contexts, henter⟩ := enter_frame s id
    rw [henter]
    exact ⟨hunreadable, rfl⟩
  have hreused : (s.reuse id key answer).1.faults = s.faults := by
    rw [reuse, faults_commit, faults_log, faults_cached, faults_log, hentered.2]
    exact hentered.1
  rw [hbegin]
  refine ⟨fun n messages hasked => ?_, ?_⟩
  · obtain ⟨_, _, hstart⟩ := map_eq_ok hasked
    cases hstart
  · rw [faults_record, hreused]

/-- **The cache only ever holds answers that were earned.** After every history of a session that
starts with an empty cache, every entry of the cache holds all that was delivered to one request,
under the key that its buffer had when the request started; the request was still the newest of its
buffer when it finished, and the answer can be read for any rows. Whatever the buffers hold then, a
request that finds an answer never has to ask the provider, and no fault is reported. -/
theorem run_earned (hfresh : Fresh s) (hempty : s.cache.entries = []) (events : List Event) :
    (∀ e ∈ (s.run events).cache.entries, Earned s events e.key e.payload) ∧
      ∀ buffers id answer, ((s.run events).withBuffers buffers).stored? id = some answer →
        (∀ rows, ∃ sets, Answer.parse answer rows = .ok sets) ∧
        (∀ n messages,
          (((s.run events).withBuffers buffers).begin id).2 ≠ .ok (.asked n messages)) ∧
        (((s.run events).withBuffers buffers).begin id).1.faults = (s.run events).faults := by
  refine ⟨run_stored hfresh hempty events, fun buffers id answer hstored => ?_⟩
  have hread : Answer.Readable answer := by
    obtain ⟨_, _, _, _, _, _, hfound⟩ := exists_of_stored? hstored
    obtain ⟨_, e, he, _, rfl⟩ := entry_of_retrieve? hfound
    exact run_readable hempty events e he
  obtain ⟨hover, hfaults⟩ := begin_of_stored hstored hread
  exact ⟨hread.exists_parse, hover, hfaults⟩

/-- The rows change between the start of a request and the end of its answer. -/
def rewritten : List Event :=
  [.suggest "notes", .deliver 1 (Answer.sample.take 40),
    .write "notes" { lines := [['z']].map Value.str, cursor := .at 1 0, mode := insertMode },
    .deliver 1 (Answer.sample.drop 40), .finish 1]

/-- The answer is stored under the key of the rows that the request was started for, and found again
when the host goes back to them. -/
theorem rewritten_earned :
    Fresh (desk .listing) ∧ (desk .listing).cache.entries = [] ∧
      ∃ key, (desk .listing).key? "notes" = some key ∧
        ((desk .listing).run rewritten).key? "notes" ≠ some key ∧
        Earned (desk .listing) rewritten key Answer.sample ∧
        (((desk .listing).run rewritten).withBuffers (desk .listing).buffers).stored? "notes"
          = some Answer.sample ∧
        ∀ n messages, ((((desk .listing).run rewritten).withBuffers
          (desk .listing).buffers).begin "notes").2 ≠ .ok (.asked n messages) := by
  have ⟨hentries, hmoved, hstored⟩ :
      ((desk .listing).run rewritten).cache.entries.map (fun e => (some e.key, e.payload))
          = [((desk .listing).key? "notes", Answer.sample)] ∧
        ((desk .listing).run rewritten).key? "notes" ≠ (desk .listing).key? "notes" ∧
        (((desk .listing).run rewritten).withBuffers (desk .listing).buffers).stored? "notes"
          = some Answer.sample := by decide +kernel
  obtain ⟨hearned, hfound⟩ := run_earned (fresh_desk .listing) rfl rewritten
  obtain ⟨entry, rest, hsplit⟩ : ∃ entry rest,
      ((desk .listing).run rewritten).cache.entries = entry :: rest := by
    refine List.exists_cons_of_ne_nil fun hnil => ?_
    rw [hnil] at hentries
    cases hentries
  rw [hsplit, List.map_cons, List.cons.injEq, Prod.mk.injEq] at hentries
  obtain ⟨⟨hkey, hpayload⟩, _⟩ := hentries
  have hentry := hearned entry (by rw [hsplit]; exact List.mem_cons_self)
  rw [hpayload] at hentry
  refine ⟨fresh_desk .listing, rfl, entry.key, hkey.symm, ?_, hentry, hstored, ?_⟩
  · rw [hkey]
    exact hmoved
  · exact (hfound _ _ _ hstored).2.1

end Session

end GhostEdit
