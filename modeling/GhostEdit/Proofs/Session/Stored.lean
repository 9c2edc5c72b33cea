import GhostEdit.Proofs.Cache.Accounting
import GhostEdit.Proofs.Session.Events

/-!
# What the cache of a session holds

Answers enter the cache when the newest request of a buffer finishes and its answer could be read,
and at no other moment. This file says once what each event asks of the cache (`Event.asks?`):
nothing, one lookup, or to store the answer of a request that finishes. The cache after the event is
the cache after that operation (`cache_handle`), so that the cache of a session has no other history
than that of the operations asked of it. What every stored answer has in common follows by
induction.

## Reading an answer again

Whether an answer can be read does not depend on the rows it is read for (`Answer.Readable`). So an
answer that could be read when it was stored can be read whenever it is found again.

## Main definitions

* `Answer.Readable`: an answer that can be read
* `Session.Event.asks?`: the operation that an event asks of the cache
* `Session.Event.stores`: the answer that an event may store

## Main results

* `Session.cache_handle`: an event does that operation to the cache, and nothing else
* `Session.run_readable`: every stored answer can be read
-/

namespace GhostEdit

/-! ## Reading an answer again -/

/-- An answer that can be read. -/
def Answer.Readable (answer : Text) : Prop := ∃ raws, Answer.rawSetsOf answer = .ok raws

theorem Answer.readable_of_parse {answer : Text} {rows : List Text} {sets : List SuggestionSet}
    (h : Answer.parse answer rows = .ok sets) : Readable answer := by
  rw [parse] at h
  split at h
  · cases h
  · next raws hraws => exact ⟨raws, hraws⟩

instance (answer : Text) : Decidable (Answer.Readable answer) :=
  decidable_of_iff ((Answer.rawSetsOf answer).toOption.isSome = true) <| by
    rw [Answer.Readable]
    cases Answer.rawSetsOf answer <;> simp [Except.toOption]

/-- **Whether an answer can be read does not depend on the rows.** -/
theorem Answer.Readable.exists_parse {answer : Text} (h : Readable answer) (rows : List Text) :
    ∃ sets, Answer.parse answer rows = .ok sets := by
  obtain ⟨raws, hraws⟩ := h
  rw [parse, hraws]
  exact ⟨_, rfl⟩

/-! ## What can become of a cache -/

namespace Cache

/-- The cache after an operation, if any is asked of it. -/
def after (c : Cache) (now : Seconds) : Option Op → Cache
  | none => c
  | some op => (c.act now op).1

variable {c : Cache} {key : String} {payload answer : Text} {now : Seconds} {e : Entry}

/-- A payload that is found is that of an entry. -/
theorem exists_of_lookup (h : (c.lookup key now).2 = some payload) :
    ∃ e ∈ c.entries, e.key = key ∧ e.payload = payload := by
  rw [lookup] at h
  split at h
  · cases h
  · next e hfound =>
    split at h
    · cases h
    · exact ⟨e, List.mem_of_find?_eq_some hfound, key_of_find? hfound, Option.some.inj h⟩

/-- A lookup may remove an entry or note its use, and does nothing else. -/
theorem exists_of_mem_lookup (h : e ∈ (c.lookup key now).1.entries) :
    ∃ x ∈ c.entries, x.key = e.key ∧ x.payload = e.payload := by
  rw [lookup] at h
  split at h
  · exact ⟨e, h, rfl, rfl⟩
  · next x hfound =>
    split at h
    · rw [entries_remove] at h
      exact ⟨e, (List.mem_filter.mp h).1, rfl, rfl⟩
    · rcases List.mem_append.mp h with h | h
      · exact ⟨e, (List.mem_filter.mp h).1, rfl, rfl⟩
      · rw [List.mem_singleton.mp h]
        exact ⟨x, List.mem_of_find?_eq_some hfound, rfl, rfl⟩

/-- Storing an answer brings one entry in. -/
theorem mem_of_mem_storeText (h : e ∈ (c.storeText key answer now).1.entries) :
    e ∈ c.entries ∨ e.key = key ∧ e.payload = answer := by
  have hleft := (evicts_makeRoom (c.remove key) (Utf8.size answer)).1.subset
  have hold : ∀ {x}, x ∈ ((c.remove key).makeRoom (Utf8.size answer)).1.entries →
      x ∈ c.entries := by
    intro x hx
    have hx := hleft hx
    rw [entries_remove] at hx
    exact (List.mem_filter.mp hx).1
  rw [storeText] at h
  generalize (c.remove key).makeRoom (Utf8.size answer) = result at h hold
  obtain ⟨room, outcome, keys⟩ := result
  cases outcome with
  | error _ => exact .inl (hold h)
  | ok _ =>
    dsimp only at h
    rw [insert] at h
    split at h
    · exact .inl (hold h)
    · rcases List.mem_append.mp h with h | h
      · exact .inl (hold h)
      · rw [List.mem_singleton.mp h]
        exact .inr ⟨rfl, rfl⟩

end Cache

namespace Session

variable {s t : Session} {id : String} {n : Nat}

/-! ## Operations that read the cache or write to it -/

/-- An answer that is found is that of an entry, in a cache that can be read. -/
theorem entry_of_retrieve? {key : String} {answer : Text} (h : s.retrieve? key = some answer) :
    s.unreadable = none ∧ ∃ e ∈ s.cache.entries, e.key = key ∧ e.payload = answer := by
  rw [retrieve?] at h
  split at h
  · next hnone => exact ⟨Option.isNone_iff_eq_none.mp hnone, Cache.exists_of_lookup h⟩
  · cases h

/-- What looking a key up asks of the cache: nothing if it cannot be read. -/
def looksUp? (s : Session) (key : String) : Option Cache.Op :=
  if s.unreadable.isNone then some (.lookup key) else none

/-- What keeping an answer asks of the cache: nothing if it cannot be written to. -/
def keeps? (s : Session) (key : String) (answer : Text) : Option Cache.Op :=
  if s.unwritable.isNone then some (.store key (.str answer)) else none

theorem cache_cached (s : Session) (key : String) :
    (s.cached key).1.cache = s.cache.after s.now (s.looksUp? key) := by
  rw [cached, looksUp?]
  cases s.unreadable <;> rfl

theorem cache_keep (s : Session) (key : String) (answer : Text) :
    (s.keep key answer).cache = s.cache.after s.now (s.keeps? key answer) := by
  have hwrite : (s.write key (.str answer)).1.cache
      = s.cache.after s.now (s.keeps? key answer) := by
    rw [write, keeps?]
    cases s.unwritable <;> rfl
  rw [← hwrite, keep]
  split
  · next heq => rw [heq]
  · next heq =>
    rw [heq]
    rfl

/-- What taking an answer over under a key asks of the cache: to keep it, if the request is the
newest of a buffer that exists, and the answer can be read. -/
def commits? (s : Session) (id : String) (n : Nat) (answer : Text) (key : String) :
    Option Cache.Op :=
  if s.isCurrent id n = true ∧ (s.buffers.get? id).isSome = true ∧ Answer.Readable answer then
    s.keeps? key answer
  else none

/-- **Taking an answer over** stores it under its key, if the request is the newest and the answer
can be read. -/
theorem cache_commit (s : Session) (id : String) (n : Nat) (answer : Text) (key : String) :
    (s.commit id n answer (some key)).1.cache
      = s.cache.after s.now (s.commits? id n answer key) := by
  rw [commit, commits?]
  split
  · next hcurrent =>
    split
    · next hget =>
      rw [if_neg fun h => ?_]
      · rfl
      · obtain ⟨b, hb⟩ := Option.isSome_iff_exists.mp h.2.1
        rw [Buffers.get_of_get? hb] at hget
        cases hget
    · next b hget =>
      have hb := Buffers.get?_of_get hget
      dsimp only
      split
      · next hparse =>
        rw [if_neg fun h => ?_]
        · rfl
        · obtain ⟨sets, hsets⟩ := h.2.2.exists_parse (b.lines.map Value.plain)
          cases hparse.symm.trans hsets
      · next sets hparse =>
        rw [(drawsOnly_offer _ id sets).cache,
          if_pos ⟨hcurrent, by simp [hb], Answer.readable_of_parse hparse⟩]
        exact cache_keep ..
  · next hcurrent =>
    rw [if_neg fun h => hcurrent h.1]
    rfl

/-- Without a key there is nothing to store. -/
theorem cache_of_commit {answer : Text} {outcome : Except Failure Bool}
    (h : s.commit id n answer none = (t, outcome)) : t.cache = s.cache := by
  have hcache : (s.commit id n answer none).1.cache = s.cache := by
    rw [commit]
    split
    · split
      · rfl
      · dsimp only
        split
        · rfl
        · exact (drawsOnly_offer _ id _).cache
    · rfl
  rwa [h] at hcache

theorem cache_ask (s : Session) (id : String) (n : Nat) (key : String) (row col : Int)
    (b : Buffer) : (s.ask id n key row col b).1.cache = s.cache := by
  rw [ask]
  split
  · exact (drawsOnly_giveUp _ id n _ _).cache
  · rfl

/-- Going on with a request does no more to the cache than the lookup. -/
theorem cache_proceed (s : Session) (id : String) (n : Nat) (key : String) (row col : Int)
    (b : Buffer) : (s.proceed id n key row col b).1.cache = (s.cached key).1.cache := by
  rw [proceed]
  split
  · next heq => rw [cache_ask, heq]
  · next heq =>
    rw [heq]
    split
    · next heq' =>
      rw [(drawsOnly_record id ..).cache, cache_of_commit heq']
      rfl
    · next heq' =>
      have hsame := cache_of_commit heq'
      split
      · rw [cache_ask]
        exact hsame
      · exact hsame
    · next heq' =>
      rw [cache_of_commit heq']
      rfl

/-- **Starting a request** looks up the key of the buffer, if it has one. -/
theorem cache_begin (s : Session) (id : String) :
    (s.begin id).1.cache = s.cache.after s.now ((s.key? id).bind s.looksUp?) := by
  obtain ⟨contexts, henter⟩ := enter_frame s id
  rw [begin, henter, key?]
  have hpos : ((({ s with lastRequest := s.lastRequest + 1, contexts } : Session).log .debug
      s!"Generating suggestions for {id}").position id) = s.position id := rfl
  rw [hpos]
  cases s.position id with
  | error e => exact (drawsOnly_giveUp _ id _ e _).cache
  | ok place =>
    obtain ⟨row, col, b⟩ := place
    dsimp only
    cases Fingerprint.of row col b.lines with
    | error e => rfl
    | ok key =>
      dsimp only
      rw [cache_proceed, cache_cached]
      rfl

/-! ## Events -/

/-- What an event asks of the cache. A request that is started looks up the key of its buffer; one
that finishes stores its answer, if it is the newest of its buffer and the answer can be read. -/
def Event.asks? (s : Session) : Event → Option Cache.Op
  | .finish n => (s.request? n).bind fun r => s.commits? r.buffer n r.answer r.key
  | e => (e.started? s).bind fun id => (s.key? id).bind s.looksUp?

/-- The newest request of a buffer that exists asks for an answer that can be read to be stored. -/
theorem Event.asks?_finish {r : Request} (hr : s.request? n = some r)
    (hcurrent : s.isCurrent r.buffer n = true) (hb : (s.buffers.get? r.buffer).isSome = true)
    (hread : Answer.Readable r.answer) (hwritable : s.unwritable = none) :
    (Event.finish n).asks? s = some (.store r.key (.str r.answer)) := by
  rw [Event.asks?, hr, Option.bind_some, commits?, if_pos ⟨hcurrent, hb, hread⟩, keeps?, hwritable]
  rfl

/-- **The end of an answer** may store it. -/
theorem cache_finish (s : Session) (n : Nat) :
    (s.finish n).1.cache = s.cache.after s.now ((Event.finish n).asks? s) := by
  rw [Event.asks?, finish]
  cases s.request? n with
  | none => rfl
  | some r =>
    have hcommit := cache_commit s r.buffer n r.answer r.key
    dsimp only [Option.bind_some]
    rw [← hcommit]
    split
    · next heq =>
      rw [heq, (drawsOnly_record r.buffer ..).cache]
      rfl
    · next heq =>
      rw [heq]
      split
      · rw [(drawsOnly_record r.buffer ..).cache, (drawsOnly_giveUp _ r.buffer ..).cache]
      · rfl
    · next heq => rw [heq]

theorem Event.asks?_of_isEdit {e : Event} (h : e.isEdit = true) : e.asks? s = none := by
  cases e with
  | start other => cases h
  | suggest other => cases h
  | finish n => cases h
  | _ => rfl

/-- **What an event does to the cache** is what it asks of it. -/
theorem cache_handle (s : Session) (e : Event) :
    (s.handle e).cache = s.cache.after s.now (e.asks? s) := by
  by_cases hedit : e.isEdit = true
  · obtain ⟨_, hedits⟩ := exists_edits s hedit
    rw [hedits.cache, Event.asks?_of_isEdit hedit]
    rfl
  · cases e with
    | start other =>
      show (s.startQueued other).cache = s.cache.after s.now (Option.bind (ite _ _ _) _)
      rw [startQueued]
      split
      · exact cache_begin { s with queued := s.queued.erase other } other
      · rfl
    | suggest other => exact cache_begin s other
    | finish n => exact cache_finish s n
    | deliver n piece => rfl
    | conclude n => rfl
    | clock now => rfl
    | _ => exact absurd rfl hedit

/-- The answer that an event may store: that of a request that finishes, if it is the newest of its
buffer and the answer can be read. -/
def Event.stores (s : Session) : Event → String → Text → Prop
  | .finish n => fun key answer => ∃ r, s.request? n = some r ∧ s.isCurrent r.buffer n = true ∧
      key = r.key ∧ answer = r.answer ∧ Answer.Readable answer
  | _ => fun _ _ => False

/-- An event asks for a lookup, or for an answer to be stored that it may store. -/
theorem Event.asks?_cases {e : Event} {op : Cache.Op} (h : e.asks? s = some op) :
    (∃ key, op = .lookup key) ∨
      ∃ key answer, op = .store key (.str answer) ∧ e.stores s key answer := by
  unfold Event.asks? at h
  split at h
  · next n =>
    obtain ⟨r, hr, h⟩ := Option.bind_eq_some_iff.mp h
    rw [commits?] at h
    split at h
    · next hcommits =>
      rw [keeps?] at h
      split at h
      · exact .inr ⟨r.key, r.answer, (Option.some.inj h).symm, r, hr, hcommits.1, rfl, rfl,
          hcommits.2.2⟩
      · cases h
    · cases h
  · obtain ⟨id, _, h⟩ := Option.bind_eq_some_iff.mp h
    obtain ⟨key, _, h⟩ := Option.bind_eq_some_iff.mp h
    rw [looksUp?] at h
    split at h
    · exact .inl ⟨key, (Option.some.inj h).symm⟩
    · cases h

/-- **What is in the cache** was there before, or it was just stored. -/
theorem mem_cache_handle {e : Event} {entry : Cache.Entry}
    (h : entry ∈ (s.handle e).cache.entries) :
    (∃ x ∈ s.cache.entries, x.key = entry.key ∧ x.payload = entry.payload) ∨
      e.stores s entry.key entry.payload := by
  rw [cache_handle] at h
  cases hasks : e.asks? s with
  | none =>
    rw [hasks] at h
    exact .inl ⟨entry, h, rfl, rfl⟩
  | some op =>
    rw [hasks] at h
    rcases e.asks?_cases hasks with ⟨key, rfl⟩ | ⟨key, answer, rfl, hstores⟩
    · exact .inl (Cache.exists_of_mem_lookup h)
    · rcases Cache.mem_of_mem_storeText h with hmem | ⟨rfl, rfl⟩
      · exact .inl ⟨entry, hmem, rfl, rfl⟩
      · exact .inr hstores

/-- **Every stored answer can be read**, after every history of a session that starts with an empty
cache. -/
theorem run_readable (hempty : s.cache.entries = []) (events : List Event) :
    ∀ e ∈ (s.run events).cache.entries, Answer.Readable e.payload := by
  refine run_induction (P := fun s => ∀ e ∈ s.cache.entries, Answer.Readable e.payload) ?_ ?_ events
  · simp [hempty]
  · intro t e ht entry hentry
    rcases mem_cache_handle hentry with ⟨x, hx, _, hpayload⟩ | hstores
    · rw [← hpayload]
      exact ht x hx
    · cases e with
      | finish n =>
        obtain ⟨_, _, _, _, _, hread⟩ := hstores
        exact hread
      | _ => exact hstores.elim

end Session

end GhostEdit
