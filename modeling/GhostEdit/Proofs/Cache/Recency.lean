import Mathlib.Data.List.Nodup
import GhostEdit.Proofs.Cache.Accounting
import GhostEdit.Proofs.Clock

/-!
# The cache as a list in order of use

Which entry was used longest ago is written down twice in the cache: by the order of the entries,
and by the time noted with each of them. What has to go is decided by the times, of which several
may be equal, and the number of bytes held is a count of its own. A user of the cache should not
have to know any of this. `Lru` is the cache of the textbooks: a list of slots, least recently used
first, and nothing else. This file proves that the two cannot be told apart as long as the clock
does not run backwards.

## Why the times agree with the order

An entry is put at the end, with the time of the reading, whenever it is stored or read. So the
times ascend along the entries as long as the readings do, and `Cache.oldest?`, which takes the
first of several least times, takes the first entry. Removing entries from any place keeps the times
ascending.

## What counts as expired

A slot is expired when its expiry is not after the reading. For numbers this is the opposite of the
reading being before the expiry; a sum that is no number is neither before nor after anything, and a
slot with such an expiry stays.

## Main definitions

* `Lru`, `Lru.get`, `Lru.set`, `Lru.act`, `Lru.run`: the cache of the textbooks
* `Lru.surplus`: how many slots have to go
* `Cache.latest?`: what was last stored under a key
* `Cache.toLru`: the list that a cache stands for
* `Cache.Dated`, `Cache.Follows`: what the entries, and the cache, keep along a history

## Main results

* `Lru.surplus_cons`: room is made slot by slot
* `Cache.makeRoom_eq`: what making room leaves
* `Cache.Follows.act`, `Cache.Follows.run`: one operation, and a history of them
* `Cache.run_refines`
-/

namespace GhostEdit

/-! ## The cache of the textbooks -/

/-- What is kept under a key, and until when. -/
structure Slot where
  key : String
  payload : Text
  expires : Seconds
deriving DecidableEq

/-- The bytes of the payloads of slots. -/
def bytesIn (slots : List Slot) : Nat :=
  (slots.map fun x => (String.ofList x.payload).utf8ByteSize).sum

/-- A list of slots, least recently used first, with the bytes it may hold and the time for which a
slot is kept. -/
structure Lru where
  capacity : Int
  ttl : Seconds
  slots : List Slot := []

namespace Lru

/-- The slots without the one under a key. -/
def without (key : String) (slots : List Slot) : List Slot := slots.filter (·.key ≠ key)

/-- The length of the shortest beginning of the slots without which `size` more bytes fit; all of
them, if they fit without no other. -/
def surplus (capacity : Int) (size : Nat) (slots : List Slot) : Nat :=
  ((List.range slots.length).find? fun n =>
    decide ((bytesIn (slots.drop n) + size : Int) ≤ capacity)).getD slots.length

/-- The payload under a key. A slot that is read goes to the end and expires when it would have; one
that is expired goes. -/
def get (l : Lru) (key : String) (now : Seconds) : Lru × Option Text :=
  match l.slots.find? (·.key = key) with
  | none => (l, none)
  | some x =>
    if x.expires ≤ now then ({ l with slots := without key l.slots }, none)
    else ({ l with slots := without key l.slots ++ [x] }, some x.payload)

/-- Keep a payload under a key, in place of what was there, and drop as few of the slots used
longest ago as will do. -/
def set (l : Lru) (key : String) (payload : Text) (now : Seconds) : Lru :=
  let others := without key l.slots
  let size := (String.ofList payload).utf8ByteSize
  { l with
    slots := others.drop (surplus l.capacity size others) ++ [⟨key, payload, now + l.ttl⟩] }

/-- The text of a payload: a string, unless it holds halves of code pairs, which have no
encoding. -/
def textOf? : Value → Option Text
  | .str t => some t
  | .codes points => if points.any Utf8.isHalf then none else some (points.map Char.ofNat)
  | _ => none

/-- An operation, with what the clock shows. A payload that is no text changes nothing. -/
def act (l : Lru) (now : Seconds) : Cache.Op → Lru × Cache.Reply
  | .lookup key => ((l.get key now).1, .found (l.get key now).2)
  | .store key payload =>
    match textOf? payload with
    | some t => (l.set key t now, .stored)
    | none => (l, .refused .cacheFailure)
  | .clear => ({ l with slots := [] }, .cleared)

/-- Operations one after the other, each with what the clock shows then. -/
def run : Lru → List (Seconds × Cache.Op) → Lru × List Cache.Reply
  | l, [] => (l, [])
  | l, (now, op) :: rest =>
    (((l.act now op).1.run rest).1, (l.act now op).2 :: ((l.act now op).1.run rest).2)

/-- **Room is made slot by slot**: none has to go if the bytes fit, and else the first one and as
many of the others as have to go without it. -/
theorem surplus_cons (capacity : Int) (size : Nat) (x : Slot) (slots : List Slot) :
    surplus capacity size (x :: slots)
      = if (bytesIn (x :: slots) + size : Int) ≤ capacity then 0
        else surplus capacity size slots + 1 := by
  rw [surplus, List.length_cons, List.range_succ_eq_map, List.find?_cons, List.drop_zero]
  by_cases hfits : (bytesIn (x :: slots) + size : Int) ≤ capacity
  · simp [hfits]
  · simp only [hfits, decide_false, if_false, List.find?_map, surplus]
    have hsame : ((fun n => decide ((bytesIn ((x :: slots).drop n) + size : Int) ≤ capacity))
        ∘ Nat.succ) = fun n => decide ((bytesIn (slots.drop n) + size : Int) ≤ capacity) := rfl
    rw [hsame]
    cases (List.range slots.length).find?
      (fun n => decide ((bytesIn (slots.drop n) + size : Int) ≤ capacity)) <;> rfl

end Lru

namespace Cache

/-- The slot of an entry: without the time of its last use and its size. -/
def Entry.slot (e : Entry) : Slot := ⟨e.key, e.payload, e.expires⟩

/-- What a cache shows of its entries. -/
def slots (c : Cache) : List Slot := c.entries.map Entry.slot

/-- The payload that an operation stores under a key, with the time. -/
def Op.stores? (key : String) : Seconds × Op → Option (Text × Seconds)
  | (now, .store k payload) => if k = key then (Lru.textOf? payload).map (·, now) else none
  | _ => none

/-- The payload of the latest successful attempt to store under a key, with the time. -/
def latest? (key : String) (history : List (Seconds × Op)) : Option (Text × Seconds) :=
  history.reverse.findSome? (Op.stores? key)

variable {c : Cache} {key : String} {e : Entry} {entries : List Entry} {size : Nat}
  {now : Seconds}

theorem latest?_concat (history : List (Seconds × Op)) (reading : Seconds × Op) :
    latest? key (history ++ [reading])
      = (Op.stores? key reading).or (latest? key history) := by
  rw [latest?, List.reverse_append, List.reverse_singleton, List.singleton_append,
    List.findSome?_cons]
  cases Op.stores? key reading <;> rfl

/-! ## The order of use -/

/-- The times of use ascend. -/
def Ascending (entries : List Entry) : Prop :=
  entries.Pairwise fun a b => a.lastUsed ≤ b.lastUsed

/-- **The entry used longest ago is the first one.** -/
theorem oldest?_of_ascending (h : Ascending (e :: entries)) : oldest? (e :: entries) = some e := by
  have hfold : ∀ rest : List Entry, (∀ x ∈ rest, e.lastUsed ≤ x.lastUsed) →
      rest.foldl (fun o e => if e.lastUsed < o.lastUsed then e else o) e = e := by
    intro rest
    induction rest with
    | nil => intro _; rfl
    | cons x rest ih =>
      intro hlater
      have hnot := Seconds.not_lt_of_le (hlater x List.mem_cons_self)
      rw [List.foldl_cons, if_neg hnot]
      exact ih fun y hy => hlater y (List.mem_cons_of_mem _ hy)
  exact congrArg some (hfold entries (List.pairwise_cons.mp h).1)

theorem Ascending.filter (h : Ascending entries) (p : Entry → Bool) :
    Ascending (entries.filter p) :=
  h.sublist List.filter_sublist

/-- An entry used last comes last. -/
theorem Ascending.append (h : Ascending entries) (hlast : ∀ x ∈ entries, x.lastUsed ≤ e.lastUsed) :
    Ascending (entries ++ [e]) := by
  refine List.pairwise_append.mpr ⟨h, List.pairwise_singleton _ _, ?_⟩
  intro a ha b hb
  rw [List.mem_singleton.mp hb]
  exact hlast a ha

/-! ## Making room -/

theorem bytesIn_slots (h : c.Balanced) : bytesIn c.slots = c.used := by
  rw [h.used, bytesIn, slots, List.map_map, Cache.bytesOf]
  exact congrArg List.sum (List.map_congr_left fun e he => (h.sizes e he).symm)

/-- Removing the first entry leaves the others. -/
theorem entries_remove_first (h : c.Balanced) (hentries : c.entries = e :: entries) :
    (c.remove e.key).entries = entries := by
  have hdistinct := h.distinct
  rw [hentries, List.map_cons, List.nodup_cons] at hdistinct
  rw [entries_remove, hentries, List.filter_cons_of_neg (by simp)]
  refine List.filter_eq_self.mpr fun x hx => ?_
  have hne : x.key ≠ e.key := fun heq => hdistinct.1 (heq ▸ List.mem_map_of_mem hx)
  simpa using hne

/-- **Making room**, with times that ascend, drops the shortest beginning of the entries that will
do. -/
theorem makeRoomWithin_eq {capacity : Int} {fuel : Nat} (h : c.Balanced)
    (hascending : Ascending c.entries) (hcapacity : c.capacity = .int capacity)
    (hfuel : c.entries.length ≤ fuel) (size : Nat) :
    ∃ room keys, makeRoomWithin fuel size c = (room, .ok (), keys) ∧ room.Balanced ∧
      room.entries = c.entries.drop (Lru.surplus capacity size c.slots) ∧
      room.capacity = c.capacity ∧ room.lifetime = c.lifetime := by
  induction fuel generalizing c with
  | zero =>
    have hempty : c.entries = [] := List.length_eq_zero_iff.mp (Nat.le_zero.mp hfuel)
    refine ⟨c, [], rfl, h, ?_, rfl, rfl⟩
    rw [hempty, List.drop_nil]
  | succ fuel ih =>
    cases hentries : c.entries with
    | nil =>
      refine ⟨c, [], ?_, h, ?_, rfl, rfl⟩
      · rw [makeRoomWithin, hentries]
        rfl
      · rw [hentries, List.drop_nil]
    | cons e entries =>
      have holdest := oldest?_of_ascending (hentries ▸ hascending)
      have hslots : c.slots = e.slot :: entries.map Entry.slot := by rw [slots, hentries]; rfl
      have hbytes := bytesIn_slots h
      have hcompare : ∀ fits : Bool, Value.compare .greater (.int (c.used + size)) c.capacity
            = .ok fits ↔ decide (capacity < c.used + size) = fits := by
        intro fits
        rw [hcapacity]
        simp [Value.compare, Value.isNumeric, Value.relate, Value.int?, Value.Sign.holds]
      rw [hslots, Lru.surplus_cons, ← hslots, hbytes]
      by_cases hfits : (c.used + size : Int) ≤ capacity
      · refine ⟨c, [], ?_, h, ?_, rfl, rfl⟩
        · rw [makeRoomWithin, hentries, holdest]
          dsimp only
          rw [(hcompare false).mpr (by simpa using hfits)]
        · rw [if_pos hfits, List.drop_zero, hentries]
      · have hremoved := entries_remove_first h hentries
        have hrest : Ascending (c.remove e.key).entries := by
          rw [entries_remove]
          exact hascending.filter _
        have hlength : (c.remove e.key).entries.length ≤ fuel := by
          rw [hremoved]
          rw [hentries, List.length_cons] at hfuel
          omega
        obtain ⟨room, keys, hmake, hbalanced, hleft, hroom, hlifetime⟩ :=
          ih (h.remove e.key) hrest ((capacity_remove c e.key).trans hcapacity) hlength
        refine ⟨room, e.key :: keys, ?_, hbalanced, ?_, hroom.trans (capacity_remove c e.key),
          hlifetime.trans (lifetime_remove c e.key)⟩
        · rw [makeRoomWithin, hentries, holdest]
          dsimp only
          rw [(hcompare true).mpr (by simpa using hfits), hmake]
        · rw [if_neg hfits, hleft, slots, hremoved, List.drop_succ_cons]

theorem makeRoom_eq {capacity : Int} (h : c.Balanced) (hascending : Ascending c.entries)
    (hcapacity : c.capacity = .int capacity) (size : Nat) :
    ∃ room keys, c.makeRoom size = (room, .ok (), keys) ∧ room.Balanced ∧
      room.entries = c.entries.drop (Lru.surplus capacity size c.slots) ∧
      room.capacity = c.capacity ∧ room.lifetime = c.lifetime :=
  makeRoomWithin_eq h hascending hcapacity (Nat.le_refl _) size

/-! ## Payloads -/

/-- A payload is stored where it has a text. -/
theorem toOption_payloadText (key : String) (payload : Value) :
    (payloadText key payload).toOption = Lru.textOf? payload := by
  cases payload with
  | codes points =>
    rw [payloadText, Lru.textOf?]
    cases hgap : Utf8.gapFrom? 0 points with
    | none =>
      rw [(Utf8.gapFrom?_eq_none_iff points 0).mp hgap]
      rfl
    | some gap =>
      have hhalf : points.any Utf8.isHalf = true := by
        rw [← Bool.not_eq_false, ← Utf8.gapFrom?_eq_none_iff points 0, hgap]
        simp
      rw [hhalf]
      rfl
  | _ => rfl

/-- A payload without a text is refused with the fault of a cache. -/
theorem refused_of_payloadText {payload : Value} {failure : Failure}
    (h : payloadText key payload = .error failure) :
    Reply.ofOutcome (.error failure) = .refused .cacheFailure := by
  rw [payloadText.eq_def] at h
  split at h
  · cases h
  · split at h <;> cases h
    rfl
  · cases h
    rfl

/-! ## What the entries remember -/

/-- Entries in the order of use, each used at a reading of the clock and holding what was last
stored under its key. -/
structure Dated (ttl : Seconds) (done : List (Seconds × Op)) (entries : List Entry) : Prop where
  ascending : Ascending entries
  used : ∀ e ∈ entries, ∃ reading ∈ done, e.lastUsed = reading.1
  latest : ∀ e ∈ entries, ∃ t, latest? e.key done = some (e.payload, t) ∧ e.expires = t + ttl

variable {ttl : Seconds} {done : List (Seconds × Op)} {op : Op} {kept : List Entry}

theorem Dated.sublist (h : Dated ttl done entries) (hkept : kept.Sublist entries) :
    Dated ttl done kept :=
  ⟨List.Pairwise.sublist hkept h.ascending, fun e he => h.used e (hkept.subset he),
    fun e he => h.latest e (hkept.subset he)⟩

/-- An operation that stores under none of the keys lets the entries hold what they did. -/
theorem Dated.later (h : Dated ttl done entries)
    (hother : ∀ e ∈ entries, Op.stores? e.key (now, op) = none) :
    Dated ttl (done ++ [(now, op)]) entries := by
  refine ⟨h.ascending, ?_, ?_⟩
  · intro e he
    obtain ⟨reading, hmem, hused⟩ := h.used e he
    exact ⟨reading, List.mem_append_left _ hmem, hused⟩
  · intro e he
    rw [latest?_concat, hother e he]
    exact h.latest e he

/-- An entry used now is used last, as the clock does not run backwards. -/
theorem Dated.append (h : Dated ttl done entries) (hclock : ∀ reading ∈ done, reading.1 ≤ now)
    (hother : ∀ e ∈ entries, Op.stores? e.key (now, op) = none) (hused : e.lastUsed = now)
    (hlatest : ∃ t, latest? e.key (done ++ [(now, op)]) = some (e.payload, t) ∧
      e.expires = t + ttl) :
    Dated ttl (done ++ [(now, op)]) (entries ++ [e]) := by
  have hbefore := h.later hother
  refine ⟨h.ascending.append ?_, ?_, ?_⟩
  · intro x hx
    obtain ⟨reading, hmem, hreading⟩ := h.used x hx
    rw [hreading, hused]
    exact hclock reading hmem
  · intro x hx
    rcases List.mem_append.mp hx with hx | hx
    · exact hbefore.used x hx
    · rw [List.mem_singleton.mp hx]
      exact ⟨(now, op), by simp, hused⟩
  · intro x hx
    rcases List.mem_append.mp hx with hx | hx
    · exact hbefore.latest x hx
    · rw [List.mem_singleton.mp hx]
      exact hlatest

/-! ## One operation -/

/-- The list of slots that a cache stands for. -/
def toLru (capacity : Int) (ttl : Seconds) (c : Cache) : Lru := ⟨capacity, ttl, c.slots⟩

/-- A cache with right books after some operations, with an integer for its capacity and a time as
its lifetime. -/
structure Follows (capacity : Int) (ttl : Seconds) (done : List (Seconds × Op)) (c : Cache) :
    Prop where
  sound : c.Sound
  capacity : c.capacity = .int capacity
  lifetime : ∀ now : Seconds, now.later c.lifetime = .ok (now + ttl)
  dated : Dated ttl done c.entries

variable {capacity : Int}

theorem find?_slots (c : Cache) (key : String) :
    c.slots.find? (·.key = key) = (c.find? key).map Entry.slot := by
  rw [slots, List.find?_map]
  rfl

theorem without_slots (c : Cache) (key : String) :
    Lru.without key c.slots = (c.remove key).slots := by
  rw [Lru.without, slots, List.filter_map, slots, entries_remove]
  rfl

/-- **Reading** a cache is reading its list. -/
theorem toLru_lookup (c : Cache) (capacity : Int) (ttl : Seconds) (key : String) (now : Seconds) :
    (c.toLru capacity ttl).get key now
      = ((c.lookup key now).1.toLru capacity ttl, (c.lookup key now).2) := by
  rw [Lru.get, toLru, find?_slots, lookup]
  cases hfound : c.find? key with
  | none => rfl
  | some e =>
    dsimp only [Option.map_some]
    rw [without_slots]
    by_cases hexpired : e.expires ≤ now
    · have hslot : e.slot.expires ≤ now := hexpired
      rw [if_pos hexpired, if_pos hslot]
      rfl
    · have hslot : ¬ e.slot.expires ≤ now := hexpired
      rw [if_neg hexpired, if_neg hslot]
      simp only [toLru, slots, entries_remove, List.map_append]
      rfl

theorem lifetime_lookup (c : Cache) (key : String) (now : Seconds) :
    (c.lookup key now).1.lifetime = c.lifetime := by
  rw [lookup]
  split
  · rfl
  · split
    · exact lifetime_remove c key
    · rfl

theorem Follows.lookup (h : Follows capacity ttl done c)
    (hclock : ∀ reading ∈ done, reading.1 ≤ now) (key : String) :
    Dated ttl (done ++ [(now, .lookup key)]) (c.lookup key now).1.entries := by
  have hnone : ∀ e ∈ c.entries, Op.stores? e.key (now, .lookup key) = none := fun _ _ => rfl
  have hothers := h.dated.sublist (List.filter_sublist (p := (·.key ≠ key)))
  rw [Cache.lookup]
  split
  · exact h.dated.later hnone
  · next e hfound =>
    split
    · rw [entries_remove]
      exact hothers.later fun _ _ => rfl
    · -- the entry keeps its expiry, and so what it holds is as old as before
      have hmem : e ∈ c.entries := List.mem_of_find?_eq_some hfound
      refine hothers.append hclock (fun _ _ => rfl) rfl ?_
      rw [latest?_concat]
      exact h.dated.latest e hmem

/-- **Storing** a text always succeeds, and leaves the entries after the shortest beginning that has
to go, with the new one last. -/
theorem Follows.storeText (h : Follows capacity ttl done c) (key : String) (payload : Text)
    (now : Seconds) :
    ∃ stored keys, c.storeText key payload now = (stored, .ok (), keys) ∧
      stored.lifetime = c.lifetime ∧
      stored.entries = (c.remove key).entries.drop
          (Lru.surplus capacity (String.ofList payload).utf8ByteSize (c.remove key).slots)
        ++ [⟨key, payload, now, now + ttl, Utf8.size payload⟩] := by
  have hascending : Ascending (c.remove key).entries := by
    rw [entries_remove]
    exact h.dated.ascending.filter _
  obtain ⟨room, keys, hroom, _, hleft, _, hlifetime⟩ := makeRoom_eq
    (h.sound.balanced.remove key) hascending ((capacity_remove c key).trans h.capacity)
    (Utf8.size payload)
  have hkept : room.lifetime = c.lifetime := hlifetime.trans (lifetime_remove c key)
  have hexpires : now.later room.lifetime = .ok (now + ttl) := by
    rw [hkept]
    exact h.lifetime now
  rw [← Utf8.size_eq, ← hleft]
  refine ⟨{ room with
    entries := room.entries ++ [⟨key, payload, now, now + ttl, Utf8.size payload⟩]
    used := room.used + Utf8.size payload }, keys, ?_, hkept, rfl⟩
  rw [Cache.storeText, hroom]
  dsimp only [Cache.insert]
  rw [hexpires]

/-- A payload that is no text changes nothing. -/
theorem act_store_of_none {payload : Value} (h : Lru.textOf? payload = none) :
    c.act now (.store key payload) = (c, .refused .cacheFailure) := by
  cases htext : payloadText key payload with
  | ok t =>
    rw [← toOption_payloadText key, htext] at h
    cases h
  | error failure =>
    rw [act, store, htext]
    exact congrArg _ (refused_of_payloadText htext)

/-- **One operation** on a cache is the same operation on its list, with the same reply. -/
theorem Follows.act (h : Follows capacity ttl done c) (hclock : ∀ reading ∈ done, reading.1 ≤ now)
    (op : Op) :
    Follows capacity ttl (done ++ [(now, op)]) (c.act now op).1 ∧
      (c.toLru capacity ttl).act now op
        = ((c.act now op).1.toLru capacity ttl, (c.act now op).2) := by
  have hsound := h.sound.act now op
  have hcapacity := (capacity_act c now op).trans h.capacity
  cases op with
  | lookup key =>
    refine ⟨⟨hsound, hcapacity, ?_, h.lookup hclock key⟩, ?_⟩
    · show ∀ t : Seconds, t.later (c.lookup key now).1.lifetime = _
      rw [lifetime_lookup]
      exact h.lifetime
    · rw [Lru.act, toLru_lookup]
      rfl
  | store key payload =>
    cases htext : Lru.textOf? payload with
    | none =>
      have hother : ∀ e ∈ c.entries, Op.stores? e.key (now, .store key payload) = none := by
        intro e _
        simp [Op.stores?, htext]
      rw [act_store_of_none htext, Lru.act, htext]
      exact ⟨⟨h.sound, h.capacity, h.lifetime, h.dated.later hother⟩, rfl⟩
    | some t =>
      obtain ⟨stored, keys, hstore, hlifetime, hentries⟩ := h.storeText key t now
      have hok : payloadText key payload = .ok t := by
        have hoption := toOption_payloadText key payload
        rw [htext] at hoption
        cases hpayload : payloadText key payload with
        | ok _ => simpa [hpayload, Except.toOption] using hoption
        | error _ => simp [hpayload, Except.toOption] at hoption
      have hact : c.act now (.store key payload) = (stored, .stored) := by
        rw [Cache.act, store, hok]
        dsimp only
        rw [hstore]
        rfl
      rw [hact] at hsound hcapacity ⊢
      refine ⟨⟨hsound, hcapacity, ?_, ?_⟩, ?_⟩
      · rw [hlifetime]
        exact h.lifetime
      · have hremoved : (c.remove key).entries.Sublist c.entries := by
          rw [entries_remove]
          exact List.filter_sublist
        have hother : ∀ e ∈ (c.remove key).entries,
            Op.stores? e.key (now, .store key payload) = none := by
          intro e he
          have hne : key ≠ e.key := fun heq =>
            notMem_remove c key (List.mem_map.mpr ⟨e, he, heq.symm⟩)
          rw [Op.stores?, if_neg hne]
        rw [hentries]
        refine (h.dated.sublist ((List.drop_sublist _ _).trans hremoved)).append hclock
          (fun e he => hother e (List.mem_of_mem_drop he)) rfl ⟨now, ?_, rfl⟩
        rw [latest?_concat]
        simp [Op.stores?, htext]
      · rw [Lru.act, htext]
        simp only [Lru.set, toLru, without_slots]
        have hslots : stored.slots = (c.remove key).slots.drop
            (Lru.surplus capacity (String.ofList t).utf8ByteSize (c.remove key).slots)
            ++ [⟨key, t, now + ttl⟩] := by
          rw [slots, hentries, List.map_append, List.map_drop]
          rfl
        rw [hslots]
  | clear => exact ⟨⟨hsound, hcapacity, h.lifetime, List.Pairwise.nil, by simp [Cache.act, clear],
      by simp [Cache.act, clear]⟩, rfl⟩

/-- **A history** of operations on a cache is the same history of its list, with the same
replies. -/
theorem Follows.run (h : Follows capacity ttl done c) (history : List (Seconds × Op))
    (hclock : ((done ++ history).map Prod.fst).Pairwise (· ≤ ·)) :
    Follows capacity ttl (done ++ history) (c.run history).1 ∧
      (c.toLru capacity ttl).run history
        = ((c.run history).1.toLru capacity ttl, (c.run history).2) := by
  induction history generalizing done c with
  | nil => exact ⟨by rwa [List.append_nil], rfl⟩
  | cons reading rest ih =>
    have hnow : ∀ before ∈ done, before.1 ≤ reading.1 := by
      intro before hbefore
      rw [List.map_append, List.pairwise_append] at hclock
      exact hclock.2.2 _ (List.mem_map_of_mem hbefore) _ (by simp)
    obtain ⟨hnext, hact⟩ := h.act hnow reading.2
    have hsplit : done ++ reading :: rest = done ++ [(reading.1, reading.2)] ++ rest := by simp
    rw [hsplit] at hclock ⊢
    obtain ⟨hlast, hrun⟩ := ih hnext hclock
    refine ⟨hlast, ?_⟩
    show Lru.run _ ((reading.1, reading.2) :: rest) = _
    rw [Lru.run, hact, hrun]
    rfl

/-- An entry is the one under its key. -/
theorem find?_of_mem (h : c.Balanced) (he : e ∈ c.entries) : c.find? e.key = some e := by
  cases hfind : c.find? e.key with
  | none =>
    have hne := List.find?_eq_none.mp hfind e he
    simp at hne
  | some x =>
    have hmem : x ∈ c.entries := List.mem_of_find?_eq_some hfind
    rw [List.inj_on_of_nodup_map h.distinct hmem he (key_of_find? hfind)]

/-- What is found under the key of an entry. -/
theorem lookup_of_mem (h : c.Balanced) (he : e ∈ c.entries) (now : Seconds) :
    (c.lookup e.key now).2 = if e.expires ≤ now then none else some e.payload := by
  rw [lookup, find?_of_mem h he]
  dsimp only
  split <;> rfl

/-- **The cache is a list in order of use**, for every history under a clock that does not run
backwards, where the capacity is an integer and the lifetime a number of seconds: the list goes
through the same slots and gives the same replies; an entry that is held is what was last stored
under its key, is found before the time of that and the lifetime are over, and not any more from
then on; and a payload that is no text is refused and leaves everything as it is. -/
theorem run_refines (capacity : Int) {lifetime : Value} {ttl : Seconds}
    (hnumeric : lifetime.isNumeric = true) (httl : Seconds.ofValue lifetime = .ok ttl)
    (history : List (Seconds × Op)) (hclock : (history.map Prod.fst).Pairwise (· ≤ ·)) :
    let c := (Cache.run { capacity := .int capacity, lifetime } history).1
    Lru.run { capacity, ttl } history
        = ({ capacity, ttl, slots := c.slots },
          (Cache.run { capacity := .int capacity, lifetime } history).2) ∧
      (∀ e ∈ c.entries, ∃ t, latest? e.key history = some (e.payload, t) ∧
        ∀ now, (now < t + ttl → (c.lookup e.key now).2 = some e.payload) ∧
          (t + ttl ≤ now → (c.lookup e.key now).2 = none)) ∧
      ∀ key payload now, Lru.textOf? payload = none →
        c.act now (.store key payload) = (c, .refused .cacheFailure) := by
  have hstart : Follows capacity ttl [] { capacity := .int capacity, lifetime } :=
    ⟨(run_sound (.int capacity) lifetime []).1, rfl, Seconds.later_eq hnumeric httl,
      List.Pairwise.nil, by simp, by simp⟩
  obtain ⟨hfollows, hrun⟩ := hstart.run history hclock
  refine ⟨hrun, ?_, fun key payload now hnone => act_store_of_none hnone⟩
  intro e he
  obtain ⟨t, hlatest, hexpires⟩ := hfollows.dated.latest e he
  have hlookup := lookup_of_mem hfollows.sound.balanced he
  rw [hexpires] at hlookup
  refine ⟨t, hlatest, fun now => ⟨fun hbefore => ?_, fun hafter => ?_⟩⟩
  · rw [hlookup, if_neg fun hle => Seconds.not_lt_of_le hle hbefore]
  · rw [hlookup, if_pos hafter]

/-- Three texts stored at the same time, of which the first is read before a longer one comes. A
payload that is no text follows, and the clock moves on until the first one is over. -/
def crowded : List (Seconds × Op) :=
  [(.ofInt 0, .store "a" (.ofString "éé")), (.ofInt 0, .store "b" (.ofString "xyz")),
    (.ofInt 0, .store "c" (.ofString "w")), (.ofInt 1, .lookup "a"),
    (.ofInt 1, .store "d" (.ofString "1234")), (.ofInt 2, .store "a" (.int 7)),
    (.ofInt 2, .lookup "b"), (.ofInt 9, .lookup "a"), (.ofInt 10, .lookup "a"),
    (.ofInt 10, .lookup "d")]

/-- The text read goes to the end, so that the other two have to go for the longer one. -/
theorem crowded_refines :
    (Cache.run { capacity := .int 8, lifetime := .int 10 } crowded).2
        = [.stored, .stored, .stored, .found (some "éé".toList), .stored, .refused .cacheFailure,
          .found none, .found (some "éé".toList), .found none, .found (some "1234".toList)] ∧
      (Cache.run { capacity := .int 8, lifetime := .int 10 } crowded).1.slots
        = [⟨"d", "1234".toList, .ofInt 11⟩] := by
  have hfinite : (Binary64.ofInt 10).isFinite = true := by decide +kernel
  have httl : Seconds.ofValue (.int 10) = .ok (.ofInt 10) := by
    simp [Seconds.ofValue, Value.int?, Value.floatOf, hfinite, Except.map, Seconds.ofInt]
  have hrefines := (run_refines 8 rfl httl crowded (by decide +kernel)).1
  have hslots : (Lru.run { capacity := 8, ttl := .ofInt 10 } crowded).1.slots
      = (Cache.run { capacity := .int 8, lifetime := .int 10 } crowded).1.slots := by
    rw [hrefines]
  rw [← congrArg Prod.snd hrefines, ← hslots]
  decide +kernel

end Cache

end GhostEdit
