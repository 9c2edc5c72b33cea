import GhostEdit.Proofs.Cache.Recency

/-!
# What makes a cache give an entry up

An entry that was stored is there to be found until something takes it away, and there are only four
things that do: it expires, another payload is stored under its key, it has to go for a new entry,
or the cache is cleared. This file proves that nothing else does. Lookups of whatever key, stores
that fail and stores of other keys leave what is held under a key as it is (`Holds.act`), and so
does every history in which none of the four happens (`Holds.run`).

Nothing is assumed of the capacity, of the lifetime or of the order of the readings of the clock.

## Main definitions

* `Cache.Holds`: what is held under a key, and until when
* `Cache.drops`, `Cache.dropped`: the keys that an operation, or a history, gives up
* `Cache.Spares`: a history in which nothing takes an entry away

## Main results

* `Cache.holds_storeText`: a payload that was stored is held
* `Cache.Holds.run`: it is held as long as the history spares it
-/

namespace GhostEdit

namespace Cache

variable {c room : Cache} {key : String} {payload : Text} {now expires : Seconds} {op : Op}
  {e : Entry} {size : Nat} {keys : List String} {outcome : Except Failure Unit}

/-- A payload is held under a key until a time. -/
def Holds (c : Cache) (key : String) (payload : Text) (expires : Seconds) : Prop :=
  ∃ e ∈ c.entries, e.key = key ∧ e.payload = payload ∧ e.expires = expires

/-- What is held is found before it expires. -/
theorem Holds.lookup (h : c.Holds key payload expires) (hbooks : c.Balanced)
    (hnow : ¬ expires ≤ now) : (c.lookup key now).2 = some payload := by
  obtain ⟨e, he, rfl, rfl, rfl⟩ := h
  rw [lookup_of_mem hbooks he, if_neg hnow]

/-! ## Storing -/

/-- What has another key is not removed. -/
theorem mem_remove (he : e ∈ c.entries) (hne : e.key ≠ key) : e ∈ (c.remove key).entries := by
  rw [entries_remove]
  exact List.mem_filter.mpr ⟨he, by simpa using hne⟩

theorem Evicts.lifetime (h : Evicts size c keys outcome room) : room.lifetime = c.lifetime := by
  induction h with
  | empty _ => rfl
  | fits _ => rfl
  | fail _ => rfl
  | evict _ _ _ ih => rw [ih, lifetime_remove]

/-- What did not have to go is still there. -/
theorem Evicts.mem (h : Evicts size c keys outcome room) (he : e ∈ c.entries)
    (hkept : e.key ∉ keys) : e ∈ room.entries := by
  induction h with
  | empty _ => exact he
  | fits _ => exact he
  | fail _ => exact he
  | evict _ _ _ ih =>
    rw [List.mem_cons, not_or] at hkept
    exact ih (mem_remove he hkept.1) hkept.2

/-- Putting an entry in leaves the others where they are. -/
theorem mem_insert (he : e ∈ c.entries) (key : String) (payload : Text) (now : Seconds) :
    e ∈ (c.insert key payload now).1.entries := by
  rw [insert]
  split
  · exact he
  · exact List.mem_append_left _ he

/-- Storing under another key leaves an entry that does not have to go for it. -/
theorem mem_storeText (he : e ∈ c.entries) (hne : e.key ≠ key)
    (hkept : e.key ∉ (c.storeText key payload now).2.2) :
    e ∈ (c.storeText key payload now).1.entries := by
  have hleft := (evicts_makeRoom (c.remove key) (Utf8.size payload)).1.mem (mem_remove he hne)
  rw [storeText] at hkept ⊢
  generalize (c.remove key).makeRoom (Utf8.size payload) = made at hkept hleft ⊢
  obtain ⟨room, _ | _, keys⟩ := made
  · exact hleft hkept
  · exact mem_insert (hleft hkept) key payload now

/-- **A payload that was stored** is held until its lifetime is over. -/
theorem holds_storeText (h : (c.storeText key payload now).2.1 = .ok ()) :
    ∃ expires, now.later c.lifetime = .ok expires ∧
      (c.storeText key payload now).1.Holds key payload expires := by
  have hlifetime := (evicts_makeRoom (c.remove key) (Utf8.size payload)).1.lifetime
  rw [lifetime_remove] at hlifetime
  rw [storeText] at h ⊢
  generalize (c.remove key).makeRoom (Utf8.size payload) = made at h hlifetime ⊢
  obtain ⟨room, _ | _, keys⟩ := made
  · cases h
  · dsimp only at h hlifetime ⊢
    rw [← hlifetime]
    rw [insert] at h ⊢
    cases hexpires : now.later room.lifetime with
    | error _ =>
      rw [hexpires] at h
      cases h
    | ok expires =>
      exact ⟨expires, rfl, _, List.mem_append_right _ List.mem_cons_self, rfl, rfl, rfl⟩

/-! ## What is given up -/

/-- The keys that an operation gives up: those that have to go for a new entry, or all of them. -/
def drops (c : Cache) (now : Seconds) : Op → List String
  | .lookup _ => []
  | .store key payload => (c.store key payload now).2.2
  | .clear => c.entries.map Entry.key

/-- The keys that a history gives up. -/
def dropped : Cache → List (Seconds × Op) → List String
  | _, [] => []
  | c, (now, op) :: rest => c.drops now op ++ (c.act now op).1.dropped rest

/-- The key under which an operation stores. -/
def Op.storedKey? : Op → Option String
  | .store key _ => some key
  | _ => none

/-- A history that leaves alone what is held under a key until a time: nothing is stored under the
key, the key is not given up, and the clock does not reach the time. -/
structure Spares (c : Cache) (key : String) (expires : Seconds) (history : List (Seconds × Op)) :
    Prop where
  early : ∀ reading ∈ history, ¬ expires ≤ reading.1
  unreplaced : ∀ reading ∈ history, reading.2.storedKey? ≠ some key
  kept : key ∉ c.dropped history

/-- A lookup leaves what has not expired. -/
theorem Holds.act_lookup (h : c.Holds key payload expires) (hbooks : c.Balanced)
    (hnow : ¬ expires ≤ now) (other : String) :
    (c.lookup other now).1.Holds key payload expires := by
  obtain ⟨e, he, rfl, rfl, rfl⟩ := h
  rw [Cache.lookup]
  split
  · exact ⟨e, he, rfl, rfl, rfl⟩
  · next x hfound =>
    by_cases heq : e.key = other
    · -- the entry itself is found, and goes to the end with its use noted
      rw [← heq, find?_of_mem hbooks he] at hfound
      obtain rfl : e = x := Option.some.inj hfound
      rw [if_neg hnow]
      exact ⟨_, List.mem_append_right _ List.mem_cons_self, rfl, rfl, rfl⟩
    · have hmem := mem_remove he heq
      split
      · exact ⟨e, hmem, rfl, rfl, rfl⟩
      · rw [entries_remove] at hmem
        exact ⟨e, List.mem_append_left _ hmem, rfl, rfl, rfl⟩

/-- **An operation that spares an entry** leaves what it holds. -/
theorem Holds.act (h : c.Holds key payload expires) (hbooks : c.Balanced)
    (hnow : ¬ expires ≤ now) (hstored : op.storedKey? ≠ some key) (hkept : key ∉ c.drops now op) :
    (c.act now op).1.Holds key payload expires := by
  cases op with
  | lookup other => exact h.act_lookup hbooks hnow other
  | store other v =>
    obtain ⟨e, he, rfl, rfl, rfl⟩ := h
    have hne : e.key ≠ other := fun heq => hstored (congrArg some heq.symm)
    have hkept : e.key ∉ (c.store other v now).2.2 := hkept
    show (c.store other v now).1.Holds _ _ _
    rw [store] at hkept ⊢
    split at hkept
    · exact ⟨e, he, rfl, rfl, rfl⟩
    · exact ⟨e, mem_storeText he hne hkept, rfl, rfl, rfl⟩
  | clear =>
    obtain ⟨e, he, rfl, rfl, rfl⟩ := h
    exact absurd (List.mem_map_of_mem he) hkept

/-- **What is held stays** as long as the history spares it. -/
theorem Holds.run {history : List (Seconds × Op)} (h : c.Holds key payload expires)
    (hbooks : c.Sound) (hspares : c.Spares key expires history) :
    (c.run history).1.Holds key payload expires := by
  induction history generalizing c with
  | nil => exact h
  | cons reading rest ih =>
    obtain ⟨now, op⟩ := reading
    obtain ⟨hnow, hearly⟩ := List.forall_mem_cons.mp hspares.early
    obtain ⟨hstored, hunreplaced⟩ := List.forall_mem_cons.mp hspares.unreplaced
    have hkept := hspares.kept
    rw [dropped, List.mem_append, not_or] at hkept
    exact ih (h.act hbooks.balanced hnow hstored hkept.1) (hbooks.act now op)
      ⟨hearly, hunreplaced, hkept.2⟩

end Cache

end GhostEdit
