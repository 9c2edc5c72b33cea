import Mathlib.Algebra.GroupWithZero.Nat
import GhostEdit.Cache
import GhostEdit.Proofs.Text.Utf8

/-!
# The books of the cache

The cache counts the bytes it holds in a number of its own, and every operation updates that number
apart from the entries: storing adds, replacing and expiry subtract, room is made one entry at a
time. One update too many or too few anywhere, and the cache starves or overflows from then on
without a sign of it. This file proves that the books stay right under every history of operations,
successful or not, and whatever the clock shows: nothing here depends on which entry counts as the
oldest.

## Settings that are no numbers

Capacity and lifetime come from outside and may be of any kind. A capacity that cannot be compared
makes storing fail, but only once there is an entry to remove, and a lifetime that cannot be added
to the clock makes it fail after room was made. Both leave the books right, so no assumption about
the two is made. Where the capacity is an integer, `Cache.within_iff` says what staying within it
means.

## The loop

`Cache.makeRoom` has a bound on its steps. `Cache.Evicts` is the loop without one: it goes on for as
long as something is held and the new bytes do not fit. `Cache.evicts_makeRoom` says that the bound
is never what ends it.

## Main definitions

* `Cache.Op`, `Cache.act`, `Cache.run`: operations, and histories of them under a clock
* `Cache.Balanced`: distinct keys, and a count that is right
* `Cache.Within`, `Cache.Bounded`: bytes that the capacity allows
* `Cache.Evicts`: making room without a bound on the steps

## Main results

* `Cache.evicts_makeRoom`: making room always ends
* `Cache.run_sound`: what holds after every history
* `Cache.accounting_exact`
-/

namespace GhostEdit

/-- The bytes that are counted are those of the encoded text. -/
theorem Utf8.size_eq (t : Text) : Utf8.size t = (String.ofList t).utf8ByteSize := by
  have hcount : ∀ (t : Text) (n : Nat),
      t.foldl (fun n c => n + c.utf8Size) n = n + (String.ofList t).utf8ByteSize := by
    intro t
    induction t with
    | nil => simp
    | cons c rest ih =>
      intro n
      rw [List.foldl_cons, ih, String.ofList_cons, String.utf8ByteSize_append,
        String.utf8ByteSize_singleton, Nat.add_assoc]
  rw [Utf8.size, hcount, Nat.zero_add]

namespace Cache

/-! ## Histories -/

/-- What can be asked of a cache. -/
inductive Op where
  | lookup (key : String)
  | store (key : String) (payload : Value)
  | clear

/-- What a cache answers. -/
inductive Reply where
  | found (answer : Option Text)
  | stored
  /-- The payload was refused, with a fault of the given kind. -/
  | refused (kind : FaultKind)
  /-- Storing failed for another reason. -/
  | broke
  | cleared
deriving DecidableEq

/-- The answer to an attempt to store. -/
def Reply.ofOutcome : Except Failure Unit → Reply
  | .ok () => .stored
  | .error (.fault f) => .refused f.kind
  | .error _ => .broke

/-- An operation, with what the clock shows. -/
def act (c : Cache) (now : Seconds) : Op → Cache × Reply
  | .lookup key => ((c.lookup key now).1, .found (c.lookup key now).2)
  | .store key payload => ((c.store key payload now).1, .ofOutcome (c.store key payload now).2.1)
  | .clear => (c.clear, .cleared)

/-- Operations one after the other, each with what the clock shows then. -/
def run : Cache → List (Seconds × Op) → Cache × List Reply
  | c, [] => (c, [])
  | c, (now, op) :: rest =>
    (((c.act now op).1.run rest).1, (c.act now op).2 :: ((c.act now op).1.run rest).2)

/-- What holds at first and is kept by every operation holds after every history. -/
theorem run_induction {P : Cache → Prop} {c : Cache} (hstart : P c)
    (hstep : ∀ c now op, P c → P (c.act now op).1) (history : List (Seconds × Op)) :
    P (c.run history).1 := by
  induction history generalizing c with
  | nil => exact hstart
  | cons reading rest ih => exact ih (hstep c reading.1 reading.2 hstart)

/-! ## The books -/

/-- The bytes of entries, by what is noted with each. -/
def bytesOf (entries : List Entry) : Nat := (entries.map Entry.size).sum

/-- No two entries share a key, the size of each is that of its payload, and the count of bytes is
the sum. -/
structure Balanced (c : Cache) : Prop where
  distinct : (c.entries.map Entry.key).Nodup
  sizes : ∀ e ∈ c.entries, e.size = (String.ofList e.payload).utf8ByteSize
  used : c.used = bytesOf c.entries

variable {c room : Cache} {key : String} {e : Entry} {entries : List Entry} {size : Nat}

theorem key_of_find? (h : entries.find? (·.key = key) = some e) : e.key = key := by
  simpa using List.find?_some h

/-- Taking the entry under a key out takes its bytes out. -/
theorem bytesOf_filter (hdistinct : (entries.map Entry.key).Nodup)
    (h : entries.find? (·.key = key) = some e) :
    bytesOf (entries.filter (·.key ≠ key)) + e.size = bytesOf entries := by
  induction entries with
  | nil => cases h
  | cons first rest ih =>
    rw [List.map_cons, List.nodup_cons] at hdistinct
    by_cases hkey : first.key = key
    · -- no other entry has this key, so that the filter takes out nothing else
      have hfirst : first = e := by simpa [hkey] using h
      have hrest : rest.filter (·.key ≠ key) = rest := by
        refine List.filter_eq_self.mpr fun x hx => ?_
        have hne : x.key ≠ key := fun heq =>
          hdistinct.1 (hkey ▸ heq ▸ List.mem_map_of_mem hx)
        simpa using hne
      rw [List.filter_cons_of_neg (by simpa using hkey), hrest, hfirst]
      simp [bytesOf, Nat.add_comm]
    · have hrest : rest.find? (·.key = key) = some e := by simpa [hkey] using h
      have hsum := ih hdistinct.2 hrest
      rw [List.filter_cons_of_pos (by simpa using hkey)]
      simp only [bytesOf, List.map_cons, List.sum_cons] at hsum ⊢
      omega

theorem nodup_filter (h : (entries.map Entry.key).Nodup) (p : Entry → Bool) :
    ((entries.filter p).map Entry.key).Nodup :=
  h.sublist (List.filter_sublist.map _)

theorem entries_remove (c : Cache) (key : String) :
    (c.remove key).entries = c.entries.filter (·.key ≠ key) := by
  rw [remove]
  split
  · rfl
  · next hnone =>
    refine (List.filter_eq_self.mpr fun x hx => ?_).symm
    have hne := List.find?_eq_none.mp hnone x hx
    simpa using hne

theorem capacity_remove (c : Cache) (key : String) : (c.remove key).capacity = c.capacity := by
  rw [remove]
  split <;> rfl

theorem lifetime_remove (c : Cache) (key : String) : (c.remove key).lifetime = c.lifetime := by
  rw [remove]
  split <;> rfl

theorem used_remove_le (c : Cache) (key : String) : (c.remove key).used ≤ c.used := by
  rw [remove]
  split
  · exact Nat.sub_le _ _
  · exact Nat.le_refl _

theorem notMem_remove (c : Cache) (key : String) :
    key ∉ (c.remove key).entries.map Entry.key := by
  rw [entries_remove]
  simp

/-- **Removing an entry** keeps the books right. -/
theorem Balanced.remove (h : c.Balanced) (key : String) : (c.remove key).Balanced := by
  refine ⟨?_, fun e he => ?_, ?_⟩
  · rw [entries_remove]
    exact nodup_filter h.distinct _
  · rw [entries_remove] at he
    exact h.sizes e (List.mem_filter.mp he).1
  · rw [entries_remove, Cache.remove]
    split
    · next e he =>
      have hsum := bytesOf_filter h.distinct he
      have hused := h.used
      show c.used - e.size = _
      omega
    · next hnone =>
      have hkept := entries_remove c key
      rw [Cache.remove, hnone] at hkept
      rw [← hkept]
      exact h.used

/-- **Adding an entry** under a key that has none keeps the books right. -/
theorem Balanced.append (h : c.Balanced) (hkey : e.key ∉ c.entries.map Entry.key)
    (hsize : e.size = (String.ofList e.payload).utf8ByteSize) :
    ({ c with entries := c.entries ++ [e], used := c.used + e.size } : Cache).Balanced := by
  refine ⟨?_, fun x hx => ?_, ?_⟩
  · show ((c.entries ++ [e]).map Entry.key).Nodup
    rw [List.map_append, List.nodup_append]
    refine ⟨h.distinct, by simp, fun a ha b hb heq => hkey ?_⟩
    have hb : b = e.key := by simpa using hb
    rwa [← hb, ← heq]
  · rcases List.mem_append.mp hx with hx | hx
    · exact h.sizes x hx
    · rw [List.mem_singleton.mp hx]
      exact hsize
  · show c.used + e.size = bytesOf (c.entries ++ [e])
    rw [h.used]
    simp [bytesOf]

/-! ## The capacity -/

/-- The capacity allows a number of bytes: they do not exceed it. -/
def Within (c : Cache) (bytes : Int) : Prop :=
  Value.compare .greater (.int bytes) c.capacity = .ok false

/-- An integer capacity allows the bytes up to it. -/
theorem within_iff {limit bytes : Int} (hcapacity : c.capacity = .int limit) :
    c.Within bytes ↔ bytes ≤ limit := by
  rw [Within, hcapacity]
  simp [Value.compare, Value.isNumeric, Value.relate, Value.int?, Value.Sign.holds]

/-- A number that is not exceeded by some bytes is not exceeded by fewer. -/
theorem relate_greater_mono {capacity : Value} {fewer bytes : Int} (hle : fewer ≤ bytes)
    (h : Value.relate Value.Sign.greater.holds (.int bytes) capacity = false) :
    Value.relate Value.Sign.greater.holds (.int fewer) capacity = false := by
  cases capacity with
  | int limit =>
    simp only [Value.relate, Value.int?, Value.Sign.holds, decide_eq_false_iff_not] at h ⊢
    omega
  | bool b =>
    simp only [Value.relate, Value.int?, Value.Sign.holds, decide_eq_false_iff_not] at h ⊢
    omega
  | float x =>
    have hunits : fewer * (Binary64.one : Int) ≤ bytes * (Binary64.one : Int) :=
      Int.mul_le_mul_of_nonneg_right hle (Int.natCast_nonneg _)
    simp only [Value.relate, Value.int?, Value.rank?, Option.map_some] at h ⊢
    cases hrank : x.rank? with
    | none => rfl
    | some limit =>
      rw [hrank] at h
      dsimp only at h ⊢
      -- an infinite limit is exceeded by no integer or by every one
      have hside : (Value.int fewer).side = (Value.int bytes).side := rfl
      rw [hside]
      by_cases hfinite : (Value.int bytes).side = (Value.float x).side
      · rw [if_pos hfinite] at h ⊢
        simp only [Value.Sign.holds, decide_eq_false_iff_not] at h ⊢
        omega
      · rw [if_neg hfinite] at h ⊢
        exact h
  | _ => rfl

theorem Within.mono {fewer bytes : Int} (h : c.Within bytes) (hle : fewer ≤ bytes) :
    c.Within fewer := by
  unfold Within Value.compare at h ⊢
  split at h
  · next hnumeric =>
    have hnumeric : ((Value.int fewer).isNumeric && c.capacity.isNumeric) = true := hnumeric
    rw [if_pos hnumeric]
    exact congrArg _ (relate_greater_mono hle (Except.ok.inj h))
  · cases h

/-- The bytes held are within the capacity, or they are those of one entry. -/
def Bounded (c : Cache) : Prop := c.Within c.used ∨ c.entries.length ≤ 1

theorem Bounded.remove (h : c.Bounded) (key : String) : (c.remove key).Bounded := by
  have hcapacity := capacity_remove c key
  have hused := used_remove_le c key
  rcases h with h | h
  · left
    rw [Within, hcapacity]
    exact h.mono (by omega)
  · right
    rw [entries_remove]
    exact Nat.le_trans (List.length_filter_le _ _) h

/-! ## Making room -/

/-- Remove the entries used longest ago for as long as something is held and `size` more bytes do
not fit, with the keys removed in order and the outcome. -/
inductive Evicts (size : Nat) : Cache → List String → Except Failure Unit → Cache → Prop
  | empty {c : Cache} (hempty : c.entries = []) : Evicts size c [] (.ok ()) c
  | fits {c : Cache} (hfits : c.Within (c.used + size)) : Evicts size c [] (.ok ()) c
  /-- The capacity is no number. -/
  | fail {c : Cache} {e : Failure}
      (hfail : Value.compare .greater (.int (c.used + size)) c.capacity = .error e) :
      Evicts size c [] (.error e) c
  | evict {c room : Cache} {e : Entry} {keys : List String} {outcome : Except Failure Unit}
      (holdest : oldest? c.entries = some e)
      (hexceeds : Value.compare .greater (.int (c.used + size)) c.capacity = .ok true)
      (hrest : Evicts size (c.remove e.key) keys outcome room) :
      Evicts size c (e.key :: keys) outcome room

/-- The entry used longest ago is one of the entries. -/
theorem mem_of_oldest? (h : oldest? entries = some e) : e ∈ entries := by
  have hfold : ∀ (rest : List Entry) (first : Entry),
      rest.foldl (fun o e => if e.lastUsed < o.lastUsed then e else o) first ∈ first :: rest := by
    intro rest
    induction rest with
    | nil => simp
    | cons x rest ih =>
      intro first
      rw [List.foldl_cons]
      split
      · exact List.mem_cons_of_mem _ (ih x)
      · rcases List.mem_cons.mp (ih first) with heq | hmem
        · rw [heq]
          exact List.mem_cons_self
        · exact List.mem_cons_of_mem _ (List.mem_cons_of_mem _ hmem)
  cases entries with
  | nil => cases h
  | cons first rest =>
    cases h
    exact hfold rest first

theorem entries_eq_nil_of_oldest? (h : oldest? entries = none) : entries = [] := by
  cases entries with
  | nil => rfl
  | cons first rest => cases h

/-- Removing an entry leaves fewer. -/
theorem length_remove_lt (h : e ∈ c.entries) :
    (c.remove e.key).entries.length < c.entries.length := by
  rw [entries_remove]
  refine List.length_filter_lt_length_iff_exists.mpr ⟨e, h, ?_⟩
  simp

/-- **Making room always ends**: as every step removes an entry, the bound on the steps, one for
each entry, is never reached before the loop is over. -/
theorem evicts_makeRoomWithin {fuel : Nat} (hfuel : c.entries.length ≤ fuel) (size : Nat) :
    Evicts size c (makeRoomWithin fuel size c).2.2 (makeRoomWithin fuel size c).2.1
        (makeRoomWithin fuel size c).1 ∧
      (makeRoomWithin fuel size c).2.2.length ≤ c.entries.length := by
  induction fuel generalizing c with
  | zero =>
    have hempty : c.entries = [] := List.length_eq_zero_iff.mp (Nat.le_zero.mp hfuel)
    exact ⟨.empty hempty, Nat.zero_le _⟩
  | succ fuel ih =>
    rw [makeRoomWithin]
    split
    · next hnone => exact ⟨.empty (entries_eq_nil_of_oldest? hnone), Nat.zero_le _⟩
    · next e holdest =>
      split
      · next hfail => exact ⟨.fail hfail, Nat.zero_le _⟩
      · next hfits => exact ⟨.fits hfits, Nat.zero_le _⟩
      · next hexceeds =>
        have hless := length_remove_lt (mem_of_oldest? holdest)
        obtain ⟨hrest, hlength⟩ := ih (c := c.remove e.key) (by omega)
        refine ⟨.evict holdest hexceeds hrest, ?_⟩
        rw [List.length_cons]
        exact Nat.succ_le_of_lt (Nat.lt_of_le_of_lt hlength hless)

theorem evicts_makeRoom (c : Cache) (size : Nat) :
    Evicts size c (c.makeRoom size).2.2 (c.makeRoom size).2.1 (c.makeRoom size).1 ∧
      (c.makeRoom size).2.2.length ≤ c.entries.length :=
  evicts_makeRoomWithin (Nat.le_refl _) size

variable {keys : List String} {outcome : Except Failure Unit}

theorem Evicts.balanced (h : Evicts size c keys outcome room) (hc : c.Balanced) :
    room.Balanced := by
  induction h with
  | empty _ => exact hc
  | fits _ => exact hc
  | fail _ => exact hc
  | evict _ _ _ ih => exact ih (hc.remove _)

theorem Evicts.bounded (h : Evicts size c keys outcome room) (hc : c.Bounded) :
    room.Bounded := by
  induction h with
  | empty _ => exact hc
  | fits _ => exact hc
  | fail _ => exact hc
  | evict _ _ _ ih => exact ih (hc.remove _)

theorem Evicts.capacity (h : Evicts size c keys outcome room) : room.capacity = c.capacity := by
  induction h with
  | empty _ => rfl
  | fits _ => rfl
  | fail _ => rfl
  | evict _ _ _ ih => rw [ih, capacity_remove]

/-- What is left was there before. -/
theorem Evicts.subset (h : Evicts size c keys outcome room) : room.entries ⊆ c.entries := by
  induction h with
  | empty _ => exact List.Subset.refl _
  | fits _ => exact List.Subset.refl _
  | fail _ => exact List.Subset.refl _
  | evict _ _ _ ih =>
    rw [entries_remove] at ih
    exact fun x hx => (List.mem_filter.mp (ih hx)).1

/-- Room was made: nothing is left, or the new bytes fit. -/
theorem Evicts.made (h : Evicts size c keys (.ok ()) room) :
    room.entries = [] ∨ room.Within (room.used + size) := by
  generalize houtcome : (Except.ok () : Except Failure Unit) = outcome at h
  induction h with
  | empty hempty => exact .inl hempty
  | fits hfits => exact .inr hfits
  | fail _ => cases houtcome
  | evict _ _ _ ih => exact ih houtcome

/-! ## The operations -/

/-- Books that are right, and bytes that the capacity allows. -/
structure Sound (c : Cache) : Prop where
  balanced : c.Balanced
  bounded : c.Bounded

theorem Sound.remove (h : c.Sound) (key : String) : (c.remove key).Sound :=
  ⟨h.balanced.remove key, h.bounded.remove key⟩

/-- An entry that is read goes to the end. -/
theorem Sound.refresh (h : c.Sound) (hfound : c.find? key = some e) (now : Seconds) :
    ({ c with entries := c.entries.filter (·.key ≠ key) ++ [{ e with lastUsed := now }] } :
      Cache).Sound := by
  have hremoved := h.balanced.remove key
  have hnew := notMem_remove c key
  have hsum := bytesOf_filter h.balanced.distinct hfound
  rw [Cache.remove, hfound] at hremoved hnew
  have hkey : e.key = key := key_of_find? hfound
  have hmem : e ∈ c.entries := List.mem_of_find?_eq_some hfound
  have happended := hremoved.append (e := { e with lastUsed := now }) (by rw [hkey]; exact hnew)
    (h.balanced.sizes e hmem)
  have hused := h.balanced.used
  refine ⟨⟨happended.distinct, happended.sizes, ?_⟩, ?_⟩
  · rw [hused, ← hsum]
    simp [bytesOf]
  · rcases h.bounded with hwithin | hfew
    · exact .inl hwithin
    · right
      have hless := length_remove_lt hmem
      rw [entries_remove, hkey] at hless
      rw [List.length_append, List.length_singleton]
      omega

theorem Sound.lookup (h : c.Sound) (key : String) (now : Seconds) : (c.lookup key now).1.Sound := by
  rw [Cache.lookup]
  split
  · exact h
  · next e hfound =>
    split
    · exact h.remove key
    · exact h.refresh hfound now

/-- Putting an entry in, under a key that has none, where room was made for it. -/
theorem Sound.insert (h : room.Sound) (hkey : key ∉ room.entries.map Entry.key) (payload : Text)
    (hroom : room.entries = [] ∨ room.Within (room.used + Utf8.size payload)) (now : Seconds) :
    (room.insert key payload now).1.Sound := by
  rw [Cache.insert]
  split
  · exact h
  · next expires _ =>
    refine ⟨h.balanced.append (e := ⟨key, payload, now, expires, Utf8.size payload⟩) hkey
      (Utf8.size_eq payload), ?_⟩
    rcases hroom with hempty | hwithin
    · right
      show (room.entries ++ [_]).length ≤ 1
      simp [hempty]
    · left
      show room.Within ((room.used + Utf8.size payload : Nat) : Int)
      rwa [Int.natCast_add]

theorem Sound.storeText (h : c.Sound) (key : String) (payload : Text) (now : Seconds) :
    (c.storeText key payload now).1.Sound := by
  have hremoved := h.remove key
  obtain ⟨hevicts, _⟩ := evicts_makeRoom (c.remove key) (Utf8.size payload)
  have hroom : ((c.remove key).makeRoom (Utf8.size payload)).1.Sound :=
    ⟨hevicts.balanced hremoved.balanced, hevicts.bounded hremoved.bounded⟩
  have hkey : key ∉ ((c.remove key).makeRoom (Utf8.size payload)).1.entries.map Entry.key :=
    fun hmem => notMem_remove c key (List.map_subset _ hevicts.subset hmem)
  rw [Cache.storeText]
  split
  · next heq =>
    rw [heq] at hroom
    exact hroom
  · next heq =>
    rw [heq] at hroom hkey hevicts
    exact hroom.insert hkey payload hevicts.made now

theorem Sound.store (h : c.Sound) (key : String) (payload : Value) (now : Seconds) :
    (c.store key payload now).1.Sound := by
  rw [Cache.store]
  split
  · exact h
  · exact h.storeText key _ now

theorem sound_clear (c : Cache) : c.clear.Sound :=
  ⟨⟨List.Pairwise.nil, by simp [clear], rfl⟩, .inr (Nat.zero_le _)⟩

/-- **Every operation** keeps the books right and the bytes within the capacity. -/
theorem Sound.act (h : c.Sound) (now : Seconds) (op : Op) : (c.act now op).1.Sound := by
  cases op with
  | lookup key => exact h.lookup key now
  | store key payload => exact h.store key payload now
  | clear => exact sound_clear c

theorem capacity_insert (c : Cache) (key : String) (payload : Text) (now : Seconds) :
    (c.insert key payload now).1.capacity = c.capacity := by
  rw [Cache.insert]
  split <;> rfl

theorem capacity_act (c : Cache) (now : Seconds) (op : Op) :
    (c.act now op).1.capacity = c.capacity := by
  cases op with
  | lookup key =>
    show (c.lookup key now).1.capacity = _
    rw [Cache.lookup]
    split
    · rfl
    · split
      · exact capacity_remove c key
      · rfl
  | store key payload =>
    show (c.store key payload now).1.capacity = _
    rw [Cache.store]
    split
    · rfl
    · next text _ =>
      have hroom := (evicts_makeRoom (c.remove key) (Utf8.size text)).1.capacity
      rw [capacity_remove] at hroom
      rw [Cache.storeText]
      split
      · next heq =>
        rw [heq] at hroom
        exact hroom
      · next heq =>
        rw [heq] at hroom
        exact (capacity_insert _ key text now).trans hroom
  | clear => rfl

/-- **Every history** of a cache that starts empty leaves it sound, with the capacity as it was. -/
theorem run_sound (capacity lifetime : Value) (history : List (Seconds × Op)) :
    (run { capacity, lifetime } history).1.Sound ∧
      (run { capacity, lifetime } history).1.capacity = capacity := by
  have hstart : ({ capacity, lifetime } : Cache).Sound :=
    ⟨⟨List.Pairwise.nil, by simp, rfl⟩, .inr (Nat.zero_le _)⟩
  exact run_induction (P := fun c => c.Sound ∧ c.capacity = capacity) ⟨hstart, rfl⟩
    (fun c now op h => ⟨h.1.act now op, (capacity_act c now op).trans h.2⟩) history

/-- **The books of the cache are always right**, for every capacity and lifetime and every history
of operations, under any readings of the clock: the keys are distinct; the count of bytes is the sum
of the encoded lengths of the payloads; the count is within the capacity, or at most one entry is
held; and making room for a payload of any size, after any key was dropped, comes to its end within
as many steps as there are entries. -/
theorem accounting_exact (capacity lifetime : Value) (history : List (Seconds × Op)) :
    let c := (run { capacity, lifetime } history).1
    (c.entries.map Entry.key).Nodup ∧
      c.used = (c.entries.map fun e => (String.ofList e.payload).utf8ByteSize).sum ∧
      (c.Within c.used ∨ c.entries.length ≤ 1) ∧
      (∀ limit : Int, capacity = .int limit → c.used ≤ limit ∨ c.entries.length ≤ 1) ∧
      ∀ (key : String) (size : Nat), ∃ keys outcome room,
        (c.remove key).makeRoom size = (room, outcome, keys) ∧
        Evicts size (c.remove key) keys outcome room ∧ keys.length ≤ c.entries.length := by
  obtain ⟨⟨hbalanced, hbounded⟩, hcapacity⟩ := run_sound capacity lifetime history
  refine ⟨hbalanced.distinct, ?_, hbounded, fun limit hlimit => ?_, fun key size => ?_⟩
  · rw [hbalanced.used, bytesOf]
    exact congrArg List.sum (List.map_congr_left hbalanced.sizes)
  · rcases hbounded with hwithin | hfew
    · exact .inl ((within_iff (hcapacity.trans hlimit)).mp hwithin)
    · exact .inr hfew
  · obtain ⟨hevicts, hlength⟩ := evicts_makeRoom
      ((run { capacity, lifetime } history).1.remove key) size
    refine ⟨_, _, _, rfl, hevicts, Nat.le_trans hlength ?_⟩
    rw [entries_remove]
    exact List.length_filter_le _ _

end Cache

end GhostEdit
