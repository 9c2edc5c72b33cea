import GhostEdit.Session.Basic

/-!
# Sessions that share a cache

A cache is an object: it can be handed to several sessions, which then read and write the same one,
so that what one of them stored is there for the others. The objects stand in a list, and a session
refers to its cache by the place of that in the list, from when it is built and for good. What an
operation of a session finds as its cache is the object, and what it leaves is put back there
(`Sharing.perform`).

Which object that is, is decided when the session is built, by whether the cache it is given counts
as true. A cache has a length, the number of its entries, so one without entries counts as false and
is passed over for a new one, exactly as if none had been given (`Sharing.chosen?`).

All sessions and caches read one clock.

## Main definitions

* `Member`, `Sharing`: sessions and the caches they refer to
* `Sharing.session`: a session with the cache it refers to in place
* `Sharing.build`: a new session
* `Sharing.perform`: an operation of a session
-/

namespace GhostEdit

/-- A session, and which cache it works with. The cache in the session itself is the one that its
last operation left, and counts for nothing. -/
structure Member where
  session : Session
  cache : Nat
deriving Inhabited

/-- Sessions, and the caches they work with. -/
structure Sharing where
  /-- The caches that were made, oldest first. -/
  caches : List Cache
  /-- What the clock shows. -/
  now : Seconds
  /-- The sessions that were built, oldest first. -/
  members : List Member
  /-- A session works with a cache that was made. -/
  made : ∀ m ∈ members, m.cache < caches.length

namespace Sharing

/-- Caches before any session is built. -/
def opening (caches : List Cache) (now : Seconds) : Sharing :=
  { caches, now, members := [], made := fun _ h => absurd h List.not_mem_nil }

/-- The session with a number, and which cache it works with. -/
def member (w : Sharing) (p : Nat) : Member := w.members[p]?.getD default

/-- The cache at a place. -/
def object (w : Sharing) (ref : Nat) : Cache := w.caches[ref]?.getD default

theorem made_member {w : Sharing} {p : Nat} (hp : p < w.members.length) :
    (w.member p).cache < w.caches.length := by
  rw [member, List.getElem?_eq_getElem hp]
  exact w.made _ (List.getElem_mem hp)

/-- The session with a number, as its operations find it. -/
def session (w : Sharing) (p : Nat) : Session :=
  { (w.member p).session with now := w.now, cache := w.object (w.member p).cache }

/-- The cache a new session works with, of those that there are: the one it is given, if that holds
an entry. -/
def chosen? (w : Sharing) (given : Option Nat) : Option Nat :=
  given.filter fun ref => w.caches[ref]?.any fun c => !c.entries.isEmpty

theorem lt_of_chosen? {w : Sharing} {given : Option Nat} {ref : Nat}
    (h : w.chosen? given = some ref) : ref < w.caches.length := by
  obtain ⟨_, hany⟩ := Option.filter_eq_some_iff.mp h
  obtain ⟨c, hc, _⟩ := (Option.any_eq_true _ _).mp hany
  exact (List.getElem?_eq_some_iff.mp hc).1

/-- Build a session. It gets the next number, and works with the cache it is given, if that holds an
entry, and else with a new one. -/
def build (w : Sharing) (s : Session) (given : Option Nat) : Sharing :=
  match h : w.chosen? given with
  | some ref =>
    { w with
      members := w.members ++ [⟨s, ref⟩]
      made := List.forall_mem_append.mpr
        ⟨w.made, List.forall_mem_singleton.mpr (lt_of_chosen? h)⟩ }
  | none =>
    { w with
      caches := w.caches ++ [Session.ownCache s.settings]
      members := w.members ++ [⟨s, w.caches.length⟩]
      made := by
        rw [List.length_append]
        exact List.forall_mem_append.mpr
          ⟨fun m hm => Nat.lt_add_right 1 (w.made m hm),
            List.forall_mem_singleton.mpr (Nat.lt_succ_self _)⟩ }

/-- Do something with a session. What becomes of its cache becomes of the object. -/
def perform (w : Sharing) (p : Nat) (f : Session → Session) : Sharing :=
  if hp : p < w.members.length then
    let s := f (w.session p)
    let ref := (w.member p).cache
    { caches := w.caches.set ref s.cache
      now := s.now
      members := w.members.set p ⟨s, ref⟩
      made := by
        intro m hm
        rw [List.length_set]
        rcases List.mem_or_eq_of_mem_set hm with hm | rfl
        · exact w.made m hm
        · exact made_member hp }
  else w

end Sharing

end GhostEdit
