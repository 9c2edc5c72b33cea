import GhostEdit.Proofs.Cache.Holding
import GhostEdit.Proofs.Session.Provenance
import GhostEdit.Session.Sharing

/-!
# Which cache a session works with

A cache that holds an entry when it is handed to a session is the cache of that session: every
lookup reads it and every answer that is stored goes into it, whatever else happens to it through
other sessions. So what was stored through one session is served by another one that was handed the
same cache. A cache without entries is passed over, and the session never reads or writes it.

## Why nothing else can happen to a cache

An event of a session asks at most one operation of its cache (`Session.cache_handle`), and none of
any other. So the history of a cache is that of the operations asked of it, session by session
(`Sharing.object_run`), and what was stored is held for as long as that history spares it
(`Cache.Holds.run`). That a session refers to the same cache all along is a fact about every history
(`Sharing.extends_run`).

## Main definitions

* `Sharing.Turn`, `Sharing.step`, `Sharing.run`: histories of sessions that are built as they go
* `Sharing.asked`: the operations that a history asks of a cache
* `Sharing.Handed`: a session that was handed a cache, and what that held then
* `Session.Serves`: a request for a buffer is answered without the provider

## Main results

* `Sharing.object_run`: a cache after a history
* `Sharing.Handed.refers`: which session works with the cache it was handed
* `Sharing.Handed.started`: a request keeps the key it was started with
* `Sharing.handed_serves`
-/

namespace GhostEdit

namespace Session

variable {s : Session} {id key : String} {answer : Text}

/-! ## Serving a stored answer -/

/-- A session serves an answer for a buffer: a request is over without the provider, and comes to
the sets of the answer, whatever the provider would have said. -/
structure Serves (s : Session) (id : String) (answer : Text) : Prop where
  unasked : ∀ n messages, (s.begin id).2 ≠ .ok (.asked n messages)
  offers : ∃ b sets, s.buffers.get? id = some b ∧
    Answer.parse answer (b.lines.map Value.plain) = .ok sets ∧
    ∀ stream, Offers s id sets (s.round id stream)

/-- The request for which the provider has to be asked. -/
def Start.asked? : Start → Option Nat
  | .settled _ => none
  | .asked n _ => some n

/-- The stored answer is the one under the key of the buffer. -/
theorem stored?_of_key? (h : s.key? id = some key) : s.stored? id = s.retrieve? key := by
  rw [key?] at h
  rw [stored?]
  cases hpos : s.position id with
  | error _ =>
    rw [hpos] at h
    cases h
  | ok place =>
    obtain ⟨row, col, b⟩ := place
    rw [hpos] at h
    dsimp only at h ⊢
    cases hkey : Fingerprint.of row col b.lines with
    | error _ =>
      rw [hkey] at h
      cases h
    | ok _ =>
      rw [hkey] at h
      cases h
      rfl

/-- **An answer that is stored and can be read** is served. -/
theorem serves_of_stored? (hstored : s.stored? id = some answer) (hread : Answer.Readable answer)
    (hclock : s.now.value.isFinite = true) : s.Serves id answer := by
  obtain ⟨row, col, b, key, hpos, hkey, hfound⟩ := exists_of_stored? hstored
  obtain ⟨sets, hparse⟩ := hread.exists_parse (b.lines.map Value.plain)
  refine ⟨(begin_of_stored hstored hread).1, b, sets, (position_eq_ok hpos).1, hparse, ?_⟩
  exact hit_offers ⟨hpos, hkey, hparse⟩ hclock hfound

end Session

/-! ## Histories -/

namespace Sharing

/-- What can happen. -/
inductive Turn where
  /-- A session is built, and perhaps handed a cache. -/
  | build (s : Session) (hfresh : s.Fresh) (given : Option Nat)
  /-- Something happens to a session. -/
  | act (p : Nat) (e : Session.Event)

def step (w : Sharing) : Turn → Sharing
  | .build s _ given => w.build s given
  | .act p e => w.perform p (·.handle e)

def run (w : Sharing) (turns : List Turn) : Sharing := turns.foldl step w

variable {w w' : Sharing} {turns : List Turn} {p q n ref : Nat} {key id : String} {answer : Text}
  {expires : Seconds} {s : Session} {given : Option Nat} {f : Session → Session} {c : Cache}

theorem run_append (w : Sharing) (turns later : List Turn) :
    w.run (turns ++ later) = (w.run turns).run later :=
  List.foldl_append

theorem run_concat (w : Sharing) (turns : List Turn) (t : Turn) :
    w.run (turns ++ [t]) = (w.run turns).step t :=
  run_append w turns [t]

/-! ### Building -/

theorem run_build (w : Sharing) (hfresh : s.Fresh) (given : Option Nat) :
    w.run [.build s hfresh given] = w.build s given :=
  rfl

theorem members_build (w : Sharing) (s : Session) (given : Option Nat) :
    (w.build s given).members
      = w.members ++ [⟨s, (w.chosen? given).getD w.caches.length⟩] := by
  rw [build]
  split
  · next ref h =>
    show w.members ++ [⟨s, ref⟩] = _
    rw [h]
    rfl
  · next h =>
    show w.members ++ [⟨s, w.caches.length⟩] = _
    rw [h]
    rfl

theorem prefix_caches_build (w : Sharing) (s : Session) (given : Option Nat) :
    w.caches <+: (w.build s given).caches := by
  rw [build]
  split
  · exact List.prefix_rfl
  · exact List.prefix_append ..

theorem mem_caches_build (h : c ∈ (w.build s given).caches) :
    c ∈ w.caches ∨ c = Session.ownCache s.settings := by
  rw [build] at h
  split at h
  · exact .inl h
  · exact (List.mem_append.mp h).imp_right List.mem_singleton.mp

/-- A session that is built refers to the cache that was chosen for it, or to the next one. -/
theorem member_build_new (w : Sharing) (s : Session) (given : Option Nat) :
    (w.build s given).member w.members.length
      = ⟨s, (w.chosen? given).getD w.caches.length⟩ := by
  rw [member, members_build, List.getElem?_concat_length]
  rfl

theorem member_build_old (s : Session) (given : Option Nat) (hp : p < w.members.length) :
    (w.build s given).member p = w.member p := by
  rw [member, members_build, List.getElem?_append_left hp]
  rfl

theorem object_build (s : Session) (given : Option Nat) (href : ref < w.caches.length) :
    (w.build s given).object ref = w.object ref := by
  obtain ⟨added, hadded⟩ := prefix_caches_build w s given
  rw [object, ← hadded, List.getElem?_append_left href]
  rfl

/-! ### Performing -/

theorem perform_of_not_lt (hp : ¬ p < w.members.length) (f : Session → Session) :
    w.perform p f = w :=
  dif_neg hp

theorem members_perform (hp : p < w.members.length) (f : Session → Session) :
    (w.perform p f).members = w.members.set p ⟨f (w.session p), (w.member p).cache⟩ := by
  rw [perform, dif_pos hp]

theorem caches_perform (hp : p < w.members.length) (f : Session → Session) :
    (w.perform p f).caches = w.caches.set (w.member p).cache (f (w.session p)).cache := by
  rw [perform, dif_pos hp]

theorem length_members_perform (w : Sharing) (p : Nat) (f : Session → Session) :
    (w.perform p f).members.length = w.members.length := by
  by_cases hp : p < w.members.length
  · rw [members_perform hp, List.length_set]
  · rw [perform_of_not_lt hp]

theorem length_caches_perform (w : Sharing) (p : Nat) (f : Session → Session) :
    (w.perform p f).caches.length = w.caches.length := by
  by_cases hp : p < w.members.length
  · rw [caches_perform hp, List.length_set]
  · rw [perform_of_not_lt hp]

theorem member_perform_self (hp : p < w.members.length) (f : Session → Session) :
    (w.perform p f).member p = ⟨f (w.session p), (w.member p).cache⟩ := by
  rw [member, members_perform hp, List.getElem?_set_self hp]
  rfl

theorem member_perform_ne (hne : q ≠ p) (f : Session → Session) :
    (w.perform p f).member q = w.member q := by
  by_cases hp : p < w.members.length
  · rw [member, members_perform hp, List.getElem?_set_ne hne.symm]
    rfl
  · rw [perform_of_not_lt hp]

theorem cache_member_perform (w : Sharing) (p q : Nat) (f : Session → Session) :
    ((w.perform p f).member q).cache = (w.member q).cache := by
  by_cases hp : p < w.members.length
  · by_cases hne : q = p
    · rw [hne, member_perform_self hp]
    · rw [member_perform_ne hne]
  · rw [perform_of_not_lt hp]

theorem object_perform_self (hp : p < w.members.length) (f : Session → Session) :
    (w.perform p f).object (w.member p).cache = (f (w.session p)).cache := by
  rw [object, caches_perform hp, List.getElem?_set_self (made_member hp)]
  rfl

theorem object_perform_ne (hne : (w.member p).cache ≠ ref) (f : Session → Session) :
    (w.perform p f).object ref = w.object ref := by
  by_cases hp : p < w.members.length
  · rw [object, caches_perform hp, List.getElem?_set_ne hne]
    rfl
  · rw [perform_of_not_lt hp]

/-! ### What stays -/

/-- What a later state keeps: sessions and caches stay, and a session refers to the cache that it
referred to before. -/
structure Extends (w w' : Sharing) : Prop where
  caches : w.caches.length ≤ w'.caches.length
  members : w.members.length ≤ w'.members.length
  refers : ∀ p < w.members.length, (w'.member p).cache = (w.member p).cache

theorem Extends.refl (w : Sharing) : w.Extends w := ⟨Nat.le_refl _, Nat.le_refl _, fun _ _ => rfl⟩

theorem Extends.trans {w'' : Sharing} (h : w.Extends w') (h' : w'.Extends w'') : w.Extends w'' :=
  ⟨h.caches.trans h'.caches, h.members.trans h'.members, fun p hp =>
    (h'.refers p (Nat.lt_of_lt_of_le hp h.members)).trans (h.refers p hp)⟩

theorem extends_step (w : Sharing) (t : Turn) : w.Extends (w.step t) := by
  cases t with
  | build s hfresh given =>
    refine ⟨(prefix_caches_build w s given).length_le, ?_, fun p hp => ?_⟩
    · show _ ≤ (w.build s given).members.length
      rw [members_build, List.length_append]
      exact Nat.le_add_right ..
    · exact congrArg Member.cache (member_build_old s given hp)
  | act p e =>
    exact ⟨(length_caches_perform w p _).ge, (length_members_perform w p _).ge,
      fun q _ => cache_member_perform w p q _⟩

/-- **A session refers to the same cache** all along. -/
theorem extends_run (w : Sharing) (turns : List Turn) : w.Extends (w.run turns) := by
  induction turns generalizing w with
  | nil => exact .refl w
  | cons t rest ih => exact (extends_step w t).trans (ih (w.step t))

/-! ## The history of a cache -/

/-- What is asked of a cache. -/
def Turn.asks? (w : Sharing) (ref : Nat) : Turn → Option Cache.Op
  | .build _ _ _ => none
  | .act p e =>
    if p < w.members.length ∧ (w.member p).cache = ref then e.asks? (w.session p) else none

/-- The operations that a history asks of a cache, each with what the clock shows then. -/
def asked (ref : Nat) : Sharing → List Turn → List (Seconds × Cache.Op)
  | _, [] => []
  | w, t :: rest => ((t.asks? w ref).map fun op => (w.now, op)).toList ++ asked ref (w.step t) rest

theorem object_step (href : ref < w.caches.length) (t : Turn) :
    (w.step t).object ref = (w.object ref).after w.now (t.asks? w ref) := by
  cases t with
  | build s hfresh given => exact object_build s given href
  | act p e =>
    rw [Turn.asks?]
    split
    · next h =>
      obtain ⟨hp, rfl⟩ := h
      exact (object_perform_self hp _).trans ((w.session p).cache_handle e)
    · next h =>
      by_cases hp : p < w.members.length
      · exact object_perform_ne (fun heq => h ⟨hp, heq⟩) _
      · show (w.perform p _).object ref = _
        rw [perform_of_not_lt hp]
        rfl

/-- **A cache after a history** is what the operations asked of it make of it. -/
theorem object_run (href : ref < w.caches.length) (turns : List Turn) :
    (w.run turns).object ref = ((w.object ref).run (asked ref w turns)).1 := by
  induction turns generalizing w with
  | nil => rfl
  | cons t rest ih =>
    rw [asked]
    refine (ih (Nat.lt_of_lt_of_le href (extends_step w t).caches)).trans ?_
    rw [object_step href]
    cases t.asks? w ref <;> rfl

/-- The books of every cache are in order. -/
def Sound (w : Sharing) : Prop := ∀ c ∈ w.caches, c.Sound

theorem Sound.object (h : w.Sound) (href : ref < w.caches.length) : (w.object ref).Sound := by
  rw [Sharing.object, List.getElem?_eq_getElem href]
  exact h _ (List.getElem_mem href)

theorem sound_ownCache (settings : Settings) : (Session.ownCache settings).Sound :=
  (Cache.run_sound _ _ []).1

theorem Sound.step (h : w.Sound) (t : Turn) : (w.step t).Sound := by
  intro c hc
  cases t with
  | build s hfresh given =>
    rcases mem_caches_build hc with hc | rfl
    · exact h c hc
    · exact sound_ownCache _
  | act p e =>
    obtain ⟨ref, href, rfl⟩ := List.mem_iff_getElem.mp hc
    have hlt : ref < w.caches.length := length_caches_perform w p _ ▸ href
    have hobject : (w.step (.act p e)).caches[ref] = (w.step (.act p e)).object ref := by
      rw [Sharing.object, List.getElem?_eq_getElem href]
      rfl
    rw [hobject, object_step hlt]
    cases Turn.asks? w ref (.act p e) with
    | none => exact h.object hlt
    | some op => exact (h.object hlt).act w.now op

theorem Sound.run (h : w.Sound) (turns : List Turn) : (w.run turns).Sound := by
  induction turns generalizing w with
  | nil => exact h
  | cons t rest ih => exact ih (h.step t)

/-! ## Sessions that were handed a cache -/

/-- A history in which a session was built and handed a cache, which was `c` then. -/
inductive Handed (w : Sharing) (p ref : Nat) (c : Cache) : List Turn → Prop
  | intro {before later : List Turn} {s : Session} {hfresh : s.Fresh}
      (hp : (w.run before).members.length = p) (hc : (w.run before).caches[ref]? = some c) :
      Handed w p ref c (before ++ .build s hfresh (some ref) :: later)

theorem run_append_cons (w : Sharing) (before : List Turn) (t : Turn) (later : List Turn) :
    w.run (before ++ t :: later) = ((w.run before).step t).run later :=
  run_append w before (t :: later)

/-- The session that was built is there, and so is the cache. -/
theorem lt_length_build (s : Session) (given : Option Nat) (hp : w.members.length = p)
    (hc : w.caches[ref]? = some c) :
    p < (w.build s given).members.length ∧ ref < (w.build s given).caches.length := by
  have href := (List.getElem?_eq_some_iff.mp hc).1
  rw [members_build, List.length_append, ← hp]
  exact ⟨Nat.lt_succ_self _, Nat.lt_of_lt_of_le href (prefix_caches_build w s given).length_le⟩

/-- The session and the cache are there from then on. -/
theorem Handed.lt (h : w.Handed p ref c turns) :
    p < (w.run turns).members.length ∧ ref < (w.run turns).caches.length := by
  cases h with
  | @intro before later s hfresh hp hc =>
    obtain ⟨hlt, href⟩ := lt_length_build s (some ref) hp hc
    have hextends := extends_run ((w.run before).build s (some ref)) later
    rw [run_append_cons]
    exact ⟨Nat.lt_of_lt_of_le hlt hextends.members, Nat.lt_of_lt_of_le href hextends.caches⟩

/-- The cache that is given is chosen if it holds an entry. -/
theorem chosen?_some (hc : w.caches[ref]? = some c) :
    w.chosen? (some ref) = if c.entries = [] then none else some ref := by
  rw [chosen?, Option.filter_some, hc]
  cases hentries : c.entries <;> simp [hentries]

/-- **A session works with the cache it was handed** exactly if that held an entry then. -/
theorem Handed.refers (h : w.Handed p ref c turns) :
    ((w.run turns).member p).cache = ref ↔ c.entries ≠ [] := by
  cases h with
  | @intro before later s hfresh hp hc =>
    have href := (List.getElem?_eq_some_iff.mp hc).1
    have hlt := (lt_length_build s (some ref) hp hc).1
    have hrun : w.run (before ++ .build s hfresh (some ref) :: later)
        = ((w.run before).build s (some ref)).run later := run_append_cons ..
    rw [hrun, (extends_run _ later).refers p hlt, ← hp, member_build_new, chosen?_some hc]
    split
    · next hempty =>
      -- a cache of its own, which comes after the one that was handed over
      exact iff_of_false href.ne' (not_not_intro hempty)
    · next hheld => exact iff_of_true rfl hheld

/-- A history in which a request of a session was started, by number, buffer and key. -/
inductive Started (w : Sharing) (p : Nat) : List Turn → Nat × String × String → Prop
  | intro {before later : List Turn} {start : Session.Event} {id key : String}
      (hstart : start.started? ((w.run before).session p) = some id)
      (hkey : ((w.run before).session p).key? id = some key) :
      Started w p (before ++ .act p start :: later)
        (((w.run before).session p).lastRequest + 1, id, key)

theorem Started.concat {label : Nat × String × String} (h : w.Started p turns label) (t : Turn) :
    w.Started p (turns ++ [t]) label := by
  cases h with
  | intro hstart hkey =>
    rw [List.append_assoc]
    exact .intro hstart hkey

/-- What happens to one session leaves the requests of another. -/
theorem labels_step {t : Turn} (hp : p < w.members.length) {label : Nat × String × String}
    (hlabel : label ∈ ((w.step t).session p).labels) : label ∈ (w.session p).labels ∨
      ∃ e, t = .act p e ∧ label ∈ ((w.session p).handle e).labels := by
  have hlabel : label ∈ ((w.step t).member p).session.labels := hlabel
  cases t with
  | build s hfresh given =>
    have hmember : (w.step (.build s hfresh given)).member p = w.member p :=
      member_build_old s given hp
    rw [hmember] at hlabel
    exact .inl hlabel
  | act q e =>
    have hlabel : label ∈ ((w.perform q (·.handle e)).member p).session.labels := hlabel
    by_cases heq : p = q
    · subst heq
      rw [member_perform_self hp] at hlabel
      exact .inr ⟨e, rfl, hlabel⟩
    · rw [member_perform_ne heq] at hlabel
      exact .inl hlabel

/-- **A request keeps the key it was started with**, whatever the other sessions do. -/
theorem Handed.started (h : w.Handed p ref c turns) :
    ∀ label ∈ ((w.run turns).session p).labels, w.Started p turns label := by
  cases h with
  | @intro before later s hfresh hp hc =>
    induction later using List.reverseRecOn with
    | nil =>
      intro label hlabel
      rw [run_concat] at hlabel
      have hlabel : label ∈ (((w.run before).build s (some ref)).member p).session.labels := hlabel
      rw [← hp, member_build_new] at hlabel
      obtain ⟨r, hr, _⟩ := List.mem_map.mp hlabel
      have hr : r ∈ s.requests := hr
      rw [hfresh.requests] at hr
      cases hr
    | append_singleton later t ih =>
      intro label hlabel
      have hhanded : w.Handed p ref c (before ++ .build s hfresh (some ref) :: later) :=
        .intro hp hc
      rw [← List.cons_append, ← List.append_assoc] at hlabel ⊢
      rw [run_concat] at hlabel
      rcases labels_step hhanded.lt.1 hlabel with hmem | ⟨e, rfl, hmem⟩
      · exact (ih label hmem).concat t
      · rcases Session.handle_labels _ e hmem with hmem | ⟨id, key, hstart, hkey, rfl⟩
        · exact (ih label hmem).concat _
        · exact .intro hstart hkey

/-! ## Serving what another session stored -/

/-- A request of a session finishes now, and its answer is stored in the cache of the session under
a key, until a time. -/
structure Stores (w : Sharing) (p n : Nat) (key : String) (answer : Text) (expires : Seconds) :
    Prop where
  asks : (Session.Event.finish n).asks? (w.session p) = some (.store key (.str answer))
  stored : ((w.session p).cache.storeText key answer w.now).2.1 = .ok ()
  expires : w.now.later (w.session p).cache.lifetime = .ok expires

/-- The newest request of a buffer that exists stores its answer, if there is room for it. -/
theorem stores_of_request {r : Request} (hr : (w.session p).request? n = some r)
    (hcurrent : (w.session p).isCurrent r.buffer n = true)
    (hb : ((w.session p).buffers.get? r.buffer).isSome = true)
    (hread : Answer.Readable r.answer) (hwritable : (w.session p).unwritable = none)
    (hstored : ((w.session p).cache.storeText r.key r.answer w.now).2.1 = .ok ())
    (hexpires : w.now.later (w.session p).cache.lifetime = .ok expires) :
    w.Stores p n r.key r.answer expires :=
  ⟨Session.Event.asks?_finish hr hcurrent hb hread hwritable, hstored, hexpires⟩

/-- What is stored is held. -/
theorem Stores.holds (h : w.Stores p n key answer expires) (hp : p < w.members.length) :
    ((w.step (.act p (.finish n))).object (w.member p).cache).Holds key answer expires := by
  obtain ⟨_, hexpires, hholds⟩ := Cache.holds_storeText h.stored
  obtain rfl := Except.ok.inj (h.expires.symm.trans hexpires)
  rw [object_step (made_member hp), Turn.asks?, if_pos ⟨hp, rfl⟩, h.asks]
  exact hholds

/-- What is stored can be read, and is that of a request that runs. -/
theorem Stores.label (h : w.Stores p n key answer expires) :
    Answer.Readable answer ∧ ∃ id, (n, id, key) ∈ (w.session p).labels := by
  rcases Session.Event.asks?_cases h.asks with ⟨_, heq⟩ | ⟨key', answer', heq, hstores⟩
  · cases heq
  · cases heq
    obtain ⟨r, hr, _, rfl, rfl, hread⟩ := hstores
    have hn : r.id = n := by simpa using List.find?_some hr
    exact ⟨hread, r.buffer, hn ▸ List.mem_map_of_mem (List.mem_of_find?_eq_some hr)⟩

/-- A session in whose cache an answer is held serves it. -/
theorem serves_of_holds (hbooks : (w.session q).cache.Sound)
    (hholds : (w.session q).cache.Holds key answer expires) (hnow : ¬ expires ≤ w.now)
    (hclock : w.now.value.isFinite = true) (hreadable : (w.session q).unreadable = none)
    (hkey : (w.session q).key? id = some key) (hread : Answer.Readable answer) :
    (w.session q).Serves id answer := by
  refine Session.serves_of_stored? ?_ hread hclock
  rw [Session.stored?_of_key? hkey, Session.retrieve?, hreadable]
  exact hholds.lookup hbooks.balanced hnow

/-- **What is stored is served** by every session that works with the same cache, for as long as
what is asked of the cache spares it. -/
theorem Stores.serves {u : Sharing} {later : List Turn} (hsound : w.Sound)
    (hp : p < w.members.length) (h : w.Stores p n key answer expires)
    (hu : u = (w.step (.act p (.finish n))).run later)
    (hsame : (u.member q).cache = (w.member p).cache)
    (hspares : ((w.step (.act p (.finish n))).object (w.member p).cache).Spares key expires
      (asked (w.member p).cache (w.step (.act p (.finish n))) later))
    (hnow : ¬ expires ≤ u.now) (hclock : u.now.value.isFinite = true)
    (hreadable : (u.session q).unreadable = none) (hkey : (u.session q).key? id = some key) :
    (u.session q).Serves id answer := by
  have href : (w.member p).cache < (w.step (.act p (.finish n))).caches.length :=
    Nat.lt_of_lt_of_le (made_member hp) (extends_step w _).caches
  have hstored := (hsound.step (.act p (.finish n))).object href
  have hcache : (u.session q).cache = (((w.step (.act p (.finish n))).object (w.member p).cache).run
      (asked (w.member p).cache (w.step (.act p (.finish n))) later)).1 := by
    rw [← object_run href, ← hu, ← hsame]
    rfl
  refine serves_of_holds ?_ ?_ hnow hclock hreadable hkey h.label.1
  · rw [hcache]
    exact Cache.run_induction hstored (fun _ now op h => h.act now op) _
  · rw [hcache]
    exact (h.holds hp).run hstored hspares

/-- **A cache is the cache of the sessions it is handed to, if it holds an entry then**, and of those
only. A session that is handed a cache without entries never does anything to it. One that is handed
a cache with an entry works with it after every later history: each of its events does to the cache
what it asks of its own, and no more. A request that finishes has kept the key of the buffer it was
started for; and if its answer is stored, the answer is served by every session that was handed the
cache and works with it, without the provider, for every buffer with that key, until the lifetime is
over or the history gives the answer up: to make room, or for another that is stored under the
key. -/
theorem handed_serves (hsound : w.Sound) (hp : w.Handed p ref c turns) :
    let v := w.run turns
    ((v.member p).cache = ref ↔ c.entries ≠ []) ∧
      (c.entries = [] → ∀ e, (v.step (.act p e)).object ref = v.object ref) ∧
      (c.entries ≠ [] →
        (v.session p).cache = v.object ref ∧
        (∀ e, (v.step (.act p e)).object ref
          = (v.object ref).after v.now (e.asks? (v.session p))) ∧
        ∀ n key answer expires, v.Stores p n key answer expires →
          (∃ id, w.Started p turns (n, id, key)) ∧
          ∀ later q id c',
            let stored := v.step (.act p (.finish n))
            let u := stored.run later
            w.Handed q ref c' (turns ++ .act p (.finish n) :: later) → c'.entries ≠ [] →
            (stored.object ref).Spares key expires (asked ref stored later) →
            ¬ expires ≤ u.now → u.now.value.isFinite = true →
            (u.session q).unreadable = none → (u.session q).key? id = some key →
            (u.session q).Serves id answer) := by
  intro v
  obtain ⟨hlt, href⟩ := hp.lt
  refine ⟨hp.refers, fun hempty e => ?_, fun hheld => ?_⟩
  · have hother : (v.member p).cache ≠ ref := fun heq => hp.refers.mp heq hempty
    exact object_perform_ne hother _
  · have hown : (v.member p).cache = ref := hp.refers.mpr hheld
    refine ⟨congrArg v.object hown, fun e => ?_, fun n key answer expires hstores => ⟨?_, ?_⟩⟩
    · rw [object_step href, Turn.asks?, if_pos ⟨hlt, hown⟩]
    · obtain ⟨_, id, hlabel⟩ := hstores.label
      exact ⟨id, hp.started _ hlabel⟩
    · intro later q id c' stored u hq hheld' hspares hnow hclock hreadable hkey
      have hrefers : (u.member q).cache = (v.member p).cache := by
        rw [hown, ← hq.refers.mpr hheld', run_append]
        rfl
      rw [← hown] at hspares
      exact hstores.serves (hsound.run turns) hlt rfl hrefers hspares hnow hclock hreadable hkey

/-- A cache with an entry that no session stored. -/
def stocked : Cache :=
  (Cache.storeText { capacity := .int 1000, lifetime := .int 300 } "old" ['x'] .zero).1

theorem sound_stocked : (opening [stocked] .zero).Sound := by
  have hempty : ({ capacity := .int 1000, lifetime := .int 300 } : Cache).Sound :=
    (Cache.run_sound (.int 1000) (.int 300) []).1
  intro c hc
  rw [List.mem_singleton.mp hc]
  exact hempty.storeText "old" ['x'] .zero

/-- Two sessions are built and handed the first cache, and the first session has heard an answer. -/
def readied : List Turn :=
  [.build (.desk .listing) (Session.fresh_desk .listing) (some 0),
    .build (.desk .listing) (Session.fresh_desk .listing) (some 0), .act 0 (.suggest "notes"),
    .act 0 (.deliver 1 Answer.sample)]

/-- The second session stores an answer about another row, and goes back to the first. -/
def abroad : List Turn :=
  [.act 1 (.write "notes" { lines := [['a'], ['b']].map Value.str, cursor := .at 2 0 }),
    .act 1 (.suggest "notes"), .act 1 (.deliver 1 Answer.sample), .act 1 (.finish 1),
    .act 1 (.write "notes" { lines := [['a'], ['b']].map Value.str, cursor := .at 1 1 })]

/-- The key of the document with the cursor where the first session asked. -/
def deskKey : String := ((Session.desk .listing).key? "notes").getD ""

/-- Nothing is built before the first session, and only that before the second. -/
theorem handed_readied : (opening [stocked] .zero).Handed 0 0 stocked readied ∧
    (opening [stocked] .zero).Handed 1 0 stocked (readied ++ .act 0 (.finish 1) :: abroad) := by
  have hfirst : ∀ later, (opening [stocked] .zero).Handed 0 0 stocked
      ([] ++ .build _ (Session.fresh_desk .listing) (some 0) :: later) := fun _ => .intro rfl rfl
  have hsecond : ∀ later, (opening [stocked] .zero).Handed 1 0 stocked
      ([.build _ (Session.fresh_desk .listing) (some 0)] ++
        .build _ (Session.fresh_desk .listing) (some 0) :: later) := by
    refine fun _ => .intro ?_ ?_
    · rw [run_build, members_build, List.length_append]
      rfl
    · obtain ⟨added, hadded⟩ :=
        prefix_caches_build (opening [stocked] .zero) (.desk .listing) (some 0)
      rw [run_build, ← hadded]
      rfl
  exact ⟨hfirst _, hsecond _⟩

/-- The request of the first session, when it has heard its answer. -/
def heard : Request :=
  { id := 1, buffer := "notes", started := .zero, key := deskKey, parts := [Answer.sample] }

theorem stores_heard (h : (w.session 0).request? 1 = some heard ∧
      (w.session 0).isCurrent "notes" 1 = true ∧
      ((w.session 0).buffers.get? "notes").isSome = true ∧ Answer.Readable heard.answer ∧
      (w.session 0).unwritable = none ∧
      ((w.session 0).cache.storeText deskKey heard.answer w.now).2.1.toOption = some () ∧
      (w.now.later (w.session 0).cache.lifetime).toOption = some (.ofInt 300)) :
    w.Stores 0 1 deskKey heard.answer (.ofInt 300) := by
  obtain ⟨hr, hcurrent, hb, hread, hwritable, hstored, hexpires⟩ := h
  exact stores_of_request hr hcurrent hb hread hwritable (Answer.eq_ok_of_toOption hstored)
    (Answer.eq_ok_of_toOption hexpires)

/-- The second session is served what the first one stored, after it stored an answer of its own. -/
theorem stocked_serves :
    let v := (opening [stocked] .zero).run readied
    let u := (v.step (.act 0 (.finish 1))).run abroad
    (opening [stocked] .zero).Handed 0 0 stocked readied ∧
      (opening [stocked] .zero).Handed 1 0 stocked (readied ++ .act 0 (.finish 1) :: abroad) ∧
      v.Stores 0 1 deskKey heard.answer (.ofInt 300) ∧
      (u.session 1).Serves "notes" Answer.sample := by
  obtain ⟨hfirst, hsecond⟩ := handed_readied
  have hheld : stocked.entries ≠ [] := by decide +kernel
  have hstores : ((opening [stocked] .zero).run readied).Stores 0 1 deskKey heard.answer
      (.ofInt 300) :=
    stores_heard (by decide +kernel)
  obtain ⟨hearly, hunreplaced, hkept, hnow, hclock, hreadable, hkey⟩ :
      let stored := ((opening [stocked] .zero).run readied).step (.act 0 (.finish 1))
      let u := stored.run abroad
      (∀ reading ∈ asked 0 stored abroad, ¬ .ofInt 300 ≤ reading.1) ∧
        (∀ reading ∈ asked 0 stored abroad, reading.2.storedKey? ≠ some deskKey) ∧
        deskKey ∉ (stored.object 0).dropped (asked 0 stored abroad) ∧ ¬ .ofInt 300 ≤ u.now ∧
        u.now.value.isFinite = true ∧ (u.session 1).unreadable = none ∧
        (u.session 1).key? "notes" = some deskKey := by decide +kernel
  have hserves := (((handed_serves sound_stocked hfirst).2.2 hheld).2.2 1 deskKey heard.answer _
    hstores).2 abroad 1 "notes" stocked hsecond hheld ⟨hearly, hunreplaced, hkept⟩ hnow hclock
    hreadable hkey
  rw [heard, Request.answer, List.flatten_singleton] at hserves
  exact ⟨hfirst, hsecond, hstores, hserves⟩

/-- **A cache without entries is passed over.** Handed to two sessions, it stays empty when the
first of them has taken over an answer, and the second one asks the provider for the same. -/
theorem unstocked_asks :
    let t := ((opening [Session.ownCache default] .zero).run readied).step (.act 0 (.finish 1))
    (t.session 0).phase "notes" = .ready ∧ (t.object 0).entries = [] ∧
      (t.member 0).cache = 1 ∧ (t.member 1).cache = 2 ∧
      (t.session 1).key? "notes" = some deskKey ∧
      ((t.session 1).begin "notes").2.toOption.bind Session.Start.asked? = some 1 := by
  decide +kernel

end Sharing

end GhostEdit
