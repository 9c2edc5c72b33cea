import Mathlib.Data.List.Nodup
import GhostEdit.Proofs.Debounce
import GhostEdit.Proofs.Session.Dismissal

/-!
# Whose a timer is, and whose a request

Timers and requests go by numbers, and the numbers of all buffers come from one counter each. A
controller that cancels its timer knows the number and nothing else, and so does a provider that
delivers a piece of an answer. An event about one buffer therefore keeps away from the work for the
others only as long as no number stands for two things, and this file shows that none ever does.

The host does not matter for it. Where a host fails to cancel a timer, that timer runs on beside the
next one of its buffer, but it keeps its number, and its controller has forgotten it.

## Main definitions

* `Timers.Owned`: numbers of timers stand for one timer, and controllers wait for their own
* `Session.Work.Issued`: numbers of requests stand for one request
* `Session.Part`, `Session.Work.part`: what waits for one buffer

## Main results

* `Session.owned_run`: no number stands for two things
* `Session.Does.part`: an event leaves alone what waits for other buffers
-/

namespace GhostEdit

/-! ## Timers -/

namespace Debounce

/-- **What cancelling can do**: the timer that the controller knows is taken out, or none is. -/
theorem cancel_cases (d : Debounce) (ts : Timers) :
    (d.cancel ts).2.1 = ts ∨ ∃ n, d.timer = some n ∧ (d.cancel ts).2.1 = ts.without n := by
  rw [cancel]
  split
  · exact .inl rfl
  · next n hn =>
    dsimp only
    rw [Timers.cancel]
    split
    · exact .inl rfl
    · exact .inr ⟨n, hn, rfl⟩

/-- **What a signal can do** after it cancelled: a timer with a new number is started, which the
controller then knows, or none is. -/
theorem signal_cases (d : Debounce) (ts : Timers) (owner : String) (cursor : Cursor) :
    (d.signal ts owner cursor).1.timer = none ∧
        (d.signal ts owner cursor).2.1 = (d.cancel ts).2.1 ∨
      ∃ delay, (d.signal ts owner cursor).1.timer = some (d.cancel ts).2.1.next ∧
        (d.signal ts owner cursor).2.1 = { (d.cancel ts).2.1 with
          next := (d.cancel ts).2.1.next + 1
          live := (d.cancel ts).2.1.live ++ [⟨(d.cancel ts).2.1.next, owner, delay⟩] } := by
  have htimer := d.cancel_timer ts
  rw [signal]
  dsimp only
  split
  · exact .inl ⟨htimer, rfl⟩
  · next delay _ =>
    rw [Timers.start]
    split
    · exact .inr ⟨delay, rfl, rfl⟩
    · exact .inr ⟨delay, rfl, rfl⟩
    · exact .inr ⟨delay, rfl, rfl⟩
    · exact .inl ⟨rfl, rfl⟩
    · exact .inl ⟨rfl, rfl⟩
    · exact .inl ⟨rfl, rfl⟩

end Debounce

namespace Timers

/-- No two timers have one number, no number is still to be given, and a controller that waits for
a number waits for a timer of its own buffer, if that still runs. -/
structure Owned (ts : Timers) (controllers : Registry Debounce) : Prop where
  distinct : (ts.live.map Timer.id).Nodup
  issued : ∀ t ∈ ts.live, t.id < ts.next
  awaited : ∀ id d n, controllers.lookup id = some d → d.timer = some n →
    n < ts.next ∧ ∀ t ∈ ts.live, t.id = n → t.owner = id

/-- The timers of a buffer. -/
def of (ts : Timers) (id : String) : List Timer := ts.live.filter (·.owner = id)

variable {ts : Timers} {controllers : Registry Debounce} {id other : String} {d : Debounce}

namespace Owned

theorem sublist (h : ts.Owned controllers) {live : List Timer} (hlive : live.Sublist ts.live) :
    ({ ts with live } : Timers).Owned controllers := by
  refine ⟨h.distinct.sublist (hlive.map Timer.id), fun t ht => h.issued t (hlive.subset ht), ?_⟩
  intro id d n hd hn
  obtain ⟨hlt, howner⟩ := h.awaited id d n hd hn
  exact ⟨hlt, fun t ht => howner t (hlive.subset ht)⟩

theorem put (h : ts.Owned controllers)
    (hd : ∀ n, d.timer = some n → n < ts.next ∧ ∀ t ∈ ts.live, t.id = n → t.owner = id) :
    ts.Owned (controllers.put id d) := by
  refine ⟨h.distinct, h.issued, fun other d' n hd' hn => ?_⟩
  rw [Registry.lookup_put] at hd'
  split at hd'
  · next heq =>
    cases hd'
    rw [heq]
    exact hd n hn
  · exact h.awaited other d' n hd' hn

/-- A controller that waits for nothing may take the place of another. -/
theorem put_of_none (h : ts.Owned controllers) (hd : d.timer = none) (id : String) :
    ts.Owned (controllers.put id d) := by
  refine h.put fun n hn => ?_
  rw [hd] at hn
  cases hn

theorem erase (h : ts.Owned controllers) (id : String) : ts.Owned (controllers.erase id) := by
  refine ⟨h.distinct, h.issued, fun other d n hd hn => ?_⟩
  rw [Registry.lookup_erase] at hd
  split at hd
  · cases hd
  · exact h.awaited other d n hd hn

/-- A timer with a new number. -/
theorem start (h : ts.Owned controllers) (owner : String) (delay : Seconds) :
    ({ ts with next := ts.next + 1, live := ts.live ++ [⟨ts.next, owner, delay⟩] } : Timers).Owned
      controllers := by
  refine ⟨?_, fun t ht => ?_, fun id d n hd hn => ?_⟩
  · rw [List.map_append, List.nodup_append]
    refine ⟨h.distinct, List.nodup_singleton _, fun n hn m hm => ?_⟩
    obtain ⟨t, ht, rfl⟩ := List.mem_map.mp hn
    rw [List.map_singleton, List.mem_singleton] at hm
    rw [hm]
    exact Nat.ne_of_lt (h.issued t ht)
  · rcases List.mem_append.mp ht with ht | ht
    · exact Nat.lt_succ_of_lt (h.issued t ht)
    · rw [List.mem_singleton.mp ht]
      exact Nat.lt_succ_self _
  · obtain ⟨hlt, howner⟩ := h.awaited id d n hd hn
    refine ⟨Nat.lt_succ_of_lt hlt, fun t ht htn => ?_⟩
    rcases List.mem_append.mp ht with ht | ht
    · exact howner t ht htn
    · rw [List.mem_singleton.mp ht] at htn
      exact absurd htn (Nat.ne_of_gt hlt)

theorem cancel (h : ts.Owned controllers) (d : Debounce) :
    (d.cancel ts).2.1.Owned controllers := by
  rcases d.cancel_cases ts with heq | ⟨n, _, heq⟩
  · rw [heq]
    exact h
  · rw [heq]
    exact h.sublist List.filter_sublist

theorem signal (h : ts.Owned controllers) (d : Debounce) (id : String) (cursor : Cursor) :
    (d.signal ts id cursor).2.1.Owned (controllers.put id (d.signal ts id cursor).1) := by
  have hcancelled := h.cancel d
  rcases d.signal_cases ts id cursor with ⟨hnone, heq⟩ | ⟨delay, hsome, heq⟩
  · rw [heq]
    exact hcancelled.put_of_none hnone id
  · rw [heq]
    refine (hcancelled.start id delay).put fun n hn => ?_
    cases hsome.symm.trans hn
    refine ⟨Nat.lt_succ_self _, fun t ht htn => ?_⟩
    rcases List.mem_append.mp ht with ht | ht
    · exact absurd htn (Nat.ne_of_lt (hcancelled.issued t ht))
    · rw [List.mem_singleton.mp ht]

/-- A timer that runs is found by its number. -/
theorem find?_eq (h : ts.Owned controllers) {t : Timer} (ht : t ∈ ts.live) :
    ts.live.find? (·.id = t.id) = some t := by
  have hsome : (ts.live.find? (·.id = t.id)).isSome = true := by
    rw [List.find?_isSome]
    exact ⟨t, ht, by simp⟩
  obtain ⟨found, hfound⟩ := Option.isSome_iff_exists.mp hsome
  have hid : found.id = t.id := by simpa using List.find?_some hfound
  rw [hfound, List.inj_on_of_nodup_map h.distinct (List.mem_of_find?_eq_some hfound) ht hid]

/-- Timers of one number belong to one buffer. -/
theorem owner_eq (h : ts.Owned controllers) {t t' : Timer} (ht : t ∈ ts.live) (ht' : t' ∈ ts.live)
    (hid : t'.id = t.id) : t'.owner = t.owner := by
  rw [List.inj_on_of_nodup_map h.distinct ht' ht hid]

/-- Taking a number out takes out timers of one buffer only. -/
theorem of_without {n : Nat} (hn : ∀ t ∈ ts.live, t.id = n → t.owner = id) (hne : other ≠ id) :
    (ts.without n).of other = ts.of other := by
  rw [Timers.of, without, List.filter_filter, Timers.of]
  refine List.filter_congr fun t ht => ?_
  by_cases howner : t.owner = other
  · have hid : t.id ≠ n := fun heq => hne (howner.symm.trans (hn t ht heq))
    simp [howner, hid]
  · simp [howner]

/-- **Cancelling** leaves the timers of other buffers alone. -/
theorem of_cancel (h : ts.Owned controllers)
    (hd : controllers.lookup id = some d ∨ d.timer = none) (hne : other ≠ id) :
    (d.cancel ts).2.1.of other = ts.of other := by
  rcases d.cancel_cases ts with heq | ⟨n, hn, heq⟩
  · rw [heq]
  · rw [heq]
    rcases hd with hd | hnone
    · exact of_without (h.awaited id d n hd hn).2 hne
    · rw [hnone] at hn
      cases hn

/-- **A signal** leaves the timers of other buffers alone. -/
theorem of_signal (h : ts.Owned controllers)
    (hd : controllers.lookup id = some d ∨ d.timer = none) (cursor : Cursor) (hne : other ≠ id) :
    (d.signal ts id cursor).2.1.of other = ts.of other := by
  rw [← h.of_cancel hd hne]
  rcases d.signal_cases ts id cursor with ⟨_, heq⟩ | ⟨delay, _, heq⟩
  · rw [heq]
  · rw [heq, Timers.of, List.filter_append]
    have hnil : List.filter (·.owner = other)
        [(⟨(d.cancel ts).2.1.next, id, delay⟩ : Timer)] = [] := by
      simpa using hne.symm
    rw [hnil, List.append_nil]
    rfl

end Owned

end Timers

namespace Session

variable {s : Session} {e : Event} {w : Work} {id other : String}

/-! ## The work for one buffer -/

/-- Numbers of requests stand for one request each. -/
structure Work.Issued (w : Work) : Prop where
  distinct : (w.running.map (·.1)).Nodup
  le : ∀ r ∈ w.running, r.1 ≤ w.lastRequest

/-- What waits for one buffer. -/
structure Part where
  controller : Option Debounce
  timers : List Timer
  /-- An entry for each request that is queued. -/
  queued : List String

/-- What of the work waits for a buffer. -/
def Work.part (w : Work) (id : String) : Part :=
  ⟨w.controllers.lookup id, w.timers.of id, w.queued.filter (· = id)⟩

/-- A request that runs is found by its number. -/
theorem Work.Issued.request? (h : s.work.Issued) {r : Request} (hr : r ∈ s.requests) :
    (s.request? r.id).map Request.buffer = some r.buffer := by
  have hmem : r.core ∈ s.work.running := List.mem_map_of_mem hr
  obtain ⟨found, hfound⟩ := Option.isSome_iff_exists.mp (request?_isSome hmem)
  have heq := List.inj_on_of_nodup_map h.distinct (mem_running hfound) hmem rfl
  have hbuffer : found.buffer = r.buffer := congrArg (·.2.1) heq
  rw [Request.core] at hfound
  rw [hfound, Option.map_some, hbuffer]

/-- **An event keeps timers and controllers in order.** -/
theorem Does.owned (h : s.timers.Owned s.controllers) (hdoes : Does s e w) :
    w.timers.Owned w.controllers := by
  have hreset : ∀ id, (s.work.reset id).timers.Owned (s.work.reset id).controllers := by
    intro id
    cases hd : s.work.controllers.lookup id with
    | none =>
      rw [Work.reset_of_none hd]
      exact h
    | some d =>
      rw [Work.reset_of_some hd]
      have hnone : (d.reset s.timers).1.timer = none := d.cancel_timer s.timers
      exact (h.cancel d).put_of_none hnone id
  cases hdoes with
  | rest _ _ => exact h
  | signal cursor _ _ => exact h.signal _ _ cursor
  | reset _ => exact hreset _
  | close _ => exact (hreset _).erase _
  | lapse _ _ _ => exact h.sublist List.filter_sublist
  | elapse _ _ _ htimer _ _ => exact (h.sublist List.filter_sublist).put_of_none htimer _
  | begin _ _ _ => exact h
  | deliver _ => exact h
  | conclude _ => exact h

/-- **An event gives a new request a new number.** -/
theorem Does.issued (h : s.work.Issued) (hdoes : Does s e w) : w.Issued := by
  cases hdoes with
  | rest _ _ => exact h
  | signal _ _ _ => exact ⟨h.distinct, h.le⟩
  | reset _ => exact ⟨by simpa using h.distinct, by simpa using h.le⟩
  | close _ => exact ⟨by simpa using h.distinct, by simpa using h.le⟩
  | lapse _ _ _ => exact ⟨h.distinct, h.le⟩
  | elapse _ _ _ _ _ _ => exact ⟨h.distinct, h.le⟩
  | begin _ _ hasked =>
    have hle : ∀ r ∈ s.work.running, r.1 ≤ s.lastRequest := h.le
    rcases hasked with rfl | rfl
    · refine ⟨?_, fun r hr => ?_⟩
      · rw [List.append_nil]
        exact h.distinct
      · rw [List.append_nil] at hr
        exact Nat.le_succ_of_le (hle r hr)
    · refine ⟨?_, fun r hr => ?_⟩
      · rw [List.map_append, List.nodup_append]
        refine ⟨h.distinct, List.nodup_singleton _, fun n hn m hm => ?_⟩
        obtain ⟨r, hr, rfl⟩ := List.mem_map.mp hn
        rw [List.map_singleton, List.mem_singleton] at hm
        rw [hm]
        exact Nat.ne_of_lt (Nat.lt_succ_of_le (hle r hr))
      · rcases List.mem_append.mp hr with hr | hr
        · exact Nat.le_succ_of_le (hle r hr)
        · exact Nat.le_of_eq (congrArg (·.1) (List.mem_singleton.mp hr))
  | @deliver n piece _ =>
    have hnumbers : (s.work.running.map fun r =>
        if r.1 = n then (r.1, r.2.1, r.2.2 ++ [piece]) else r).map (·.1)
        = s.work.running.map (·.1) := by
      rw [List.map_map]
      refine List.map_congr_left fun r _ => ?_
      rw [Function.comp_apply]
      split <;> rfl
    refine ⟨hnumbers ▸ h.distinct, fun r hr => ?_⟩
    obtain ⟨r', hr', rfl⟩ := List.mem_map.mp hr
    have hle := h.le r' hr'
    split <;> exact hle
  | conclude _ =>
    refine ⟨h.distinct.sublist (List.filter_sublist.map _), fun r hr => ?_⟩
    exact h.le r (List.mem_filter.mp hr).1

/-- **No number stands for two things**, whatever happened. -/
theorem owned_run (h : Fresh s) (events : List Event) :
    (s.run events).timers.Owned (s.run events).controllers ∧ (s.run events).work.Issued := by
  refine run_induction (P := fun s => s.timers.Owned s.controllers ∧ s.work.Issued) ⟨?_, ?_⟩
    (fun t e ht => ?_) events
  · refine ⟨?_, fun t ht => ?_, fun id d n hd _ => ?_⟩
    · rw [h.timers]
      exact List.nodup_nil
    · rw [h.timers] at ht
      cases ht
    · rw [h.controllers] at hd
      cases hd
  · have hnil : s.work.running = [] := by
      rw [work, h.requests]
      rfl
    refine ⟨?_, fun r hr => ?_⟩
    · rw [hnil]
      exact List.nodup_nil
    · rw [hnil] at hr
      cases hr
  · have hdoes := handle_work t e
    exact ⟨hdoes.owned ht.1, hdoes.issued ht.2⟩

/-! ## What an event leaves alone -/

theorem Work.part_congr {w' : Work}
    (hcontroller : w'.controllers.lookup other = w.controllers.lookup other)
    (htimers : w'.timers.of other = w.timers.of other)
    (hqueued : w'.queued.filter (· = other) = w.queued.filter (· = other)) :
    w'.part other = w.part other := by
  rw [part, hcontroller, htimers, hqueued, part]

theorem Work.part_reset (h : w.timers.Owned w.controllers) (hne : other ≠ id) :
    (w.reset id).part other = w.part other := by
  cases hd : w.controllers.lookup id with
  | none => rw [Work.reset_of_none hd]
  | some d =>
    rw [Work.reset_of_some hd]
    refine part_congr ?_ (h.of_cancel (.inl hd) hne) rfl
    exact (Registry.lookup_put ..).trans (if_neg hne)

theorem filter_erase_of_ne (queued : List String) (hne : other ≠ id) :
    (queued.erase id).filter (· = other) = queued.filter (· = other) := by
  rw [← List.erase_filter]
  refine List.erase_of_not_mem fun hmem => ?_
  exact hne (of_decide_eq_true (List.mem_filter.mp hmem).2).symm

theorem filter_append_of_ne (queued : List String) (hne : other ≠ id) :
    (queued ++ [id]).filter (· = other) = queued.filter (· = other) := by
  rw [List.filter_append, List.filter_cons_of_neg (by simpa using hne.symm), List.filter_nil,
    List.append_nil]

/-- **An event leaves alone what waits for other buffers**: their controllers and timers, and the
requests that are queued for them. -/
theorem Does.part (howned : s.timers.Owned s.controllers) (hdoes : Does s e w)
    (hne : e.buffer? s ≠ some other) : w.part other = s.work.part other := by
  have hother : ∀ {id}, e.buffer? s = some id → other ≠ id := by
    rintro id hid rfl
    exact hne hid
  cases hdoes with
  | rest _ _ => rfl
  | @signal id d cursor he hd =>
    have hid : e.buffer? s = some id := by rcases he with rfl | rfl <;> rfl
    have hreaches : s.controllers.lookup id = some d ∨ d.timer = none := by
      rcases hd with hd | ⟨_, hd⟩
      · exact .inl hd
      · exact .inr hd
    refine Work.part_congr ?_ (howned.of_signal hreaches cursor (hother hid)) rfl
    exact (Registry.lookup_put ..).trans (if_neg (hother hid))
  | reset he =>
    rcases he with rfl | rfl
    · exact Work.part_reset howned (hother rfl)
    · exact Work.part_reset howned (hother rfl)
  | @close id he =>
    subst he
    have hreset : (s.work.reset id).part other = s.work.part other :=
      Work.part_reset howned (hother rfl)
    rw [← hreset]
    refine Work.part_congr ?_ rfl rfl
    exact (Registry.lookup_erase ..).trans (if_neg (hother rfl))
  | @lapse t loop he ht _ =>
    subst he
    have hid : Event.buffer? s (.expire t.id loop) = some t.owner := by
      rw [Event.buffer?, howned.find?_eq ht, Option.map_some]
    refine Work.part_congr rfl ?_ rfl
    exact Timers.Owned.of_without (fun t' ht' => howned.owner_eq ht ht') (hother hid)
  | @elapse t loop d d' queued he ht hd _ _ hqueued =>
    subst he
    have hid : Event.buffer? s (.expire t.id loop) = some t.owner := by
      rw [Event.buffer?, howned.find?_eq ht, Option.map_some]
    refine Work.part_congr ?_ ?_ ?_
    · exact (Registry.lookup_put ..).trans (if_neg (hother hid))
    · exact Timers.Owned.of_without (fun t' ht' => howned.owner_eq ht ht') (hother hid)
    · rcases hqueued with rfl | ⟨_, rfl⟩
      · rfl
      · exact filter_append_of_ne s.queued (hother hid)
  | @begin id queued asked hstarted hqueued _ =>
    have hid := Event.buffer?_of_started? hstarted
    refine Work.part_congr rfl rfl ?_
    rcases hqueued with rfl | rfl
    · rfl
    · exact filter_erase_of_ne s.queued (hother hid)
  | deliver _ => rfl
  | conclude _ => rfl

/-- The host stays the same. -/
theorem Does.host (hdoes : Does s e w) : w.timers.host = s.timers.host := by
  have hreset : ∀ id, (s.work.reset id).timers.host = s.timers.host := by
    intro id
    cases hd : s.work.controllers.lookup id with
    | none =>
      rw [Work.reset_of_none hd]
      rfl
    | some d =>
      rw [Work.reset_of_some hd]
      exact d.cancel_host s.timers
  cases hdoes with
  | @signal id d cursor _ _ => exact d.signal_host s.timers id cursor
  | reset _ => exact hreset _
  | close _ => exact hreset _
  | _ => rfl

end Session

end GhostEdit
