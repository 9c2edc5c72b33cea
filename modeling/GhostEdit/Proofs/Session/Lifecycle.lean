import GhostEdit.Proofs.Session.Events

/-!
# The lifecycle of suggestions

A buffer has no suggestions, waits for some, or has some to choose from. Its context holds more
than that phase: the sets, an index into them, the number of the newest request; and what is drawn
is kept twice, on the overlay and on the board. The operations write these in different
combinations. A failure empties the sets and leaves the index where it is; a new request leaves the
old sets in place until its answer arrives.

This file proves what holds between any two events of any history. `View.Sound` is the part about
one buffer: it says of every phase what the sets and the index are then, and each of the elementary
changes keeps it. The numbers of requests tie the buffers together and are treated apart.

## Main definitions

* `Context.Sound`, `Session.View.Sound`: what holds of one buffer
* `Session.Consistent`: what holds of a session

## Main results

* `Session.run_consistent`: every history leaves a session consistent
-/

namespace GhostEdit

/-- What holds of a context between two events. -/
structure Context.Sound (c : Context) : Prop where
  still : c.moving = false
  idle : c.phase = .idle → c.sets = []
  ready : c.phase = .ready → c.sets ≠ []
  full : ∀ set ∈ c.sets, set ≠ []
  /-- Without sets the index may be anything: it is set anew when sets arrive. -/
  index : c.sets ≠ [] → 0 ≤ c.index ∧ c.index < c.sets.length

namespace Session

/-- What holds of the view of a buffer between two events. -/
structure View.Sound (v : View) : Prop where
  context : ∀ c, v.context = some c → c.Sound
  /-- A buffer without suggestions has nothing drawn in it. -/
  bare : (∀ c, v.context = some c → c.phase = .idle) → v.overlay = []
  drawn : v.drawn = v.overlay

variable {offers : Int → Text → List Text → Prop} {c c' : Context} {v w : View}
  {overlay drawn : List Mark}

theorem sound_default : ({} : Context).Sound :=
  ⟨rfl, fun _ => rfl, nofun, by simp, fun h => absurd rfl h⟩

theorem View.sound_blank : View.blank.Sound :=
  ⟨nofun, fun _ => rfl, rfl⟩

/-! ## One buffer -/

theorem Turn.sound (hturn : Turn offers c c') (h : c.Sound) : c'.Sound := by
  cases hturn with
  | note rows => exact ⟨h.still, h.idle, h.ready, h.full, h.index⟩
  | still => exact ⟨rfl, h.idle, h.ready, h.full, h.index⟩
  | select hready hnonneg hlt => exact ⟨h.still, h.idle, h.ready, h.full, fun _ => ⟨hnonneg, hlt⟩⟩
  | @offer answer rows sets _ hparse hne =>
    have hpos : 0 < sets.length := List.length_pos_iff.mpr hne
    refine ⟨h.still, fun hphase => ?_, fun _ => hne, fun set hset => ?_, fun _ => ⟨?_, ?_⟩⟩
    · cases hphase
    · exact (Answer.exists_assemble_of_mem_parse hparse hset).1
    · exact Int.le_refl 0
    · show (0 : Int) < sets.length
      omega

/-- A context only comes to rest by being given up. -/
theorem Turn.idle (hturn : Turn offers c c') (h : c'.phase = .idle) : c.phase = .idle := by
  cases hturn with
  | note rows => exact h
  | still => exact h
  | select _ _ _ => exact h
  | offer _ _ _ => cases h

theorem Context.Sound.sets_ne_nil_of_current? {set : SuggestionSet} (hset : c.current? = some set) :
    c.sets ≠ [] := by
  rintro hnil
  rw [Context.current?, hnil] at hset
  split at hset <;> cases hset

/-- **Every change of a view keeps it sound.** -/
theorem View.Change.sound (hchange : View.Change offers v w) (h : v.Sound) : w.Sound := by
  induction hchange with
  | refl v => exact h
  | trans _ _ ih ih' => exact ih' (ih h)
  | touch overlay drawn =>
    refine ⟨?_, fun _ => h.bare fun c hc => ?_, h.drawn⟩
    · rintro _ ⟨⟩
      exact sound_default
    · cases hc
  | @turn c c' overlay drawn hturn =>
    refine ⟨?_, fun hidle => h.bare ?_, h.drawn⟩
    · rintro _ ⟨⟩
      exact hturn.sound (h.context c rfl)
    · rintro _ ⟨⟩
      exact hturn.idle (hidle c' rfl)
  | hide v => exact ⟨h.context, fun _ => rfl, rfl⟩
  | settle c overlay drawn =>
    refine ⟨?_, fun _ => rfl, rfl⟩
    rintro _ ⟨⟩
    have hstill := (h.context c rfl).still
    exact ⟨hstill, fun _ => rfl, nofun, by simp, fun hne => absurd rfl hne⟩
  | @paint c set overlay drawn marks hset hne =>
    refine ⟨h.context, fun hidle => ?_, rfl⟩
    have hsets := Context.Sound.sets_ne_nil_of_current? hset
    exact absurd ((h.context c rfl).idle (hidle c rfl)) hsets

theorem View.sound_enter (h : v.Sound) (n : Int) : (v.enter n).Sound := by
  have hc : (v.context.getD {}).Sound := by
    cases hv : v.context with
    | none => exact sound_default
    | some c => exact h.context c hv
  refine ⟨?_, fun hidle => ?_, h.drawn⟩
  · rintro _ ⟨⟩
    exact ⟨hc.still, nofun, nofun, hc.full, hc.index⟩
  · have hphase := hidle _ rfl
    cases hphase

theorem Cut.sound (hcut : Cut c c') (h : c.Sound) : c'.Sound := by
  cases hcut with
  | @mk before after x rows hready hset hne =>
    have hsets := Context.Sound.sets_ne_nil_of_current? hset
    have hindex := h.index hsets
    have hlen : (c.sets.set c.index.toNat (shiftBelow x x.growth (before ++ after))).length
        = c.sets.length := List.length_set
    refine ⟨rfl, fun hphase => ?_, fun _ => ?_, fun set hmem => ?_, fun _ => ?_⟩
    · rw [show c.phase = .idle from hphase] at hready
      cases hready
    · rw [← List.length_pos_iff] at hsets ⊢
      exact hlen ▸ hsets
    · rcases List.mem_or_eq_of_mem_set hmem with hmem | rfl
      · exact h.full set hmem
      · exact hne
    · exact ⟨hindex.1, hlen ▸ hindex.2⟩

/-- **An event keeps every view sound.** -/
theorem handle_sound {s : Session} (h : ∀ id, (s.view id).Sound) (e : Event) (id : String) :
    ((s.handle e).view id).Sound := by
  have hsees := handle_view s e id
  generalize (s.handle e).view id = v at hsees
  cases hsees with
  | change _ _ hchange => exact hchange.sound (h id)
  | enter _ hchange => exact hchange.sound (View.sound_enter (h id) _)
  | drop _ => exact View.sound_blank
  | @cut c c' _ _ hc hcut hchange =>
    refine hchange.sound ⟨?_, fun _ => rfl, rfl⟩
    rintro _ ⟨⟩
    exact hcut.sound ((h id).context c hc)

/-! ## The numbers of requests -/

/-- The contexts name requests that were issued, and no two of them the same one. -/
structure Numbered (s : Session) : Prop where
  nonneg : ∀ id, 0 ≤ (s.view id).number
  le : ∀ id, (s.view id).number ≤ s.lastRequest
  distinct : ∀ id other, id ≠ other → (s.view id).number ≠ 0 →
    (s.view id).number ≠ (s.view other).number

theorem handle_numbered {s : Session} (h : Numbered s) (e : Event) : Numbered (s.handle e) := by
  have hlast := handle_lastRequest s e
  have hnumber := handle_number s e
  refine ⟨fun id => ?_, fun id => ?_, fun id other hne => ?_⟩
  · have hnonneg := h.nonneg id
    rcases hnumber id with ⟨_, hid⟩ | ⟨_, hid⟩ <;> omega
  · have hle := h.le id
    rcases hnumber id with ⟨hstarted, hid⟩ | ⟨_, hid⟩
    · rw [hstarted] at hlast
      simp only [Option.isSome_some, if_true] at hlast
      omega
    · split at hlast <;> omega
  · -- only one of the two buffers can have the request that starts
    have hle := h.le id
    have hle' := h.le other
    have hdistinct := h.distinct id other hne
    rcases hnumber id with ⟨hstarted, hid⟩ | ⟨_, hid⟩
    · rcases hnumber other with ⟨hstarted', _⟩ | ⟨_, hother⟩
      · exact absurd (Option.some.inj (hstarted.symm.trans hstarted')) hne
      · omega
    · rcases hnumber other with ⟨_, hother⟩ | ⟨_, hother⟩ <;> omega

/-! ## Histories -/

/-- What holds of a session between two events. -/
structure Consistent (s : Session) : Prop where
  /-- Without a context, or at rest, there are no sets and nothing is drawn. -/
  idle : ∀ id, s.phase id = .idle → (s.context id).sets = [] ∧ s.overlay id = []
  /-- A buffer that has suggestions has one selected, and none of them is empty. -/
  ready : ∀ id, s.phase id = .ready → (s.context id).sets ≠ [] ∧
    (∀ set ∈ (s.context id).sets, set ≠ []) ∧
    0 ≤ (s.context id).index ∧ (s.context id).index < (s.context id).sets.length
  /-- A buffer that waits has no sets, or still those it had. -/
  fetching : ∀ id, s.phase id = .fetching → (s.context id).sets = [] ∨
    (∀ set ∈ (s.context id).sets, set ≠ []) ∧
      0 ≤ (s.context id).index ∧ (s.context id).index < (s.context id).sets.length
  drawn : ∀ id, s.drawn id = s.overlay id
  still : ∀ id, (s.context id).moving = false
  issued : ∀ id, 0 ≤ (s.context id).request ∧ (s.context id).request ≤ s.lastRequest
  distinct : ∀ id other, id ≠ other → (s.context id).request ≠ 0 →
    (s.context id).request ≠ (s.context other).request

theorem consistent_of_sound {s : Session} (h : ∀ id, (s.view id).Sound) (hnumbered : Numbered s) :
    Consistent s := by
  have hcontext : ∀ id, (s.context id).Sound := by
    intro id
    rw [context]
    cases hc : s.context? id with
    | none => exact sound_default
    | some c => exact (h id).context c hc
  refine ⟨fun id hidle => ⟨(hcontext id).idle hidle, (h id).bare fun c hc => ?_⟩,
    fun id hready => ?_, fun id _ => ?_, fun id => (h id).drawn, fun id => (hcontext id).still,
    fun id => ⟨hnumbered.nonneg id, hnumbered.le id⟩, hnumbered.distinct⟩
  · have hc : s.context? id = some c := hc
    rw [phase, context, hc] at hidle
    exact hidle
  · have hne := (hcontext id).ready hready
    exact ⟨hne, (hcontext id).full, (hcontext id).index hne⟩
  · by_cases hnil : (s.context id).sets = []
    · exact .inl hnil
    · exact .inr ⟨(hcontext id).full, (hcontext id).index hnil⟩

/-- **Every history leaves a session consistent.** -/
theorem run_consistent {s : Session} (h : Fresh s) (events : List Event) :
    Consistent (s.run events) := by
  have hstart : (∀ id, (s.view id).Sound) ∧ Numbered s := by
    refine ⟨fun id => ?_, ⟨fun id => ?_, fun id => ?_, fun id other _ hid => ?_⟩⟩
    · rw [h.view]
      exact View.sound_blank
    · rw [h.view]
      exact Int.le_refl 0
    · rw [h.view, h.lastRequest]
      exact Int.le_refl 0
    · rw [h.view] at hid
      exact absurd rfl hid
  have hrun : (∀ id, ((s.run events).view id).Sound) ∧ Numbered (s.run events) :=
    run_induction (P := fun s => (∀ id, (s.view id).Sound) ∧ Numbered s) hstart
      (fun t e ht => ⟨handle_sound ht.1 e, handle_numbered ht.2 e⟩) events
  exact consistent_of_sound hrun.1 hrun.2

/-- An answer in two pieces arrives and its first item is accepted; then the buffer refuses edits,
and accepting fails. -/
def sampleHistory : List Event :=
  [.suggest "notes", .deliver 1 (Answer.sample.take 40), .deliver 1 (Answer.sample.drop 40),
    .finish 1, .accept "notes", .write "notes" { modifiable := false }, .accept "notes"]

theorem sampleHistory_consistent :
    Fresh (desk .listing) ∧ ((desk .listing).run sampleHistory).phase "notes" = .ready ∧
      Consistent ((desk .listing).run sampleHistory) :=
  ⟨fresh_desk .listing, by decide +kernel, run_consistent (fresh_desk .listing) sampleHistory⟩

end Session

end GhostEdit
