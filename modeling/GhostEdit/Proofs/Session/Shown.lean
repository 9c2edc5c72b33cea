import GhostEdit.Proofs.Session.Jump
import GhostEdit.Proofs.Session.Lifecycle

/-!
# Accepting what is shown

A user who sees ghost text presses the accept key and expects it to do something. Whether text is
drawn is known to the board, whether it can be accepted is decided by the phase of the context, and
the two are written by different operations. This file proves that they agree at every moment of
every history but one: a request that runs. Starting it leaves what the last one brought on the
screen, and the accept key goes to the host until the answer arrives.

## Why an accept cannot fail

An accept at a cursor applies an item or jumps to one, and both draw what is left. Drawing fails for
an item above the first row. No set on offer has one: every set is what is left of a set that was
placed in some document (`Remnant`). That document need not be the one in the buffer, which the host
may have changed since.

## Main definitions

* `Remnant`: what is left of a set that was placed

## Main results

* `Session.handle_rooted`: every set on offer is a remnant
* `Session.accept_ready`: an accept of a set on offer
* `Session.shown_accepted_iff`
* `Session.shown_refused`: ghost text that cannot be accepted
-/

namespace GhostEdit

/-- What is left of a set that was placed in some document. -/
def Remnant (set : SuggestionSet) : Prop :=
  ∃ (document : List Value) (whole : SuggestionSet) (gone : List Int),
    Placed document.length whole ∧ (whole.map Item.id).Nodup ∧ set = pending gone whole

theorem Remnant.placed {set : SuggestionSet} (h : Remnant set) : ∃ size, Placed size set := by
  obtain ⟨document, whole, gone, hplaced, _, rfl⟩ := h
  exact ⟨_, pending_placed hplaced⟩

/-- The sets of an answer are whole. -/
theorem Answer.remnant_of_parse {answer : Text} {rows : List Text} {sets : List SuggestionSet}
    {set : SuggestionSet} (h : Answer.parse answer rows = .ok sets) (hset : set ∈ sets) :
    Remnant set := by
  refine ⟨rows.map Value.str, set, [], ?_, ids_nodup_of_parse h hset, (pending_nil_left set).symm⟩
  rw [List.length_map]
  exact parse_placed h hset

/-- A context that is ready has a set selected that is not empty. -/
theorem Context.Sound.exists_current? {c : Context} (h : c.Sound) (hready : c.phase = .ready) :
    ∃ set, c.current? = some set ∧ set ≠ [] := by
  obtain ⟨hnonneg, hlt⟩ := h.index (h.ready hready)
  have hget : c.sets[c.index.toNat]? = some c.sets[c.index.toNat] :=
    List.getElem?_eq_getElem (by omega)
  refine ⟨_, ?_, h.full _ (List.mem_of_getElem? hget)⟩
  rw [Context.current?, if_pos hnonneg, hget]

namespace Session

variable {offers : Int → Text → List Text → Prop} {c c' : Context} {v w : View} {s t : Session}
  {id : String} {b : Buffer} {texts : List Text} {set : SuggestionSet} {item : Item} {row : Int}

/-! ## The sets on offer -/

/-- Every set of a buffer is a remnant. -/
def View.Rooted (v : View) : Prop := ∀ c, v.context = some c → ∀ set ∈ c.sets, Remnant set

theorem Turn.rooted (hturn : Turn offers c c') (h : ∀ set ∈ c.sets, Remnant set) :
    ∀ set ∈ c'.sets, Remnant set := by
  cases hturn with
  | note rows => exact h
  | still => exact h
  | select _ _ _ => exact h
  | offer _ hparse _ => exact fun set hset => Answer.remnant_of_parse hparse hset

theorem View.Change.rooted (hchange : View.Change offers v w) (h : v.Rooted) : w.Rooted := by
  induction hchange with
  | refl v => exact h
  | trans _ _ ih ih' => exact ih' (ih h)
  | touch overlay drawn =>
    rintro _ ⟨⟩
    simp
  | turn overlay drawn hturn =>
    rintro _ ⟨⟩
    exact hturn.rooted (h _ rfl)
  | hide v => exact h
  | settle c overlay drawn =>
    rintro _ ⟨⟩
    simp
  | paint overlay drawn marks hset hne => exact h

theorem View.rooted_enter (h : v.Rooted) (n : Int) : (v.enter n).Rooted := by
  rintro _ ⟨⟩ set hset
  cases hv : v.context with
  | none => simp [hv] at hset
  | some c =>
    simp only [hv, Option.getD_some] at hset
    exact h c hv set hset

theorem mem_of_current? (h : c.current? = some set) : set ∈ c.sets := by
  rw [Context.current?] at h
  split at h
  · exact List.mem_of_getElem? h
  · cases h

/-- What is left after an item was taken out is a remnant of the same set. -/
theorem Cut.rooted (hcut : Cut c c') (h : ∀ set ∈ c.sets, Remnant set) :
    ∀ set ∈ c'.sets, Remnant set := by
  cases hcut with
  | @mk before after x rows hready hset hne =>
    intro left hleft
    rcases List.mem_or_eq_of_mem_set hleft with hmem | rfl
    · exact h left hmem
    · obtain ⟨document, whole, gone, hplaced, hids, hsplit⟩ := h _ (mem_of_current? hset)
      exact ⟨document, whole, gone ++ [x.id], hplaced, hids,
        shiftBelow_pending hplaced hids hsplit.symm⟩

/-- **An event leaves remnants on offer.** -/
theorem handle_rooted (h : ∀ id, (s.view id).Rooted) (e : Event) (id : String) :
    ((s.handle e).view id).Rooted := by
  have hsees := handle_view s e id
  generalize (s.handle e).view id = v at hsees
  cases hsees with
  | change _ _ hchange => exact hchange.rooted (h id)
  | enter _ hchange => exact hchange.rooted (View.rooted_enter (h id) _)
  | drop _ => exact nofun
  | @cut c c' _ _ hc hcut hchange =>
    refine hchange.rooted ?_
    rintro _ ⟨⟩
    exact hcut.rooted (h id c hc)

theorem run_views (hs : Fresh s) (events : List Event) (id : String) :
    ((s.run events).view id).Sound ∧ ((s.run events).view id).Rooted := by
  have hstart : (∀ id, (s.view id).Sound) ∧ ∀ id, (s.view id).Rooted := by
    refine ⟨fun id => ?_, fun id => ?_⟩
    · rw [hs.view]
      exact View.sound_blank
    · rw [hs.view]
      exact nofun
  have hrun := run_induction (P := fun s => (∀ id, (s.view id).Sound) ∧ ∀ id, (s.view id).Rooted)
    hstart (fun t e ht => ⟨handle_sound ht.1 e, handle_rooted ht.2 e⟩) events
  exact ⟨hrun.1 id, hrun.2 id⟩

/-! ## What can be seen -/

/-- Where something is drawn there is a context that is not at rest. -/
theorem View.Sound.exists_of_drawn (h : v.Sound) (hdrawn : v.drawn ≠ []) :
    ∃ c, v.context = some c ∧ c.phase ≠ .idle := by
  by_cases hidle : ∀ c, v.context = some c → c.phase = .idle
  · exact absurd (h.drawn.trans (h.bare hidle)) hdrawn
  · simpa using hidle

/-! ## Keys that are handed back -/

/-- Handing the accept key back tells that nothing was accepted. -/
theorem handBack_snd (hb : s.buffers.get? id = some b) :
    (s.handBack id).2 = .ok .fallback ∨ (s.handBack id).2 = .ok .noop := by
  rw [handBack]
  dsimp only
  split
  · left
    split
    · next hbs =>
      have hmodify := (Buffers.modify_of_get? hb fun b => .ok
        { b with fedKeys := b.fedKeys ++ [s.settings.value .acceptKey] }).symm.trans hbs
      cases hmodify
    · rfl
  · exact .inr rfl

/-! ## Accepting -/

/-- An accept did something with the set on offer in a buffer, and handed no key back. -/
def Accepts (s : Session) (id : String) (b : Buffer) : Prop :=
  ∃ t outcome b', s.accept id = (t, .ok outcome) ∧ (outcome = .applied ∨ outcome = .jumped) ∧
    t.buffers.get? id = some b' ∧ b'.fedKeys = b.fedKeys

/-- **A set on offer can be accepted**, from every row and over any texts. -/
theorem accept_ready {size : Nat} (hb : s.buffers.get? id = some b) (hmod : b.modifiable = true)
    (hlines : b.lines = texts.map Value.str) (hne : texts ≠ []) (hrow : b.cursor.row = .ok row)
    (hc : s.context? id = some c) (hready : c.phase = .ready) (hcurrent : c.current? = some set)
    (hset : set ≠ []) (hplaced : Placed size set) : s.Accepts id b := by
  obtain ⟨o, _, ho, hstanding⟩ := standing_of_ready hb hlines hmod hc hready hcurrent
  obtain ⟨c', hc', hpresents⟩ := hstanding.context
  obtain rfl := Option.some.inj (hc.symm.trans hc')
  have haccept : s.accept id = s.acceptAt id c set b :=
    accept_eq_acceptAt hb hc hpresents ho hset
  rw [acceptAt, hrow] at haccept
  dsimp only at haccept
  cases hfound : itemAt? row set with
  | some found =>
    obtain ⟨before, x, after⟩ := found
    rw [hfound] at haccept
    rw [(itemAt?_eq_some hfound).1] at hplaced
    obtain ⟨_, houtcome⟩ := hstanding.applyItem hb hpresents hplaced
    obtain ⟨written, edit, happly, overlay, hwritten⟩ := exists_carries_applyItem houtcome
    obtain ⟨-, _, _, rfl⟩ := Buffer.apply_eq_ok happly
    exact ⟨_, .applied, _, haccept.trans (Prod.ext rfl houtcome), .inl rfl, hwritten, rfl⟩
  | none =>
    obtain ⟨x, hx, hnearest⟩ := exists_nearest? hset row
    rw [hfound] at haccept
    dsimp only at haccept
    rw [hnearest] at haccept
    obtain ⟨t, col, hjump, _, overlay, hmoved⟩ := hstanding.jump_eq hb ho
      (fun y hy => (hplaced.fits y hy).one_le_startRow) (by simpa using hne) x
    exact ⟨t, .jumped, _, haccept.trans hjump, .inr rfl, hmoved, rfl⟩

/-- While a request runs nothing is accepted. -/
theorem not_accepts_of_fetching (hb : s.buffers.get? id = some b)
    (hfetching : s.phase id = .fetching) : ¬ s.Accepts id b := by
  rintro ⟨t, outcome, b', haccept, houtcome, _⟩
  have hback : s.accept id = s.handBack id := by
    rw [accept]
    cases hc : s.context? id with
    | none => rfl
    | some c =>
      rw [phase, context, hc] at hfetching
      have hfetching : c.phase = .fetching := hfetching
      dsimp only
      rw [hfetching]
  have hsnd := handBack_snd hb
  rw [← hback, haccept] at hsnd
  rcases houtcome with rfl | rfl <;> simp at hsnd

/-- **What is shown can be accepted exactly while no request runs.** After any history of a fresh
session, in a buffer of texts that can be edited and has its cursor on a row, where ghost text is
drawn: an accept applies an item or jumps to one, and hands no key back, unless a request for the
buffer runs. -/
theorem shown_accepted_iff (hs : Fresh s) (events : List Event)
    (hb : (s.run events).buffers.get? id = some b) (hmod : b.modifiable = true)
    (hlines : b.lines = texts.map Value.str) (hne : texts ≠ []) (hrow : b.cursor.row = .ok row)
    (hvisible : (s.run events).isVisible id = true) :
    (s.run events).Accepts id b ↔ (s.run events).phase id ≠ .fetching := by
  obtain ⟨hsound, hrooted⟩ := run_views hs events id
  obtain ⟨c, hc, hawake⟩ := hsound.exists_of_drawn (drawn_ne_nil_iff.mpr hvisible)
  have hphase : (s.run events).phase id = c.phase := by
    have hc : (s.run events).context? id = some c := hc
    rw [phase, context, hc, Option.getD_some]
  constructor
  · intro haccepts hfetching
    exact not_accepts_of_fetching hb hfetching haccepts
  · intro hnot
    have hready : c.phase = .ready := by
      cases hcp : c.phase with
      | idle => exact absurd hcp hawake
      | fetching => exact absurd (hphase.trans hcp) hnot
      | ready => rfl
    obtain ⟨set, hcurrent, hset⟩ := (hsound.context c hc).exists_current? hready
    obtain ⟨size, hplaced⟩ := (hrooted c hc set (mem_of_current? hcurrent)).placed
    exact accept_ready hb hmod hlines hne hrow hc hready hcurrent hset hplaced

/-- The document of the desk, with the cursor in its second row. -/
def page : Buffer :=
  { lines := [['a'], ['b']].map Value.str, cursor := .at 2 0, mode := insertMode }

/-- An answer arrives, and the user moves the cursor. -/
def glance : List Event :=
  [.suggest "notes", .deliver 1 Answer.sample, .finish 1, .write "notes" page]

theorem get?_glance : ((desk .listing).run glance).buffers.get? "notes" = some
    { page with overlay := ((desk .listing).run (glance.take 3)).overlay "notes" } :=
  (Buffers.get?_put ..).trans (if_pos rfl)

theorem glance_accepted :
    ((desk .listing).run glance).isVisible "notes" = true ∧
      ∃ b, ((desk .listing).run glance).buffers.get? "notes" = some b ∧
        ((desk .listing).run glance).Accepts "notes" b := by
  have ⟨hvisible, hphase⟩ : ((desk .listing).run glance).isVisible "notes" = true ∧
      ((desk .listing).run glance).phase "notes" ≠ .fetching := by decide +kernel
  refine ⟨hvisible, _, get?_glance, ?_⟩
  have hiff := shown_accepted_iff (fresh_desk .listing) glance get?_glance rfl rfl (by simp) rfl
    hvisible
  exact hiff.mpr hphase

/-- **Ghost text that cannot be accepted.** When suggestions are asked for again with the cursor
where it is now, the text of the first answer is still drawn in a buffer that can be edited, but an
accept does nothing. -/
theorem shown_refused :
    Fresh (desk .listing) ∧
      ((desk .listing).run (glance ++ [.suggest "notes"])).isVisible "notes" = true ∧
      (((desk .listing).run (glance ++ [.suggest "notes"])).buffers.get? "notes").map (·.modifiable)
        = some true ∧
      (((desk .listing).run (glance ++ [.suggest "notes"])).accept "notes").2.toOption
        = some .noop :=
  ⟨fresh_desk .listing, by decide +kernel⟩

end Session

end GhostEdit
