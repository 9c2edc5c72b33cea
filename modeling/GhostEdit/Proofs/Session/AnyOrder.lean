import GhostEdit.Proofs.Session.Moves

/-!
# Accepting a set in any order

The items of a set are proposed against one document, all at once. A user accepts them one by one,
in the order in which the cursor comes upon them, and each accepted item moves those below it.
This file proves that nothing of this shows in the document: after any moves that stay with the
set, the document is the one the set was proposed for, rewritten at once by the items accepted so
far.

## The invariant

`Accepting` ties the three things that change to the record of the run. The rows are the document
rewritten by what was taken, and the set on offer is what is `pending`; both are functions of the
set as it was proposed and of the numbers accepted so far, so the order of these cannot matter.

## Main results

* `Session.accept_any_order`
-/

namespace GhostEdit

/-! ## A set of which nothing is left -/

theorem mem_of_pendingFrom_eq_nil {gone : List Int} {drift : Int} {set : SuggestionSet}
    (h : pendingFrom gone drift set = []) : ∀ item ∈ set, item.id ∈ gone := by
  induction set generalizing drift with
  | nil => simp
  | cons first rest ih =>
    by_cases hfirst : first.id ∈ gone
    · rw [pendingFrom_cons_of_mem hfirst] at h
      exact List.forall_mem_cons.mpr ⟨hfirst, ih h⟩
    · rw [pendingFrom_cons_of_notMem hfirst] at h
      cases h

theorem taken_eq_self {gone : List Int} {set : SuggestionSet} (h : ∀ item ∈ set, item.id ∈ gone) :
    taken gone set = set :=
  List.filter_eq_self.mpr fun item hitem => decide_eq_true (h item hitem)

namespace Session

/-- A run over a document that accepted items of the selected set: no item twice, the rows rewritten
by them at once, and the rest of the set still on offer. -/
structure Accepting (set : SuggestionSet) (document : List Value) (log : List (Nat × Item))
    (rows : List Value) (offer : Option Offer) : Prop where
  nodup : (accepted log).Nodup
  known : accepted log ⊆ set.map Item.id
  rewritten : rows = rewriteRows (taken (accepted log) set) document
  left : match offer with
    | none => pending (accepted log) set = []
    | some o => o.sets[o.index]? = some (pending (accepted log) set) ∧
        pending (accepted log) set ≠ []

variable {set : SuggestionSet} {document rows rows' : List Value} {log applied : List (Nat × Item)}
  {offer offer' : Option Offer} {move : Move} {s : Session} {id : String}

theorem Accepting.start {o : Offer} (hset : o.sets[o.index]? = some set) (hne : set ≠ []) :
    Accepting set document [] document (some o) := by
  refine ⟨List.nodup_nil, List.nil_subset _, ?_, ?_⟩
  · show document = rewriteRows (taken [] set) document
    rw [taken_nil_left, rewriteRows_nil]
  · show o.sets[o.index]? = some (pending [] set) ∧ pending [] set ≠ []
    rw [pending_nil_left]
    exact ⟨hset, hne⟩

/-- One move keeps the invariant, unless it goes to another set. -/
theorem Accepting.step (hplaced : Placed document.length set) (hids : (set.map Item.id).Nodup)
    (h : Accepting set document log rows offer) (hmove : move.turns = false)
    (heffect : Effect rows offer move applied rows' offer') :
    Accepting set document (log ++ applied) rows' offer' := by
  cases heffect with
  | stay => rwa [List.append_nil]
  | turn hturns => rw [hmove] at hturns; cases hturns
  | @apply o before after x hset =>
    obtain ⟨hleft, _⟩ := h.left
    have hsplit : pending (accepted log) set = before ++ x :: after :=
      Option.some.inj (hleft.symm.trans hset)
    have hx : x ∈ pendingFrom (accepted log) 0 set := by
      rw [← pending, hsplit]
      simp
    obtain ⟨hknown, hfresh⟩ := id_mem_of_mem_pendingFrom hx
    have hlog : accepted (log ++ [(o.index, x)]) = accepted log ++ [x.id] := accepted_append ..
    refine ⟨?_, ?_, ?_, ?_⟩
    · rw [hlog, List.nodup_append]
      refine ⟨h.nodup, by simp, ?_⟩
      intro n hn m hm heq
      rw [heq, List.mem_singleton.mp hm] at hn
      exact hfresh hn
    · rw [hlog, List.append_subset]
      exact ⟨h.known, by simpa using hknown⟩
    · rw [hlog, h.rewritten, applyRows_pending hplaced hids hsplit]
    · rw [hlog, shiftBelow_pending hplaced hids hsplit]
      cases hkeep : o.keep (pending (accepted log ++ [x.id]) set) with
      | none => exact Offer.left_eq_nil_of_keep hkeep
      | some o' =>
        obtain ⟨hne, rfl⟩ := Offer.eq_of_keep hkeep
        exact ⟨List.getElem?_set_self (List.getElem?_eq_some_iff.mp hset).1, hne⟩

/-- What is left is placed in the rows as they are. -/
theorem Accepting.placed (hplaced : Placed document.length set)
    (h : Accepting set document log rows offer) :
    Placed rows.length (pending (accepted log) set) := by
  rw [h.rewritten]
  exact pending_placed hplaced

theorem Accepting.play (hplaced : Placed document.length set) (hids : (set.map Item.id).Nodup)
    {moves : List Move} (hmoves : ∀ move ∈ moves, move.turns = false)
    (h : Accepting set document log rows offer) (hstanding : Standing s id rows offer) :
    ∃ rows' offer', Accepting set document (log ++ (play id s moves).2) rows' offer' ∧
      Standing (play id s moves).1 id rows' offer' := by
  refine Standing.play ?_ ?_ hstanding h
  · intro log rows o selected hinv hselected
    obtain rfl : selected = pending (accepted log) set :=
      Option.some.inj (hselected.symm.trans hinv.left.1)
    exact ⟨_, hinv.placed hplaced⟩
  · intro log rows offer move applied rows' offer' hmove hinv
    exact hinv.step hplaced hids (hmoves move hmove)

/-- As long as something is left, two moves accept one more item. -/
theorem Accepting.exists_next (hplaced : Placed document.length set)
    (hids : (set.map Item.id).Nodup) (hne : document ≠ [])
    (h : Accepting set document log rows offer) (hstanding : Standing s id rows offer) {x : Item}
    {rest : SuggestionSet} (hpending : pending (accepted log) set = x :: rest) :
    (pending (accepted (log ++ (Session.play id s [.cursor x.startRow 0, .accept]).2)) set).length
      = rest.length := by
  have hleft := h.left
  cases offer with
  | none =>
    rw [hpending] at hleft
    cases hleft
  | some o =>
    have hfirst : o.sets[o.index]? = some (x :: rest) := hpending ▸ hleft.1
    have hrows : rows ≠ [] := by
      rw [h.rewritten]
      exact rewriteRows_ne_nil (hplaced.stacked.sublist (taken_sublist _ _)) hne
    have hsplit : pending (accepted log) set = [] ++ x :: rest := hpending
    have hless := shiftBelow_pending hplaced hids hsplit
    rw [hstanding.reach hfirst (hpending ▸ h.placed hplaced) hrows, accepted_append]
    show (pending (accepted log ++ [x.id]) set).length = rest.length
    rw [← hless, shiftBelow, List.length_map]
    rfl

/-- From everywhere a user can go on to accept all that is left. -/
theorem Accepting.exists_rest (hplaced : Placed document.length set)
    (hids : (set.map Item.id).Nodup) (hne : document ≠ []) {n : Nat}
    (h : Accepting set document log rows offer) (hstanding : Standing s id rows offer)
    (hlen : (pending (accepted log) set).length = n) :
    ∃ more, (∀ move ∈ more, move.turns = false) ∧
      pending (accepted (log ++ (Session.play id s more).2)) set = [] := by
  induction n generalizing s log rows offer with
  | zero =>
    refine ⟨[], by simp, ?_⟩
    rw [Session.play, List.append_nil]
    exact List.length_eq_zero_iff.mp hlen
  | succ n ih =>
    cases hpending : pending (accepted log) set with
    | nil =>
      rw [hpending] at hlen
      cases hlen
    | cons x rest =>
      have hstays : ∀ move ∈ [Move.cursor x.startRow 0, .accept], move.turns = false := by
        simp [Move.turns]
      have hless := h.exists_next hplaced hids hne hstanding hpending
      rw [hpending, List.length_cons, Nat.add_right_cancel_iff] at hlen
      obtain ⟨rows', offer', hnext, hstanding'⟩ := h.play hplaced hids hstays hstanding
      obtain ⟨more, hmore, hnil⟩ := ih hnext hstanding' (hless.trans hlen)
      refine ⟨_ ++ more, List.forall_mem_append.mpr ⟨hstays, hmore⟩, ?_⟩
      rw [play_append, ← List.append_assoc]
      exact hnil

variable {b : Buffer} {c : Context} {texts : List Text} {answer : Text}
  {sets : List SuggestionSet} {moves : List Move}

/-- **The order of accepts does not matter.** A set of an answer is on offer for the document the
answer is about. Whatever accepts and moves of the cursor follow, the document is then rewritten at
once by the items accepted so far, of which none was accepted twice; the others are on offer still,
and a user can go on and accept them. When all were accepted the document is the one rewritten by
the whole set, in whatever order they were. -/
theorem accept_any_order (hb : s.buffers.get? id = some b)
    (hlines : b.lines = texts.map Value.str) (hmod : b.modifiable = true)
    (hparse : Answer.parse answer texts = .ok sets) (hset : set ∈ sets)
    (hc : s.context? id = some c) (hready : c.phase = .ready) (hcurrent : c.current? = some set)
    (hmoves : ∀ move ∈ moves, move.turns = false) :
    (accepted (play id s moves).2).Nodup ∧
      accepted (play id s moves).2 ⊆ set.map Item.id ∧
      (play id s moves).1.buffers.Holds id
        (rewriteRows (taken (accepted (play id s moves).2) set) (texts.map Value.str)) ∧
      ((play id s moves).1.current? id).getD [] = pending (accepted (play id s moves).2) set ∧
      ((∀ item ∈ set, item.id ∈ accepted (play id s moves).2) →
        (play id s moves).1.buffers.Holds id (rewriteRows set (texts.map Value.str))) ∧
      (texts ≠ [] → ∃ more, (∀ move ∈ more, move.turns = false) ∧
        ∀ item ∈ set, item.id ∈ accepted (play id s (moves ++ more)).2) := by
  have hplaced : Placed (texts.map Value.str).length set := by
    rw [List.length_map]
    exact Answer.parse_placed hparse hset
  have hids := Answer.ids_nodup_of_parse hparse hset
  have hne := (Answer.exists_assemble_of_mem_parse hparse hset).1
  obtain ⟨o, _, ho, hstanding⟩ := standing_of_ready hb hlines hmod hc hready hcurrent
  obtain ⟨rows, offer, hinv, hend⟩ :=
    (Accepting.start ho hne).play hplaced hids hmoves hstanding
  rw [List.nil_append] at hinv
  have hholds := hinv.rewritten ▸ hend.holds
  refine ⟨hinv.nodup, hinv.known, hholds, ?_, fun hall => ?_, fun htexts => ?_⟩
  · have hleft := hinv.left
    have hcontext := hend.context
    cases offer with
    | none =>
      rw [Session.current?, hcontext, hleft]
      rfl
    | some o =>
      obtain ⟨c, hc, hpresents⟩ := hcontext
      rw [Session.current?, hc, Option.bind_some, hpresents.current?, hleft.1]
      rfl
  · rw [← taken_eq_self hall]
    exact hholds
  · obtain ⟨more, hmore, hnil⟩ :=
      hinv.exists_rest hplaced hids (by simpa using htexts) hend rfl
    refine ⟨more, hmore, ?_⟩
    rw [play_append]
    exact mem_of_pendingFrom_eq_nil hnil

/-- A session in which the set of a small answer is on offer. -/
def notes : Session :=
  { (default : Session) with
    buffers := ⟨[("notes", { lines := [['a'], ['b']].map Value.str })]⟩
    contexts := [("notes", { sets := [Answer.sampleSet], phase := .ready })] }

/-- The second item first, then the first one. -/
theorem notes_any_order :
    accepted (play "notes" notes [.cursor 2 0, .accept, .cursor 1 0, .accept]).2 = [2, 1] ∧
      (play "notes" notes [.cursor 2 0, .accept, .cursor 1 0, .accept]).1.buffers.Holds "notes"
        ([['x'], ['b'], ['c']].map Value.str) := by
  have hmoves : ∀ move ∈ [Move.cursor 2 0, .accept, .cursor 1 0, .accept], move.turns = false := by
    decide
  have hready : notes.context? "notes" = some { sets := [Answer.sampleSet], phase := .ready } := rfl
  have h := accept_any_order (s := notes) rfl rfl rfl Answer.parse_sample List.mem_cons_self hready
    rfl rfl hmoves
  exact ⟨rfl, h.2.2.2.2.1 (by decide +kernel)⟩

end Session

end GhostEdit
