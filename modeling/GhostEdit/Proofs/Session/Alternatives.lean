import GhostEdit.Proofs.Buffer.Tracking
import GhostEdit.Proofs.Session.Moves

/-!
# Accepting from several sets

An answer may hold several sets for one document, and a user may accept an item of one set, go to
another and accept an item of that. Accepting moves the items of the selected set only. The items of
the other sets stay at the rows they had, although the document below the accepted item has moved.

This file says exactly what that comes to. An item replaces the rows it was proposed for if, and
unless some row of it is gone already only if, those rows stand where the accepts from its own set
alone have put them. What is accepted from other sets must not have moved them.

## The invariant

`Alternating` says of each set what accepting did to it: what is left of it is `pending` in the
numbers accepted from that set, so its items stand where the items of that set alone would have
moved them. The rows themselves are followed through all accepts by `track`.

The same goes for the end of the document. What is left of a set ends within the document that its
own accepts make; accepts from other sets that shorten the document can leave it out of range.

## Main results

* `Session.accept_replaces_iff`: when an accept replaces the rows it should
* `Session.accept_displaced`: an accept that replaces others
-/

namespace GhostEdit

namespace Session

/-- The part of a record that is about one set. -/
def ofSet (i : Nat) (log : List (Nat × Item)) : List (Nat × Item) := log.filter (·.1 = i)

/-- Where a row of the document at the start of a run stands at its end. -/
def trackRun (log : List (Nat × Item)) (row : Int) : Option Int := track (log.map (·.2)) row

/-- By how many rows what was accepted lengthens a document. -/
def grownBy (log : List (Nat × Item)) : Int := growthOf (log.map (·.2))

/-- None of the rows an item was proposed for was replaced. -/
def Intact (log : List (Nat × Item)) (item : Item) : Prop :=
  ∀ row, item.replaces row = true → ∃ p, trackRun log row = some p

/-- All of the rows an item was proposed for were replaced. -/
def Replaced (log : List (Nat × Item)) (item : Item) : Prop :=
  ∀ row, item.replaces row = true → trackRun log row = none

/-- The rows an item was proposed for stand where the accepts from its own set have put them. -/
def Undisturbed (i : Nat) (log : List (Nat × Item)) (item : Item) : Prop :=
  ∀ row, item.replaces row = true → trackRun log row = trackRun (ofSet i log) row

theorem ofSet_append (i : Nat) (log more : List (Nat × Item)) :
    ofSet i (log ++ more) = ofSet i log ++ ofSet i more := List.filter_append log more

theorem ofSet_singleton_self (i : Nat) (x : Item) : ofSet i [(i, x)] = [(i, x)] := by
  simp [ofSet]

theorem ofSet_singleton_of_ne {i j : Nat} (h : j ≠ i) (x : Item) : ofSet i [(j, x)] = [] := by
  simp [ofSet, h]

theorem trackRun_concat (log : List (Nat × Item)) (i : Nat) (x : Item) (row : Int) :
    trackRun (log ++ [(i, x)]) row = (trackRun log row).bind x.carry := by
  rw [trackRun, List.map_append]
  exact track_concat _ x row

theorem grownBy_concat (log : List (Nat × Item)) (i : Nat) (x : Item) :
    grownBy (log ++ [(i, x)]) = grownBy log + x.growth := by
  simp [grownBy, growthOf_append]

/-- A run over a document for which sets are on offer. -/
structure Alternating (sets : List SuggestionSet) (document : List Value)
    (log : List (Nat × Item)) (rows : List Value) (offer : Option Offer) : Prop where
  /-- A row of the document that is there still reads as it did. -/
  kept : ∀ row p : Int, 1 ≤ row → row ≤ document.length → trackRun log row = some p →
    1 ≤ p ∧ rows[(p - 1).toNat]? = document[(row - 1).toNat]?
  /-- Of each set there is left what was not accepted from it. -/
  left : ∀ o, offer = some o → ∀ i set, sets[i]? = some set →
    o.sets[i]? = some (pending (accepted (ofSet i log)) set)
  length_sets : ∀ o, offer = some o → o.sets.length = sets.length
  /-- An item that is left was moved like its rows, as far as its own set goes. -/
  moved : ∀ i set, sets[i]? = some set → ∀ y ∈ pending (accepted (ofSet i log)) set,
    ∃ item ∈ set, ∃ d, y = item.shift d ∧
      ∀ row, item.replaces row = true → trackRun (ofSet i log) row = some (row + d)
  /-- As long as all accepts are from one set, they rewrite the document. -/
  alone : ∀ i set, sets[i]? = some set → ofSet i log = log →
    rows = rewriteRows (taken (accepted log) set) document
  /-- No row is lost but those that the accepts took out. -/
  length : (document.length : Int) + grownBy log ≤ rows.length
  /-- How long the document is that the accepts from one set alone make. -/
  length_alone : ∀ i set, sets[i]? = some set →
    ((rewriteRows (taken (accepted (ofSet i log)) set) document).length : Int)
      = document.length + grownBy (ofSet i log)

/-- The sets are proposed for a document: placed in it, with numbers of their own. -/
def Proposed (document : List Value) (sets : List SuggestionSet) : Prop :=
  ∀ set ∈ sets, Placed document.length set ∧ (set.map Item.id).Nodup

variable {sets : List SuggestionSet} {set : SuggestionSet} {document rows rows' : List Value}
  {log applied : List (Nat × Item)} {offer offer' : Option Offer} {move : Move} {o : Offer}
  {s : Session} {id : String} {i : Nat} {x : Item}

theorem Alternating.start (hsets : o.sets = sets) :
    Alternating sets document [] document (some o) := by
  refine ⟨?_, ?_, ?_, ?_, ?_, ?_, ?_⟩
  · rintro row p hrow hlen hp
    cases hp
    exact ⟨hrow, rfl⟩
  · intro _ ho i set hset
    cases ho
    show o.sets[i]? = some (pending [] set)
    rw [hsets, hset, pending_nil_left]
  · intro _ ho
    cases ho
    rw [hsets]
  · intro i set hset y hy
    have hy : y ∈ pending [] set := hy
    rw [pending_nil_left] at hy
    refine ⟨y, hy, 0, y.shift_zero.symm, fun row _ => ?_⟩
    show some row = some (row + 0)
    rw [Int.add_zero]
  · intro i set hset _
    show document = rewriteRows (taken [] set) document
    rw [taken_nil_left, rewriteRows_nil]
  · exact Int.le_of_eq (Int.add_zero _)
  · intro i set _
    show ((rewriteRows (taken [] set) document).length : Int) = document.length + 0
    rw [taken_nil_left, rewriteRows_nil, Int.add_zero]

/-- The numbers accepted from a set after one more item was. -/
theorem accepted_ofSet_concat (log : List (Nat × Item)) (i : Nat) (x : Item) :
    accepted (ofSet i (log ++ [(i, x)])) = accepted (ofSet i log) ++ [x.id] := by
  rw [ofSet_append, ofSet_singleton_self, accepted_append]
  rfl

theorem ofSet_concat_of_ne {j : Nat} (h : j ≠ i) (log : List (Nat × Item)) (x : Item) :
    ofSet i (log ++ [(j, x)]) = ofSet i log := by
  rw [ofSet_append, ofSet_singleton_of_ne h, List.append_nil]

/-- A record that is all about one set was so before its last entry. -/
theorem ofSet_eq_self_of_concat {j : Nat} (h : ofSet i (log ++ [(j, x)]) = log ++ [(j, x)]) :
    j = i ∧ ofSet i log = log := by
  have hall := List.filter_eq_self.mp h
  refine ⟨of_decide_eq_true (hall (j, x) (by simp)), List.filter_eq_self.mpr ?_⟩
  intro entry hentry
  exact hall entry (List.mem_append_left _ hentry)

/-- What is left of a set on offer is placed in the document that its own accepts alone make. -/
theorem Alternating.exists_placed (hproposed : Proposed document sets)
    (h : Alternating sets document log rows (some o)) {left : SuggestionSet}
    (hleft : o.sets[i]? = some left) :
    ∃ set ∈ sets, sets[i]? = some set ∧ left = pending (accepted (ofSet i log)) set ∧
      Placed (rewriteRows (taken (accepted (ofSet i log)) set) document).length left := by
  have hlt := (List.getElem?_eq_some_iff.mp hleft).1
  rw [h.length_sets o rfl] at hlt
  have hset : sets[i]? = some sets[i] := List.getElem?_eq_getElem hlt
  obtain rfl := Option.some.inj (hleft.symm.trans (h.left o rfl _ _ hset))
  exact ⟨sets[i], List.getElem_mem hlt, hset, rfl,
    pending_placed (hproposed _ (List.getElem_mem hlt)).1⟩

section Step

variable {before after : SuggestionSet}

/-- What the accepted item does to a row that another item of its set is about. -/
theorem trackRun_concat_of_pending {size : Nat} {gone : List Int}
    (hplaced : Placed size (before ++ x :: after))
    (hmoved : ∀ y ∈ before ++ x :: after, ∃ item ∈ set, ∃ d, y = item.shift d ∧
      ∀ row, item.replaces row = true → trackRun log row = some (row + d))
    (hleft : pending gone set = before ++ after.map (Item.shift x.growth)) :
    ∀ y ∈ pending gone set, ∃ item ∈ set, ∃ d, y = item.shift d ∧
      ∀ row, item.replaces row = true → trackRun (log ++ [(i, x)]) row = some (row + d) := by
  obtain ⟨_, hbelow, habove⟩ := List.pairwise_append.mp hplaced.apart
  have hbelow := (List.pairwise_cons.mp hbelow).1
  have hstop := x.stopRow_le_lastRow_add_one
  have hx := (hplaced.fits x (by simp)).firstRow_le_startRow
  intro y hy
  rw [hleft, List.mem_append, List.mem_map] at hy
  rcases hy with hy | ⟨z, hz, rfl⟩
  · -- above it the row stays
    obtain ⟨item, hitem, d, rfl, hrows⟩ := hmoved y (List.mem_append_left _ hy)
    refine ⟨item, hitem, d, rfl, fun row hrow => ?_⟩
    have hlast := habove _ hy x List.mem_cons_self
    have hend := (item.shift d).stopRow_le_lastRow_add_one
    have hmem := Item.replaces_iff.mp hrow
    rw [Item.stopRow_shift] at hend
    rw [trackRun_concat, hrows row hrow, Option.bind_some, Item.carry_of_lt (by omega)]
  · -- below it the row moves as the item does
    obtain ⟨item, hitem, d, rfl, hrows⟩ := hmoved z (by simp [hz])
    refine ⟨item, hitem, d + x.growth, Item.shift_shift _ _ _, fun row hrow => ?_⟩
    have hfirst := hbelow _ hz
    have hstart := (hplaced.fits (item.shift d) (by simp [hz])).firstRow_le_startRow
    have hmem := Item.replaces_iff.mp hrow
    rw [Item.startRow_shift] at hstart
    rw [trackRun_concat, hrows row hrow, Option.bind_some, Item.carry_of_ge (by omega),
      Int.add_assoc]

/-- **One move** keeps the invariant. -/
theorem Alternating.step (hproposed : Proposed document sets)
    (h : Alternating sets document log rows offer)
    (heffect : Effect rows offer move applied rows' offer') :
    Alternating sets document (log ++ applied) rows' offer' := by
  cases heffect with
  | stay => rwa [List.append_nil]
  | @turn o _ index _ _ =>
    rw [List.append_nil]
    refine ⟨h.kept, ?_, ?_, h.moved, h.alone, h.length, h.length_alone⟩
    · intro _ ho
      cases ho
      exact h.left o rfl
    · intro _ ho
      cases ho
      exact h.length_sets o rfl
  | @apply o before after x hselected =>
    obtain ⟨selected, hmem, hset, hsplit, hstands⟩ := h.exists_placed hproposed hselected
    obtain ⟨hplaced, hids⟩ := hproposed selected hmem
    have hone := (hstands.fits x (by simp)).one_le_startRow
    have hnext := shiftBelow_pending hplaced hids hsplit.symm
    have hrest := hnext.symm.trans (shiftBelow_of_placed hstands _)
    refine ⟨?_, ?_, ?_, ?_, ?_, ?_, ?_⟩
    · intro row p hrow hlen hp
      rw [trackRun_concat] at hp
      obtain ⟨q, hq, hp⟩ := Option.bind_eq_some_iff.mp hp
      obtain ⟨hq1, htext⟩ := h.kept row q hrow hlen hq
      have hin : (row - 1).toNat < document.length := by omega
      have hthere := (List.getElem?_eq_some_iff.mp
        (htext.trans (List.getElem?_eq_getElem hin))).1
      refine ⟨Item.one_le_of_carry hone hq1 hp, ?_⟩
      rw [Buffer.getElem?_applyRows_of_carry hone hq1 (by omega) hp]
      exact htext
    · intro o' hkeep i set hseti
      obtain ⟨_, rfl⟩ := Offer.eq_of_keep hkeep
      by_cases hi : o.index = i
      · subst hi
        obtain rfl := Option.some.inj (hset.symm.trans hseti)
        rw [accepted_ofSet_concat, ← hnext]
        exact List.getElem?_set_self (List.getElem?_eq_some_iff.mp hselected).1
      · rw [ofSet_concat_of_ne hi]
        exact (List.getElem?_set_ne hi).trans (h.left o rfl i set hseti)
    · intro o' hkeep
      obtain ⟨_, rfl⟩ := Offer.eq_of_keep hkeep
      exact List.length_set.trans (h.length_sets o rfl)
    · intro i set hseti
      by_cases hi : o.index = i
      · subst hi
        obtain rfl := Option.some.inj (hset.symm.trans hseti)
        have hmoved := h.moved _ _ hset
        rw [← hsplit] at hmoved
        rw [accepted_ofSet_concat, ofSet_append, ofSet_singleton_self]
        exact trackRun_concat_of_pending hstands hmoved hrest
      · rw [ofSet_concat_of_ne hi]
        exact h.moved i set hseti
    · intro i set hseti hall
      obtain ⟨rfl, hlog⟩ := ofSet_eq_self_of_concat hall
      obtain rfl := Option.some.inj (hset.symm.trans hseti)
      rw [hlog] at hsplit
      rw [h.alone _ _ hset hlog, applyRows_pending hplaced hids hsplit.symm, accepted_append]
      rfl
    · have hlength := h.length
      rw [grownBy_concat, Buffer.length_applyRows hone]
      omega
    · intro i set hseti
      by_cases hi : o.index = i
      · subst hi
        obtain rfl := Option.some.inj (hset.symm.trans hseti)
        have hstop := (hstands.fits x (by simp)).stopRow_le
        have hlength := h.length_alone _ _ hset
        rw [accepted_ofSet_concat, ofSet_append, ofSet_singleton_self, grownBy_concat,
          ← applyRows_pending hplaced hids hsplit.symm, Buffer.length_applyRows hone]
        omega
      · rw [ofSet_concat_of_ne hi]
        exact h.length_alone i set hseti

end Step

theorem Alternating.play (hproposed : Proposed document sets) (moves : List Move)
    (h : Alternating sets document log rows offer) (hstanding : Standing s id rows offer) :
    ∃ rows' offer', Alternating sets document (log ++ (Session.play id s moves).2) rows' offer' ∧
      Standing (Session.play id s moves).1 id rows' offer' := by
  refine Standing.play ?_ ?_ hstanding h
  · intro log rows o selected hinv hselected
    obtain ⟨_, _, _, _, hplaced⟩ := hinv.exists_placed hproposed hselected
    exact ⟨_, hplaced⟩
  · intro log rows offer move applied rows' offer' _ hinv
    exact hinv.step hproposed

/-- The item that an accept applies is an item of its set, moved by what was accepted from that
set. -/
theorem Alternating.exists_shift (hproposed : Proposed document sets)
    (h : Alternating sets document log rows offer)
    (heffect : Effect rows offer move [(i, x)] rows' offer') :
    rows' = Buffer.applyRows x rows ∧ 1 ≤ x.startRow ∧
      ∃ set item d, sets[i]? = some set ∧ item ∈ set ∧ x = item.shift d ∧
        item.Fits document.length ∧
        ∀ row, item.replaces row = true → trackRun (ofSet i log) row = some (row + d) := by
  cases heffect with
  | @apply o before after _ hselected =>
    obtain ⟨set, hmem, hset, hsplit, hstands⟩ := h.exists_placed hproposed hselected
    obtain ⟨item, hitem, d, hx, hrows⟩ := h.moved _ _ hset x (by rw [← hsplit]; simp)
    exact ⟨rfl, (hstands.fits x (by simp)).one_le_startRow, set, item, d, hset, hitem, hx,
      (hproposed set hmem).1.fits item hitem, hrows⟩

theorem replaced_iff_undisturbed {item : Item} {d : Int} (hx : x = item.shift d)
    (hrows : ∀ row, item.replaces row = true → trackRun (ofSet i log) row = some (row + d))
    (hintact : Intact log item) :
    Replaced (log ++ [(i, x)]) item ↔ Undisturbed i log item := by
  have hiff := track_concat_eq_none_iff hx hintact
  constructor
  · intro hreplaced row hrow
    rw [hrows row hrow]
    refine hiff.mp (fun row hrow => ?_) row hrow
    rw [track_concat, ← trackRun, ← trackRun_concat log i x row]
    exact hreplaced row hrow
  · intro hstill row hrow
    rw [trackRun_concat, trackRun, ← track_concat]
    refine hiff.mpr (fun row hrow => ?_) row hrow
    exact (hstill row hrow).trans (hrows row hrow)

theorem Alternating.cut_eq {item : Item} {d : Int} (h : Alternating sets document log rows offer)
    (hx : x = item.shift d) (hone : 1 ≤ x.startRow) (hfits : item.Fits document.length)
    (hrows : ∀ row, item.replaces row = true → trackRun (ofSet i log) row = some (row + d))
    (hstill : Undisturbed i log item) : x.cut rows = item.cut document := by
  have hstart := hfits.one_le_startRow
  have hstop := hfits.stopRow_le
  refine Item.cut_shift hx hstart hone fun row hrow => ?_
  have hmem := Item.replaces_iff.mp hrow
  exact (h.kept row (row + d) (by omega) (by omega)
    ((hstill row hrow).trans (hrows row hrow))).2

/-- An item whose rows are in order stands in a document exactly when it ends there. -/
theorem fits_iff_stopRow_le {size n : Nat} {y : Item} (h : y.Fits size) :
    y.Fits n ↔ y.stopRow ≤ n + 1 := by
  constructor
  · exact Item.Fits.stopRow_le
  · intro hstop
    have hspan := y.startRow_le_stopRow
    have hend := y.endRow_lt_stopRow
    exact ⟨h.one_le_firstRow, h.firstRow_le_startRow, by omega, by omega⟩

/-- What is on offer from another set after an accept is what was on offer before. -/
theorem sets_of_keep {t : Session} {c : Context} {left kept : SuggestionSet} {j : Nat}
    (h : Standing t id rows (o.keep kept)) (hc : t.context? id = some c) (hj : j ≠ o.index)
    (hleft : o.sets[j]? = some left) : c.sets[j]? = some left := by
  have hcontext := h.context
  cases hkeep : o.keep kept with
  | none =>
    rw [hkeep] at hcontext
    rw [show t.context? id = none from hcontext] at hc
    cases hc
  | some o' =>
    rw [hkeep] at hcontext
    obtain ⟨c', hc', hpresents⟩ := hcontext
    obtain rfl := Option.some.inj (hc.symm.trans hc')
    obtain ⟨_, rfl⟩ := Offer.eq_of_keep hkeep
    rw [hpresents.sets]
    exact (List.getElem?_set_ne (Ne.symm hj)).trans hleft

/-- **Accepting from several sets.** The sets of an answer are on offer for the document the answer
is about, and any moves follow. A row that was not replaced reads as it did. If an accept then
applies an item, and the rows this was proposed for are there, it replaces them exactly when they
stand where the accepts from its own set alone have put them; then what it takes out is what they
read. An item of another set, which stays where it is, then stands in the document exactly when the
accept has not moved the end of the document above it. So an item that is left falls out of the
document only if accepts from other sets have shortened that on the whole, and all items of a set
stand in it if nothing was accepted from the others. -/
theorem accept_replaces_iff {b : Buffer} {c : Context} {texts : List Text} {answer : Text}
    {moves : List Move} {t : Session} (hb : s.buffers.get? id = some b)
    (hlines : b.lines = texts.map Value.str) (hmod : b.modifiable = true)
    (hparse : Answer.parse answer texts = .ok sets) (hc : s.context? id = some c)
    (hready : c.phase = .ready) (hsets : c.sets = sets) (hcurrent : c.current? = some set)
    (hplay : play id s moves = (t, log)) :
    ∃ rows, t.buffers.Holds id rows ∧
      (∀ row p : Int, 1 ≤ row → row ≤ texts.length → trackRun log row = some p →
        rows[(p - 1).toNat]? = (texts.map Value.str)[(row - 1).toNat]?) ∧
      (∀ i x, (perform id t .accept).2 = [(i, x)] →
        (perform id t .accept).1.buffers.Holds id (Buffer.applyRows x rows) ∧
        ∃ set item d, sets[i]? = some set ∧ item ∈ set ∧ x = item.shift d ∧
          (Intact log item → (Replaced (log ++ [(i, x)]) item ↔ Undisturbed i log item)) ∧
          (Undisturbed i log item → x.cut rows = item.cut (texts.map Value.str)) ∧
          ∀ c c', t.context? id = some c → (perform id t .accept).1.context? id = some c' →
            ∀ (j : Nat) left, j ≠ i → c.sets[j]? = some left →
              c'.sets[j]? = some left ∧
              ∀ y ∈ left, y.Fits (Buffer.applyRows x rows).length ↔
                y.stopRow ≤ max ((rows.length : Int) + 1) x.stopRow + x.growth) ∧
      ∀ c, t.context? id = some c → ∀ (i : Nat) left, c.sets[i]? = some left →
        (∀ y ∈ left, ¬ y.Fits rows.length → grownBy log < grownBy (ofSet i log)) ∧
        (ofSet i log = log → Placed rows.length left) := by
  have hproposed : Proposed (texts.map Value.str) sets := by
    intro set hset
    rw [List.length_map]
    exact ⟨Answer.parse_placed hparse hset, Answer.ids_nodup_of_parse hparse hset⟩
  obtain ⟨o, ho, _, hstanding⟩ := standing_of_ready hb hlines hmod hc hready hcurrent
  obtain ⟨rows, offer, hinv, hend⟩ :=
    (Alternating.start (ho.trans hsets)).play hproposed moves hstanding
  rw [hplay, List.nil_append] at hinv
  rw [hplay] at hend
  refine ⟨rows, hend.holds, ?_, ?_, ?_⟩
  · intro row p hrow hlen hp
    exact (hinv.kept row p hrow (by rwa [List.length_map]) hp).2
  · intro i x happlied
    have hselected : ∀ o set, offer = some o → o.sets[o.index]? = some set →
        ∃ size, Placed size set := by
      rintro o set rfl hset
      obtain ⟨_, _, _, _, hplaced⟩ := hinv.exists_placed hproposed hset
      exact ⟨_, hplaced⟩
    obtain ⟨rows', offer', heffect, hnext⟩ := hend.perform hselected .accept
    rw [happlied] at heffect
    obtain ⟨rfl, hone, set, item, d, hset, hitem, hx, hfits, hrows⟩ :=
      hinv.exists_shift hproposed heffect
    refine ⟨hnext.holds, set, item, d, hset, hitem, hx, replaced_iff_undisturbed hx hrows,
      hinv.cut_eq hx hone hfits hrows, fun c c' hc hc' j left hj hleft => ?_⟩
    cases heffect with
    | @apply o before after _ _ =>
      obtain ⟨c₀, hc₀, hpresents⟩ := hend.context
      obtain rfl := Option.some.inj (hc.symm.trans hc₀)
      rw [hpresents.sets] at hleft
      refine ⟨sets_of_keep hnext hc' hj hleft, fun y hy => ?_⟩
      obtain ⟨_, _, _, _, hplaced⟩ := hinv.exists_placed hproposed hleft
      rw [fits_iff_stopRow_le (hplaced.fits y hy), Buffer.length_applyRows hone]
      omega
  · intro c hc i left hleft
    have hcontext := hend.context
    cases offer with
    | none => rw [show t.context? id = none from hcontext] at hc; cases hc
    | some o =>
      obtain ⟨c', hc', hpresents⟩ := hcontext
      obtain rfl := Option.some.inj (hc.symm.trans hc')
      rw [hpresents.sets] at hleft
      obtain ⟨set, _, hset, hpending, hplaced⟩ := hinv.exists_placed hproposed hleft
      refine ⟨fun y hy hout => ?_, fun halone => ?_⟩
      · have hstop := (hplaced.fits y hy).stopRow_le
        have hpast := mt (fits_iff_stopRow_le (n := rows.length) (hplaced.fits y hy)).mpr hout
        have hall := hinv.length
        have hown := hinv.length_alone i set hset
        dsimp only at hall hown hstop
        omega
      · rw [halone, ← hinv.alone i set hset halone] at hplaced
        exact hplaced

/-- An answer with two sets for a document of three rows. The first item of the first set lengthens
the document, and the item of the second set is below it. -/
def alternatives : Text :=
  ("[[\x7b\"content\": \"x\\ny\", \"start_row\": 1, \"end_row\": 1\x7d, "
    ++ "\x7b\"content\": \"w\", \"start_row\": 3, \"end_row\": 3\x7d], "
    ++ "[\x7b\"content\": \"z\", \"start_row\": 2, \"end_row\": 2\x7d]]").toList

/-- A session in which the sets of that answer are on offer. -/
def draft : Session :=
  { (default : Session) with
    buffers := ⟨[("draft", { lines := [['a'], ['b'], ['c']].map Value.str })]⟩
    contexts := [("draft",
      { sets := [[⟨1, ['x', '\n', 'y'], 1, 1, 1⟩, ⟨2, ['w'], 3, 3, 3⟩], [⟨1, ['z'], 2, 2, 2⟩]]
        phase := .ready })] }

theorem parse_alternatives : Answer.parse alternatives [['a'], ['b'], ['c']]
    = .ok [[⟨1, ['x', '\n', 'y'], 1, 1, 1⟩, ⟨2, ['w'], 3, 3, 3⟩], [⟨1, ['z'], 2, 2, 2⟩]] :=
  Answer.eq_ok_of_toOption (by decide +kernel)

/-- The item of the second set is about one row. -/
theorem eq_two_of_replaces {row : Int}
    (h : (⟨1, ['z'], 2, 2, 2⟩ : Item).replaces row = true) : row = 2 := by
  have hmem := Item.replaces_iff.mp h
  have hstart : 2 ≤ row := hmem.1
  have hstop : row < 3 := hmem.2
  omega

/-- The item of the other set replaces its row after an accept that left the row where it was. -/
theorem draft_undisturbed :
    ∃ rows, (play "draft" draft [.cursor 3 0, .accept, .next, .cursor 2 0]).1.buffers.Holds
        "draft" rows ∧
      (⟨1, ['z'], 2, 2, 2⟩ : Item).cut rows = [Value.str ['b']] := by
  have hplay : play "draft" draft [.cursor 3 0, .accept, .next, .cursor 2 0] = (_, _) := rfl
  obtain ⟨rows, hholds, _, haccept, _⟩ :=
    accept_replaces_iff rfl rfl rfl parse_alternatives rfl rfl rfl rfl hplay
  obtain ⟨_, set, item, d, hset, hitem, hx, _, hcut, _⟩ := haccept 1 ⟨1, ['z'], 2, 2, 2⟩ rfl
  cases hset
  obtain rfl := List.mem_singleton.mp hitem
  refine ⟨rows, hholds, hcut fun row hrow => ?_⟩
  rw [eq_two_of_replaces hrow]
  rfl

/-- **The item of another set is left behind.** After the accept of the first item the row of the
other set's item is the third one. It is there still, but accepting the item takes out the second
row, which the first item brought, and leaves the row it was proposed for. -/
theorem accept_displaced :
    Answer.parse alternatives [['a'], ['b'], ['c']]
        = .ok [[⟨1, ['x', '\n', 'y'], 1, 1, 1⟩, ⟨2, ['w'], 3, 3, 3⟩], [⟨1, ['z'], 2, 2, 2⟩]] ∧
      Intact (play "draft" draft [.accept, .next]).2 ⟨1, ['z'], 2, 2, 2⟩ ∧
      ((play "draft" draft [.accept, .next]).1.accept "draft").2 = .ok .applied ∧
      (play "draft" draft [.accept, .next]).1.picked? "draft" = some (1, ⟨1, ['z'], 2, 2, 2⟩) ∧
      (play "draft" draft [.accept, .next]).1.buffers.Holds "draft"
        ([['x'], ['y'], ['b'], ['c']].map Value.str) ∧
      (play "draft" draft [.accept, .next, .accept]).1.buffers.Holds "draft"
        ([['x'], ['z'], ['b'], ['c']].map Value.str) ∧
      (⟨1, ['z'], 2, 2, 2⟩ : Item).cut ([['x'], ['y'], ['b'], ['c']].map Value.str)
        ≠ (⟨1, ['z'], 2, 2, 2⟩ : Item).cut ([['a'], ['b'], ['c']].map Value.str) := by
  refine ⟨parse_alternatives, ?_, rfl, rfl, ⟨_, rfl, rfl, rfl⟩, ⟨_, rfl, rfl, rfl⟩, ?_⟩
  · intro row hrow
    rw [eq_two_of_replaces hrow]
    exact ⟨3, rfl⟩
  · show [Value.str ['y']] ≠ [Value.str ['b']]
    simp

end Session

end GhostEdit
