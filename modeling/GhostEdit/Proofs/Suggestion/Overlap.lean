import GhostEdit.Proofs.Suggestion.Trimming
import Mathlib.Data.List.Nodup

/-!
# Which candidates become items

Candidates are put in order of their start rows, and then one pass decides which of them are kept.
The pass sees only the last row of the candidate it kept before, and compares it with the row a
candidate was proposed for, which trimming may have left far above the row it starts at. This file
says what comes of it, without the pass: nothing is dropped that does not meet something kept.

## Why comparing with the last one is enough

The candidates come in order of the rows they *start* at, not of the rows they were proposed for, so
a candidate may reach up beyond the one kept before it. It still meets that one and no other has to
be looked at: it starts no higher than the one kept before, and if its proposed row is not below the
last row of that one, the two have a row in common.

## Why the order of the values is forgotten

Sorting keeps the order of candidates that start in the same row, and nothing else of the order they
came in. Of such candidates at most one is kept, and which one is the only thing the order can
decide.

## Main definitions

* `Item.Meets`: two items whose spans have a row in common
* `Item.unnumbered`: an item as it was before its set was numbered

## Main results

* `Assembly.pairwise_sortByRow`, `Assembly.sortByRow_eq_of_perm`: sorting forgets the order
* `Assembly.keepDisjoint_perm`, `Assembly.exists_kept_of_dropped`: what the pass drops, and why
* `Assembly.build_spares`: what is missing in a set meets what is there
* `Assembly.build_forgets_order`: sets of the same values in another order
-/

namespace GhostEdit

/-! ## Spans -/

namespace Item

/-- The spans of two items have a row in common. -/
def Meets (a b : Item) : Prop := ∃ row, a.Spans row ∧ b.Spans row

/-- The item as it was before its set was numbered. -/
def unnumbered (item : Item) : Item := { item with id := 0 }

theorem Meets.symm {a b : Item} (h : a.Meets b) : b.Meets a := by
  obtain ⟨row, ha, hb⟩ := h
  exact ⟨row, hb, ha⟩

/-- Two items of which neither was proposed below the last row of the other meet. -/
theorem meets_of_le {a b : Item} (ha : a.firstRow ≤ a.lastRow) (hb : b.firstRow ≤ b.lastRow)
    (hab : a.firstRow ≤ b.lastRow) (hba : b.firstRow ≤ a.lastRow) : a.Meets b :=
  ⟨max a.firstRow b.firstRow, ⟨Int.le_max_left _ _, Int.max_le.mpr ⟨ha, hba⟩⟩,
    Int.le_max_right _ _, Int.max_le.mpr ⟨hab, hb⟩⟩

/-- An item that ends above another one does not meet it. -/
theorem not_meets_of_lt {a b : Item} (h : a.lastRow < b.firstRow) : ¬ a.Meets b := by
  rintro ⟨row, ⟨-, ha⟩, hb, -⟩
  omega

end Item

namespace Assembly

variable {raws raws' : List Value} {current : List Text} {items items' : List Item}

/-! ## Candidates -/

theorem mem_candidates_iff {item : Item} :
    item ∈ candidates raws current ↔
      ∃ raw ∈ raws, ∃ d, Draft.ofValue? raw = some d ∧ d.Survives current ∧
        item = d.item current 0 := by
  simp only [candidates, List.mem_filterMap, item?_judge_eq_some_iff]

/-- A candidate has no number yet. -/
theorem unnumbered_of_mem_candidates {item : Item} (h : item ∈ candidates raws current) :
    item.unnumbered = item := by
  obtain ⟨raw, -, d, -, -, rfl⟩ := mem_candidates_iff.mp h
  rfl

theorem map_unnumbered_of_subset (h : items ⊆ candidates raws current) :
    items.map Item.unnumbered = items := by
  refine (List.map_congr_left fun item hitem => ?_).trans (List.map_id items)
  exact unnumbered_of_mem_candidates (h hitem)

theorem map_unnumbered_number (first : Nat) (items : List Item) :
    (number first items).map Item.unnumbered = items.map Item.unnumbered := by
  induction items generalizing first with
  | nil => rfl
  | cons item rest ih =>
    rw [number, List.map_cons, List.map_cons, ih]
    rfl

theorem exists_mem_number_of_mem {item : Item} (h : item ∈ items) (first : Nat) :
    ∃ n : Nat, { item with id := n } ∈ number first items := by
  induction items generalizing first with
  | nil => cases h
  | cons next rest ih =>
    rcases List.mem_cons.mp h with rfl | h
    · exact ⟨first, List.mem_cons_self⟩
    · obtain ⟨n, hn⟩ := ih h (first + 1)
      exact ⟨n, List.mem_cons_of_mem _ hn⟩

/-! ## Sorting -/

theorem pairwise_insertByRow (item : Item)
    (h : items.Pairwise fun a b => a.startRow ≤ b.startRow) :
    (insertByRow item items).Pairwise fun a b => a.startRow ≤ b.startRow := by
  induction items with
  | nil => exact List.pairwise_singleton _ _
  | cons next rest ih =>
    obtain ⟨hnext, hrest⟩ := List.pairwise_cons.mp h
    unfold insertByRow
    split
    · next hle =>
      refine List.pairwise_cons.mpr ⟨fun x hx => ?_, h⟩
      rcases List.mem_cons.mp hx with rfl | hx
      · exact hle
      · exact Int.le_trans hle (hnext x hx)
    · next hlt =>
      refine List.pairwise_cons.mpr ⟨fun x hx => ?_, ih hrest⟩
      rcases List.mem_cons.mp ((insertByRow_perm item rest).mem_iff.mp hx) with rfl | hx
      · omega
      · exact hnext x hx

theorem pairwise_sortByRow (items : List Item) :
    (sortByRow items).Pairwise fun a b => a.startRow ≤ b.startRow := by
  induction items with
  | nil => exact List.Pairwise.nil
  | cons item rest ih => exact pairwise_insertByRow item ih

/-- **Sorting forgets the order**, unless two items start in the same row. -/
theorem sortByRow_eq_of_perm (h : items.Perm items') (hrows : (items.map Item.startRow).Nodup) :
    sortByRow items = sortByRow items' := by
  have hsorted := (sortByRow_perm items).trans (h.trans (sortByRow_perm items').symm)
  refine hsorted.eq_of_pairwise (fun a b ha hb hab hba => ?_) (pairwise_sortByRow items)
    (pairwise_sortByRow items')
  refine List.inj_on_of_nodup_map hrows ((sortByRow_perm items).mem_iff.mp ha) ?_
    (Int.le_antisymm hab hba)
  exact h.mem_iff.mpr ((sortByRow_perm items').mem_iff.mp hb)

/-! ## Keeping and dropping -/

/-- Every item is either kept or dropped. -/
theorem keepDisjoint_perm (bound : Option Int) (items : List Item) :
    ((keepDisjoint bound items).1 ++ (keepDisjoint bound items).2).Perm items := by
  induction items generalizing bound with
  | nil => exact List.Perm.nil
  | cons item rest ih =>
    unfold keepDisjoint
    split
    · exact List.perm_middle.trans ((ih bound).cons item)
    · exact (ih (some item.lastRow)).cons item

/-- **What is dropped meets something kept**, or was proposed in or above the bound that the pass
started with. By induction on the items: the bound is at first the given one and then the last row
of the item kept before, which starts no lower than those that come after it. -/
theorem exists_kept_of_dropped (hsorted : items.Pairwise fun a b => a.startRow ≤ b.startRow)
    (hitems : ∀ item ∈ items, item.firstRow ≤ item.startRow) {bound : Option Int} {item : Item}
    (h : item ∈ (keepDisjoint bound items).2) :
    (∃ row ∈ bound, item.firstRow ≤ row) ∨
      ∃ kept ∈ (keepDisjoint bound items).1, kept.startRow ≤ item.startRow ∧ kept.Meets item := by
  induction items generalizing bound with
  | nil => cases h
  | cons next rest ih =>
    obtain ⟨hnext, hrest⟩ := List.pairwise_cons.mp hsorted
    have htail : ∀ x ∈ rest, x.firstRow ≤ x.startRow :=
      fun x hx => hitems x (List.mem_cons_of_mem next hx)
    unfold keepDisjoint at h ⊢
    split at h
    · next hreach =>
      rw [if_pos hreach]
      rcases List.mem_cons.mp h with rfl | h
      · cases bound with
        | none => cases hreach
        | some row => exact .inl ⟨row, rfl, of_decide_eq_true hreach⟩
      · exact ih hrest htail h
    · next hreach =>
      rw [if_neg hreach]
      rcases ih hrest htail h with ⟨row, hrow, hle⟩ | ⟨kept, hkept, hstart, hmeets⟩
      · -- the item is dropped because of `next`
        cases hrow
        have hmem : item ∈ rest := by
          refine (keepDisjoint_perm (some next.lastRow) rest).mem_iff.mp ?_
          exact List.mem_append_right _ h
        have hstart := hnext item hmem
        have hfirst := hitems next List.mem_cons_self
        have hbelow := htail item hmem
        have hlast := next.startRow_le_lastRow
        have hend := item.startRow_le_lastRow
        exact .inr ⟨next, List.mem_cons_self, hstart,
          Item.meets_of_le (by omega) (by omega) (by omega) hle⟩
      · exact .inr ⟨kept, List.mem_cons_of_mem next hkept, hstart, hmeets⟩

/-! ## The set -/

/-- The candidates that the set of a list of values has no item for. -/
def dropped (raws : List Value) (current : List Text) : List Item :=
  (keepDisjoint none (sortByRow (candidates raws current))).2

/-- The candidates are the items of the set and what was dropped. -/
theorem candidates_perm (raws : List Value) (current : List Text) :
    (candidates raws current).Perm
      ((build (.arr raws) current).map Item.unnumbered ++ dropped raws current) := by
  have hall := (keepDisjoint_perm none _).trans (sortByRow_perm (candidates raws current))
  have hdropped : dropped raws current ⊆ candidates raws current :=
    fun item hitem => hall.mem_iff.mp (List.mem_append_right _ hitem)
  have hnumbered := hall.symm.map Item.unnumbered
  rw [map_unnumbered_of_subset (List.Subset.refl _), List.map_append] at hnumbered
  rw [build, assemble, map_unnumbered_number, ← map_unnumbered_of_subset hdropped]
  exact hnumbered

theorem exists_meets_of_mem_dropped {item : Item} (h : item ∈ dropped raws current) :
    ∃ kept ∈ build (.arr raws) current, kept.startRow ≤ item.startRow ∧ kept.Meets item := by
  have hfits : ∀ x ∈ sortByRow (candidates raws current), x.firstRow ≤ x.startRow :=
    fun x hx => (candidates_fit ((sortByRow_perm _).mem_iff.mp hx)).1.firstRow_le_startRow
  rcases exists_kept_of_dropped (pairwise_sortByRow _) hfits h with ⟨row, hrow, -⟩ | hkept
  · cases hrow
  · obtain ⟨kept, hmem, hstart, hmeets⟩ := hkept
    obtain ⟨n, hn⟩ := exists_mem_number_of_mem hmem 1
    exact ⟨_, hn, hstart, hmeets⟩

/-- If no two candidates meet, nothing is dropped. -/
theorem dropped_eq_nil
    (h : (candidates raws current).Pairwise fun a b => ¬ a.Meets b) :
    dropped raws current = [] := by
  refine List.eq_nil_iff_forall_not_mem.mpr fun item hitem => ?_
  obtain ⟨kept, hkept, -, hmeets⟩ := exists_meets_of_mem_dropped hitem
  have hapart := (candidates_perm raws current).pairwise h fun hab hba => hab hba.symm
  have hcross := (List.pairwise_append.mp hapart).2.2
  exact hcross kept.unnumbered (List.mem_map_of_mem hkept) item hitem hmeets

/-- **Nothing is dropped that need not be.** Whatever the values and the rows of the buffer are, the
candidates are the items of the drafts that survive trimming. Each of them is either in the set,
with a number, or dropped; every dropped one meets an item of the set that starts no lower; and if
no two candidates meet, all of them are in the set. -/
theorem build_spares (raws : List Value) (current : List Text) :
    (∀ item, item ∈ candidates raws current ↔
        ∃ raw ∈ raws, ∃ d, Draft.ofValue? raw = some d ∧ d.Survives current ∧
          item = d.item current 0) ∧
      (candidates raws current).Perm
        ((build (.arr raws) current).map Item.unnumbered ++ dropped raws current) ∧
      (∀ item ∈ dropped raws current,
        ∃ kept ∈ build (.arr raws) current, kept.startRow ≤ item.startRow ∧ kept.Meets item) ∧
      ((candidates raws current).Pairwise (fun a b => ¬ a.Meets b) →
        (candidates raws current).Perm ((build (.arr raws) current).map Item.unnumbered)) := by
  refine ⟨fun item => mem_candidates_iff, candidates_perm raws current,
    fun item hitem => exists_meets_of_mem_dropped hitem, fun h => ?_⟩
  have hall := candidates_perm raws current
  rwa [dropped_eq_nil h, List.append_nil] at hall

/-- An edit of some rows, as an answer states it. -/
def proposed (content : String) (start stop : Nat) : Value :=
  .obj [Value.member "content" (.ofString content), Value.member "start_row" (.int start),
    Value.member "end_row" (.int stop)]

/-- The first proposal starts in row 2, where nothing else is, and was proposed for row 1; the
second one takes row 1 from it. The last one is apart from both. -/
def crowd : List Value := [proposed "a\nq" 1 2, proposed "w" 1 1, proposed "z" 4 9]

theorem crowd_spared :
    build (.arr crowd) [['a'], ['b'], ['c'], ['d']]
        = [{ id := 1, content := ['w'], startRow := 1, endRow := 1, firstRow := 1 },
          { id := 2, content := ['z'], startRow := 4, endRow := 4, firstRow := 4 }] ∧
      dropped crowd [['a'], ['b'], ['c'], ['d']]
        = [{ id := 0, content := ['q'], startRow := 2, endRow := 2, firstRow := 1 }] ∧
      (∃ kept ∈ build (.arr crowd) [['a'], ['b'], ['c'], ['d']], kept.startRow ≤ 2 ∧
        kept.Meets { id := 0, content := ['q'], startRow := 2, endRow := 2, firstRow := 1 }) ∧
      (candidates crowd.tail [['a'], ['b'], ['c'], ['d']]).Perm
        ((build (.arr crowd.tail) [['a'], ['b'], ['c'], ['d']]).map Item.unnumbered) := by
  have hdropped : dropped crowd [['a'], ['b'], ['c'], ['d']]
      = [{ id := 0, content := ['q'], startRow := 2, endRow := 2, firstRow := 1 }] := by
    decide +kernel
  have hcandidates : candidates crowd.tail [['a'], ['b'], ['c'], ['d']]
      = [{ id := 0, content := ['w'], startRow := 1, endRow := 1, firstRow := 1 },
        { id := 0, content := ['z'], startRow := 4, endRow := 4, firstRow := 4 }] := by
    decide +kernel
  have hapart : (candidates crowd.tail [['a'], ['b'], ['c'], ['d']]).Pairwise
      fun a b => ¬ a.Meets b := by
    rw [hcandidates]
    exact List.pairwise_pair.mpr (Item.not_meets_of_lt (by decide))
  refine ⟨by decide +kernel, hdropped, ?_, (build_spares crowd.tail _).2.2.2 hapart⟩
  exact (build_spares crowd _).2.2.1 _ (hdropped ▸ List.mem_cons_self)

/-- **The order of the values does not matter** for the set of a list of values, as long as no two
candidates start in the same row; and of candidates that do, the set has one at most. -/
theorem build_forgets_order (h : raws.Perm raws') (current : List Text) :
    (((candidates raws current).map Item.startRow).Nodup →
        build (.arr raws) current = build (.arr raws') current) ∧
      ((build (.arr raws) current).map Item.startRow).Nodup := by
  constructor
  · intro hrows
    have hcandidates : (candidates raws current).Perm (candidates raws' current) :=
      h.filterMap _
    rw [build, build, assemble, assemble, sortByRow_eq_of_perm hcandidates hrows]
  · refine List.pairwise_map.mpr ((assemble_placed raws current).startRow_lt.imp ?_)
    intro a b hab
    exact Int.ne_of_lt hab

theorem crowd_reversed :
    crowd.Perm crowd.reverse ∧
      ((candidates crowd [['a'], ['b'], ['c'], ['d']]).map Item.startRow).Nodup ∧
      build (.arr crowd) [['a'], ['b'], ['c'], ['d']]
        = build (.arr crowd.reverse) [['a'], ['b'], ['c'], ['d']] := by
  have hperm : crowd.Perm crowd.reverse := (List.reverse_perm crowd).symm
  have hrows : ((candidates crowd [['a'], ['b'], ['c'], ['d']]).map Item.startRow).Nodup := by
    decide +kernel
  exact ⟨hperm, hrows, (build_forgets_order hperm _).1 hrows⟩

end Assembly

end GhostEdit
