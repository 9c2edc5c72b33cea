import GhostEdit.Suggestion.Answer

/-!
# Where the items of a set stand

Everything the rest of the development needs to know about a parsed set is where its items stand:
inside the document, one below the other, with no row in common. `Placed` says so, and
`parse_wellFormed` says that reading an answer gives nothing else, whatever the answer holds.

## Why the overlap filter is enough

`Assembly.keepDisjoint` compares an item only with the one kept before it, and it compares the row
the item was proposed for, not the row it starts at after trimming. Still no two kept items meet.
Trimming moves an item down, so its last row is never above its first one, and a bound on the
first row of each item is a bound on everything below it. The order in which the candidates come
does not matter for this: it decides which of them are kept, not whether the kept ones meet.

## Main definitions

* `Item.Fits`: an item whose rows a document of a given size has
* `Placed`: a set of such items, one below the other

## Main results

* `Placed.startRow_lt`, `Placed.not_spans`: start rows ascend and spans do not meet
* `Assembly.judge_fits`: a candidate fits in the document it was judged against
* `Assembly.keepDisjoint_apart`: what is kept is apart
* `parse_wellFormed`: the sets of an answer are well-formed
-/

namespace GhostEdit

/-- The item stands in a document of `size` rows, or right after its last row. -/
structure Item.Fits (size : Nat) (item : Item) : Prop where
  /-- Rows count from one. -/
  one_le_firstRow : 1 ≤ item.firstRow
  /-- Trimming moves the start down. -/
  firstRow_le_startRow : item.firstRow ≤ item.startRow
  /-- The last place to insert at is the row after the last. -/
  startRow_le : item.startRow ≤ size + 1
  /-- Only rows of the document are replaced. -/
  endRow_le : item.endRow ≤ size

theorem Item.Fits.one_le_startRow {size : Nat} {item : Item} (h : item.Fits size) :
    1 ≤ item.startRow :=
  Int.le_trans h.one_le_firstRow h.firstRow_le_startRow

/-- The row is one of those from the first proposed row to the last row of the item. -/
def Item.Spans (item : Item) (row : Int) : Prop := item.firstRow ≤ row ∧ row ≤ item.lastRow

/-- The items of a set stand in a document of `size` rows, each one wholly above those after it. -/
structure Placed (size : Nat) (set : SuggestionSet) : Prop where
  /-- Each item stands in the document. -/
  fits : ∀ item ∈ set, item.Fits size
  /-- An item ends above the first row of every later one. -/
  apart : set.Pairwise fun a b => a.lastRow < b.firstRow

theorem Item.startRow_le_lastRow (item : Item) : item.startRow ≤ item.lastRow :=
  Int.le_max_right _ _

namespace Placed

variable {size : Nat} {set : SuggestionSet}

theorem nil (size : Nat) : Placed size [] := ⟨by simp, List.Pairwise.nil⟩

theorem tail {item : Item} {rest : SuggestionSet} (h : Placed size (item :: rest)) :
    Placed size rest :=
  ⟨fun x hx => h.fits x (List.mem_cons_of_mem item hx), (List.pairwise_cons.mp h.apart).2⟩

theorem startRow_lt (h : Placed size set) :
    set.Pairwise fun a b => a.startRow < b.startRow := by
  refine h.apart.imp_of_mem ?_
  intro a b _ hb hab
  have hstart := (h.fits b hb).firstRow_le_startRow
  have hlast := a.startRow_le_lastRow
  omega

theorem not_spans (h : Placed size set) :
    set.Pairwise fun a b => ∀ row, ¬ (a.Spans row ∧ b.Spans row) := by
  refine h.apart.imp ?_
  rintro a b hab row ⟨⟨_, ha⟩, hb, _⟩
  omega

end Placed

namespace Assembly

/-! ## Candidates -/

theorem leadingMatches_le (as bs : List Text) : leadingMatches as bs ≤ bs.length := by
  fun_induction leadingMatches as bs with
  | case1 a as bs ih =>
    simp only [List.length_cons]
    omega
  | case2 => omega
  | case3 => omega

/-- A draft that passes the check has its rows in order. -/
theorem rows_of_ofValue? {raw : Value} {d : Draft} (h : Draft.ofValue? raw = some d) :
    1 ≤ d.startRow ∧ d.startRow ≤ d.endRow := by
  unfold Draft.ofValue? at h
  split at h
  · simp only [Option.bind_eq_bind, Option.bind_eq_some_iff] at h
    obtain ⟨first, _, last, _, h⟩ := h
    split at h
    · next hrows =>
      cases h
      exact hrows
    · cases h
  · cases h

/-- The item a draft becomes, if it becomes one. -/
theorem judgeDraft_fits {current : List Text} {d : Draft} {item : Item} (hd : 1 ≤ d.startRow)
    (h : (judgeDraft current d).item? = some item) :
    item.Fits current.length ∧ item.content ≠ [] := by
  unfold judgeDraft at h
  split at h
  · cases h
  · next hbeyond =>
    dsimp only at h
    split at h
    · cases h
    · split at h
      · cases h
      · next hcontent =>
        have hmatched := leadingMatches_le (dropRowNumbers d.content.lines)
          (current.drop (d.startRow - 1).toNat)
        rw [List.length_drop] at hmatched
        cases h
        refine ⟨⟨hd, ?_, ?_, Int.min_le_right _ _⟩, ?_⟩
        · change d.startRow ≤ d.startRow + _
          omega
        · change d.startRow + _ ≤ _
          omega
        · simpa using hcontent

theorem judge_fits {current : List Text} {raw : Value} {item : Item}
    (h : (judge current raw).item? = some item) :
    item.Fits current.length ∧ item.content ≠ [] := by
  unfold judge at h
  split at h
  · next d hd => exact judgeDraft_fits (rows_of_ofValue? hd).1 h
  · cases h

theorem candidates_fit {raws : List Value} {current : List Text} {item : Item}
    (h : item ∈ candidates raws current) : item.Fits current.length ∧ item.content ≠ [] := by
  obtain ⟨raw, _, hraw⟩ := List.mem_filterMap.mp h
  exact judge_fits hraw

/-! ## Order and overlap -/

theorem insertByRow_perm (item : Item) (items : List Item) :
    (insertByRow item items).Perm (item :: items) := by
  induction items with
  | nil => rfl
  | cons next rest ih =>
    unfold insertByRow
    split
    · rfl
    · exact (ih.cons next).trans (List.Perm.swap item next rest)

theorem sortByRow_perm (items : List Item) : (sortByRow items).Perm items := by
  induction items with
  | nil => rfl
  | cons item rest ih => exact (insertByRow_perm item (sortByRow rest)).trans (ih.cons item)

theorem keepDisjoint_sublist (bound : Option Int) (items : List Item) :
    (keepDisjoint bound items).1.Sublist items := by
  induction items generalizing bound with
  | nil => exact List.Sublist.refl []
  | cons item rest ih =>
    unfold keepDisjoint
    split
    · exact (ih bound).cons item
    · exact (ih (some item.lastRow)).cons_cons item

/-- What is kept after a bound starts below it. The bound only ever moves down, because an item
that is kept has its last row below its first. -/
theorem lt_firstRow_of_mem_keepDisjoint {items : List Item}
    (hitems : ∀ item ∈ items, item.firstRow ≤ item.startRow) {bound : Int} {item : Item}
    (h : item ∈ (keepDisjoint (some bound) items).1) : bound < item.firstRow := by
  induction items generalizing bound with
  | nil => simp [keepDisjoint] at h
  | cons next rest ih =>
    have hnext := hitems next List.mem_cons_self
    have hrest : ∀ x ∈ rest, x.firstRow ≤ x.startRow :=
      fun x hx => hitems x (List.mem_cons_of_mem next hx)
    unfold keepDisjoint at h
    simp only [Option.any_some, decide_eq_true_eq] at h
    split at h
    · exact ih hrest h
    · next hbound =>
      rcases List.mem_cons.mp h with rfl | hmem
      · omega
      · have hlast := ih hrest hmem
        have hstart := next.startRow_le_lastRow
        omega

theorem keepDisjoint_apart {items : List Item}
    (hitems : ∀ item ∈ items, item.firstRow ≤ item.startRow) (bound : Option Int) :
    (keepDisjoint bound items).1.Pairwise fun a b => a.lastRow < b.firstRow := by
  induction items generalizing bound with
  | nil => exact List.Pairwise.nil
  | cons item rest ih =>
    have hrest : ∀ x ∈ rest, x.firstRow ≤ x.startRow :=
      fun x hx => hitems x (List.mem_cons_of_mem item hx)
    unfold keepDisjoint
    split
    · exact ih hrest bound
    · refine List.pairwise_cons.mpr ⟨fun x hx => ?_, ih hrest (some item.lastRow)⟩
      exact lt_firstRow_of_mem_keepDisjoint hrest hx

/-! ## Numbers -/

theorem id_getElem?_number {first : Nat} {items : List Item} {i : Nat} {item : Item}
    (h : (number first items)[i]? = some item) : item.id = (first + i : Nat) := by
  induction items generalizing first i with
  | nil => simp [number] at h
  | cons next rest ih =>
    cases i with
    | zero =>
      simp only [number, List.getElem?_cons_zero, Option.some.injEq] at h
      rw [← h]
      rfl
    | succ i =>
      simp only [number, List.getElem?_cons_succ] at h
      rw [ih h]
      congr 1
      omega

/-- Numbering changes nothing but the numbers. -/
theorem exists_mem_of_mem_number {first : Nat} {items : List Item} {item : Item}
    (h : item ∈ number first items) : ∃ x ∈ items, ∃ n : Nat, item = { x with id := n } := by
  induction items generalizing first with
  | nil => simp [number] at h
  | cons next rest ih =>
    rcases List.mem_cons.mp h with rfl | hmem
    · exact ⟨next, List.mem_cons_self, first, rfl⟩
    · obtain ⟨x, hx, n, hn⟩ := ih hmem
      exact ⟨x, List.mem_cons_of_mem next hx, n, hn⟩

theorem number_apart {first : Nat} {items : List Item}
    (h : items.Pairwise fun a b => a.lastRow < b.firstRow) :
    (number first items).Pairwise fun a b => a.lastRow < b.firstRow := by
  induction items generalizing first with
  | nil => exact List.Pairwise.nil
  | cons item rest ih =>
    obtain ⟨hitem, hrest⟩ := List.pairwise_cons.mp h
    refine List.pairwise_cons.mpr ⟨fun x hx => ?_, ih hrest⟩
    obtain ⟨y, hy, n, rfl⟩ := exists_mem_of_mem_number hx
    exact hitem y hy

/-! ## The set -/

theorem mem_candidates_of_mem_assemble {raws : List Value} {current : List Text} {item : Item}
    (h : item ∈ assemble raws current) :
    ∃ x ∈ candidates raws current, ∃ n : Nat, item = { x with id := n } := by
  obtain ⟨x, hx, n, rfl⟩ := exists_mem_of_mem_number h
  have hsorted := (keepDisjoint_sublist none _).subset hx
  exact ⟨x, (sortByRow_perm _).mem_iff.mp hsorted, n, rfl⟩

theorem assemble_placed (raws : List Value) (current : List Text) :
    Placed current.length (assemble raws current) := by
  refine ⟨fun item hitem => ?_, number_apart (keepDisjoint_apart (fun item hitem => ?_) none)⟩
  · obtain ⟨x, hx, n, rfl⟩ := mem_candidates_of_mem_assemble hitem
    obtain ⟨hone, hfirst, hstart, hend⟩ := (candidates_fit hx).1
    exact ⟨hone, hfirst, hstart, hend⟩
  · exact (candidates_fit ((sortByRow_perm _).mem_iff.mp hitem)).1.firstRow_le_startRow

theorem content_ne_nil_of_mem_assemble {raws : List Value} {current : List Text} {item : Item}
    (h : item ∈ assemble raws current) : item.content ≠ [] := by
  obtain ⟨x, hx, n, rfl⟩ := mem_candidates_of_mem_assemble h
  exact (candidates_fit hx).2

theorem build_eq_nil_or (raw : Value) (current : List Text) :
    build raw current = [] ∨ ∃ raws, build raw current = assemble raws current := by
  cases raw with
  | arr raws => exact Or.inr ⟨raws, rfl⟩
  | _ => exact Or.inl rfl

end Assembly

namespace Answer

variable {answer : Text} {current : List Text} {sets : List SuggestionSet} {set : SuggestionSet}

/-- Every set of an answer was built of one of its lists, and is not empty. -/
theorem exists_build_of_mem_parse (h : parse answer current = .ok sets) (hset : set ∈ sets) :
    set ≠ [] ∧ ∃ raws, rawSetsOf answer = .ok raws ∧
      ∃ raw ∈ raws, set = Assembly.build raw current := by
  unfold parse at h
  split at h
  · cases h
  · next raws hraws =>
    cases h
    obtain ⟨hmem, hne⟩ := List.mem_filter.mp hset
    have hset : set ≠ [] := by simpa using hne
    obtain ⟨raw, hraw, rfl⟩ := List.mem_map.mp hmem
    exact ⟨hset, raws, hraws, raw, hraw, rfl⟩

/-- Every set of an answer was assembled from the elements of a list, and is not empty. -/
theorem exists_assemble_of_mem_parse (h : parse answer current = .ok sets) (hset : set ∈ sets) :
    set ≠ [] ∧ ∃ raws, set = Assembly.assemble raws current := by
  obtain ⟨hne, _, _, raw, _, rfl⟩ := exists_build_of_mem_parse h hset
  rcases Assembly.build_eq_nil_or raw current with hnil | hraws
  · exact absurd hnil hne
  · exact ⟨hne, hraws⟩

theorem parse_placed (h : parse answer current = .ok sets) (hset : set ∈ sets) :
    Placed current.length set := by
  obtain ⟨_, raws, rfl⟩ := exists_assemble_of_mem_parse h hset
  exact Assembly.assemble_placed raws current

theorem id_of_parse (h : parse answer current = .ok sets) (hset : set ∈ sets) {i : Nat}
    {item : Item} (hitem : set[i]? = some item) : item.id = (i + 1 : Nat) := by
  obtain ⟨_, raws, rfl⟩ := exists_assemble_of_mem_parse h hset
  rw [Assembly.id_getElem?_number hitem, Nat.add_comm]

theorem ids_nodup_of_parse (h : parse answer current = .ok sets) (hset : set ∈ sets) :
    (set.map Item.id).Nodup := by
  refine List.pairwise_map.mpr (List.pairwise_iff_getElem.mpr ?_)
  intro i j hi hj hij heq
  have hidi := id_of_parse h hset (List.getElem?_eq_getElem hi)
  have hidj := id_of_parse h hset (List.getElem?_eq_getElem hj)
  omega

/-- **The sets of an answer are well-formed.** None is empty; its items are numbered from one, bring
something, stand in the document and are apart from each other, whatever the answer is and however
far it is from what was asked for. -/
theorem parse_wellFormed (h : parse answer current = .ok sets) (hset : set ∈ sets) :
    set ≠ [] ∧
      (∀ (i : Nat) (item : Item), set[i]? = some item → item.id = (i + 1 : Nat)) ∧
      (∀ item ∈ set, item.content ≠ [] ∧ 1 ≤ item.firstRow ∧ item.firstRow ≤ item.startRow ∧
        item.startRow ≤ current.length + 1 ∧ item.endRow ≤ current.length) ∧
      (set.Pairwise fun a b => a.lastRow < b.firstRow) ∧
      (set.Pairwise fun a b => a.startRow < b.startRow) ∧
      (set.Pairwise fun a b => ∀ row, ¬ (a.Spans row ∧ b.Spans row)) := by
  have hplaced := parse_placed h hset
  obtain ⟨hne, raws, hraws⟩ := exists_assemble_of_mem_parse h hset
  refine ⟨hne, fun i item hitem => id_of_parse h hset hitem, fun item hitem => ?_,
    hplaced.apart, hplaced.startRow_lt, hplaced.not_spans⟩
  obtain ⟨hone, hfirst, hstart, hend⟩ := hplaced.fits item hitem
  exact ⟨Assembly.content_ne_nil_of_mem_assemble (hraws ▸ hitem), hone, hfirst, hstart, hend⟩

/-- An answer out of order: its second element stands above the first, one end row is past the
document, and the first line of the other is in place already. -/
def sample : Text :=
  ("[\x7b\"content\": \"b\\nc\", \"start_row\": 2, \"end_row\": 7\x7d, "
    ++ "\x7b\"content\": \"x\", \"startRow\": 1.0, \"endRow\": 1\x7d]").toList

/-- Its set: sorted, numbered, with the end clamped and the row in place trimmed. -/
def sampleSet : SuggestionSet := [⟨1, ['x'], 1, 1, 1⟩, ⟨2, ['c'], 3, 2, 2⟩]

theorem eq_ok_of_toOption {ε α : Type} {x : Except ε α} {a : α} (h : x.toOption = some a) :
    x = .ok a := by
  cases x with
  | error e => cases h
  | ok b => exact congrArg Except.ok (Option.some.inj h)

theorem parse_sample : parse sample [['a'], ['b']] = .ok [sampleSet] :=
  eq_ok_of_toOption (by decide +kernel)

theorem sample_wellFormed :
    parse sample [['a'], ['b']] = .ok [sampleSet] ∧ sampleSet ≠ [] ∧
      (∀ (i : Nat) (item : Item), sampleSet[i]? = some item → item.id = (i + 1 : Nat)) ∧
      (∀ item ∈ sampleSet, item.content ≠ [] ∧ 1 ≤ item.firstRow ∧
        item.firstRow ≤ item.startRow ∧ item.startRow ≤ 3 ∧ item.endRow ≤ 2) ∧
      (sampleSet.Pairwise fun a b => a.lastRow < b.firstRow) :=
  have h := parse_wellFormed parse_sample List.mem_cons_self
  ⟨parse_sample, h.1, h.2.1, h.2.2.1, h.2.2.2.1⟩

end Answer

end GhostEdit
