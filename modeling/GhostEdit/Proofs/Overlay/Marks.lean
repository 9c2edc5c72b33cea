import GhostEdit.Overlay.Layout

/-!
# The marks of a set over a document of texts

Laying out a set can fail, because a host may put anything in place of a row. Over rows that are
strings it cannot, as long as no item starts above the first row. Over texts the marks have a closed
form: one piece of ghost text for each item, followed by the rows it replaces.

## Main definitions

* `Value.IsString`: a string, be it a text or not
* `Layout.columnOf`, `Layout.marksOf`: the column and the marks of an item, without failures

## Main results

* `Layout.exists_marks`: the layout of a set over strings
* `Layout.marks_texts`: the layout of a set over texts
-/

namespace GhostEdit

theorem mapM_ok_of_forall {ε α β : Type} {f : α → Except ε β} {g : α → β} {xs : List α}
    (h : ∀ x ∈ xs, f x = .ok (g x)) : xs.mapM f = .ok (xs.map g) := by
  induction xs with
  | nil => rfl
  | cons x rest ih =>
    have hx := h x List.mem_cons_self
    have hrest := ih fun y hy => h y (List.mem_cons_of_mem x hy)
    rw [List.mapM_cons, hx, hrest]
    rfl

theorem exists_mapM_ok {ε α β : Type} {f : α → Except ε β} {xs : List α}
    (h : ∀ x ∈ xs, ∃ y, f x = .ok y) : ∃ ys, xs.mapM f = .ok ys := by
  induction xs with
  | nil => exact ⟨[], rfl⟩
  | cons x rest ih =>
    obtain ⟨y, hy⟩ := h x List.mem_cons_self
    obtain ⟨ys, hys⟩ := ih fun x hx => h x (List.mem_cons_of_mem _ hx)
    rw [List.mapM_cons, hy, hys]
    exact ⟨y :: ys, rfl⟩

/-- A value that is a string, even if its code points are no text. -/
def Value.IsString (v : Value) : Prop := ∃ points, v.codes? = some points

theorem Value.isString_of_mem_texts {rows : List Value} {texts : List Text}
    (h : rows = texts.map Value.str) : ∀ row ∈ rows, row.IsString := by
  intro row hrow
  rw [h] at hrow
  obtain ⟨t, _, rfl⟩ := List.mem_map.mp hrow
  exact ⟨_, rfl⟩

theorem Value.IsString.exists_length {v : Value} (h : v.IsString) : ∃ n, v.length = .ok n := by
  obtain ⟨points, hpoints⟩ := h
  cases v with
  | str t => exact ⟨_, rfl⟩
  | codes points => exact ⟨_, rfl⟩
  | _ => cases hpoints

theorem Value.IsString.exists_asStart {v : Value} (h : v.IsString) : ∃ t, v.asStart = .ok t := by
  obtain ⟨points, hpoints⟩ := h
  cases v with
  | str t => exact ⟨_, rfl⟩
  | codes points => exact ⟨_, rfl⟩
  | _ => cases hpoints

namespace Layout

/-! ## Over strings -/

section Strings

variable {item : Item} {rows : List Value}

theorem exists_rowAt {row : Int} (h1 : 1 ≤ row) (hlen : row ≤ rows.length) :
    ∃ line ∈ rows, rowAt rows row = .ok line := by
  have hlt : (row - 1).toNat < rows.length := by omega
  refine ⟨rows[(row - 1).toNat], List.getElem_mem hlt, ?_⟩
  rw [rowAt, Span.pick?, if_pos (by omega), List.getElem?_eq_getElem hlt]

theorem exists_inlineColumn (hrows : ∀ row ∈ rows, row.IsString) (h1 : 1 ≤ item.startRow)
    (cursorRow : Int) : ∃ col, inlineColumn item rows cursorRow = .ok col := by
  rw [inlineColumn]
  split
  · next hrow =>
    obtain ⟨line, hmem, hline⟩ := exists_rowAt h1 hrow.2.2
    obtain ⟨t, ht⟩ := (hrows line hmem).exists_asStart
    rw [hline]
    show ∃ col, (do
      let existing ← line.asStart
      pure ((inlineSplit? existing (item.lines.headD [])).getD 0)) = .ok col
    rw [ht]
    exact ⟨_, rfl⟩
  · exact ⟨0, rfl⟩

theorem mem_replacedRows {size : Nat} {row : Int} :
    row ∈ replacedRows item size ↔ item.startRow ≤ row ∧ row ≤ item.endRow ∧ row ≤ size := by
  rw [replacedRows, List.mem_map]
  constructor
  · rintro ⟨k, hk, rfl⟩
    rw [List.mem_range] at hk
    omega
  · intro hrow
    refine ⟨(row - item.startRow).toNat, ?_, by omega⟩
    rw [List.mem_range]
    omega

theorem exists_itemMarks (hrows : ∀ row ∈ rows, row.IsString) (h1 : 1 ≤ item.startRow)
    (cursorRow : Int) : ∃ marks, itemMarks item rows cursorRow = .ok marks := by
  obtain ⟨col, hcol⟩ := exists_inlineColumn hrows h1 cursorRow
  have hdeletions : ∀ row ∈ (replacedRows item rows.length).filter
      (fun row => !(row = item.startRow && 0 < col)),
      ∃ mark, deletionAt item rows row = .ok mark := by
    intro row hrow
    have hrange := mem_replacedRows.mp (List.mem_filter.mp hrow).1
    have h1 : 1 ≤ row := by omega
    obtain ⟨line, hmem, hline⟩ := exists_rowAt h1 hrange.2.2
    obtain ⟨n, hn⟩ := (hrows line hmem).exists_length
    refine ⟨.deletion item.id row n, ?_⟩
    rw [deletionAt, hline]
    show (do
      let length ← line.length
      pure (Mark.deletion item.id row length)) = _
    rw [hn]
    rfl
  obtain ⟨marks, hmarks⟩ := exists_mapM_ok hdeletions
  refine ⟨.ghost (ghostOf item col) :: marks, ?_⟩
  rw [itemMarks, hcol]
  change (do
    let deletions ← ((replacedRows item rows.length).filter
      fun row => !(row = item.startRow && 0 < col)).mapM (deletionAt item rows)
    pure (Mark.ghost (ghostOf item col) :: deletions)) = _
  rw [hmarks]
  rfl

/-- **The layout of a set over strings** never fails. -/
theorem exists_marks {set : SuggestionSet} (hrows : ∀ row ∈ rows, row.IsString)
    (h1 : ∀ item ∈ set, 1 ≤ item.startRow) (cursorRow : Int) :
    ∃ found, marks set rows cursorRow = .ok found := by
  obtain ⟨found, hfound⟩ := exists_mapM_ok fun item hitem =>
    exists_itemMarks hrows (h1 item hitem) cursorRow
  refine ⟨found.flatten, ?_⟩
  rw [marks, hfound]
  rfl

end Strings

/-! ## Over texts -/

variable {item : Item} {texts : List Text}

/-- The text of a row; the empty one if there is no such row. -/
def textAt (texts : List Text) (row : Int) : Text := texts.getD (row - 1).toNat []

/-- The column from which an item continues the row of the cursor; zero if it does not. -/
def columnOf (texts : List Text) (cursorRow : Int) (item : Item) : Nat :=
  if item.startRow = item.endRow ∧ item.endRow = cursorRow ∧ item.startRow ≤ texts.length then
    (inlineSplit? (textAt texts item.startRow) (item.lines.headD [])).getD 0
  else 0

/-- The rows that an item marks for deletion when it continues its row from `col` on. -/
def deletedRows (item : Item) (size col : Nat) : List Int :=
  (replacedRows item size).filter fun row => !(row = item.startRow && 0 < col)

/-- The marks of an item over texts. -/
def marksOf (texts : List Text) (cursorRow : Int) (item : Item) : List Mark :=
  .ghost (ghostOf item (columnOf texts cursorRow item)) ::
    (deletedRows item texts.length (columnOf texts cursorRow item)).map fun row =>
      .deletion item.id row (textAt texts row).length

theorem rowAt_texts {row : Int} (h1 : 1 ≤ row) (hlen : row ≤ texts.length) :
    rowAt (texts.map Value.str) row = .ok (.str (textAt texts row)) := by
  have hlt : (row - 1).toNat < texts.length := by omega
  rw [rowAt, Span.pick?, if_pos (by omega), List.getElem?_map, List.getElem?_eq_getElem hlt,
    textAt, List.getD_eq_getElem?_getD, List.getElem?_eq_getElem hlt]
  rfl

theorem inlineColumn_texts (h1 : 1 ≤ item.startRow) (cursorRow : Int) :
    inlineColumn item (texts.map Value.str) cursorRow = .ok (columnOf texts cursorRow item) := by
  rw [inlineColumn, columnOf, List.length_map]
  split
  · next hrow =>
    rw [rowAt_texts h1 hrow.2.2]
    rfl
  · rfl

theorem itemMarks_texts (h1 : 1 ≤ item.startRow) (cursorRow : Int) :
    itemMarks item (texts.map Value.str) cursorRow = .ok (marksOf texts cursorRow item) := by
  have hdeletions : ∀ row ∈ deletedRows item texts.length (columnOf texts cursorRow item),
      deletionAt item (texts.map Value.str) row
        = .ok (.deletion item.id row (textAt texts row).length) := by
    intro row hrow
    have hmem := mem_replacedRows.mp (List.mem_filter.mp hrow).1
    rw [deletionAt, rowAt_texts (by omega) hmem.2.2]
    rfl
  rw [itemMarks, inlineColumn_texts h1, List.length_map]
  change (do
    let deletions ← (deletedRows item texts.length (columnOf texts cursorRow item)).mapM
      (deletionAt item (texts.map Value.str))
    pure (Mark.ghost (ghostOf item (columnOf texts cursorRow item)) :: deletions)) = _
  rw [mapM_ok_of_forall hdeletions]
  rfl

/-- **The layout of a set over texts** never fails. -/
theorem marks_texts {set : SuggestionSet} (h1 : ∀ item ∈ set, 1 ≤ item.startRow)
    (cursorRow : Int) :
    marks set (texts.map Value.str) cursorRow = .ok (set.flatMap (marksOf texts cursorRow)) := by
  rw [marks, mapM_ok_of_forall fun item hitem => itemMarks_texts (h1 item hitem) cursorRow]
  rfl

end Layout

end GhostEdit
