import GhostEdit.Buffer.Store
import GhostEdit.Proofs.Buffer.Rewriting

/-!
# Buffers of texts

A host may put anything in place of a row, and then moving the cursor or applying an item can fail.
In a buffer whose rows are texts neither does. This file collects what the operations of a buffer
come to there.

## Main definitions

* `Buffer.Reaches`, `Buffer.CursorInside`: a position in the rows, and a cursor on one
* `Buffer.applyAll`: all items of a set, the last one first

## Main results

* `Buffer.apply_cases`: what applying an item can do to any buffer
* `Buffer.setCursor_texts`: the cursor is put into the rows
* `Buffer.applyRows_texts`: texts are left, and at least one
* `Buffer.apply_texts`: applying an item
* `Buffer.applyAll_texts`: applying all items rewrites the document at once
* `Buffers.exists_put_of_openFile`: a file is opened in a buffer of texts
-/

namespace GhostEdit

namespace Buffer

/-! ## The cursor -/

/-- The rows have a position: a row of that number, whose text reaches to the column. -/
def Reaches (rows : List Value) (row col : Int) : Prop :=
  1 ≤ row ∧ row ≤ rows.length ∧ 0 ≤ col ∧
    ∃ line : Text, rows[(row - 1).toNat]? = some (.str line) ∧ col ≤ line.length

/-- The cursor stands on a row, at most behind its last character. -/
def CursorInside (b : Buffer) : Prop :=
  ∃ row col, b.cursor = .at row col ∧ Reaches b.lines row col

theorem reaches_of_getElem? {rows : List Value} {row col : Int} (line : Text) (h1 : 1 ≤ row)
    (hcol : 0 ≤ col) (hrow : rows[(row - 1).toNat]? = some (.str line))
    (hline : col ≤ line.length) : Reaches rows row col := by
  obtain ⟨hlt, -⟩ := List.getElem?_eq_some_iff.mp hrow
  exact ⟨h1, by omega, hcol, line, hrow, hline⟩

/-- Moving the cursor moves nothing else, and leaves it on a row. -/
theorem setCursor_eq_ok {row col : Int} {b b' : Buffer} (h : b.setCursor row col = .ok b') :
    ∃ r c, b' = { b with cursor := .at r c } := by
  obtain ⟨cursor, hcursor, rfl⟩ := map_eq_ok h
  rw [clampCursor] at hcursor
  split at hcursor
  · cases hcursor
  · obtain ⟨length, -, rfl⟩ := map_eq_ok hcursor
    exact ⟨_, _, rfl⟩

/-- Over texts the cursor can be put anywhere; it comes to stand in the nearest row. -/
theorem setCursor_texts {texts : List Text} (hne : texts ≠ []) (row col : Int) {b : Buffer}
    (hlines : b.lines = texts.map Value.str) :
    ∃ c, b.setCursor row col = .ok { b with cursor := .at (min (max 1 row) texts.length) c } ∧
      Reaches b.lines (min (max 1 row) texts.length) c := by
  have hpos : 0 < texts.length := List.length_pos_iff.mpr hne
  have hlt : (min (max 1 row) (texts.length : Int) - 1).toNat < texts.length := by omega
  let line := texts[(min (max 1 row) (texts.length : Int) - 1).toNat]
  have hline : b.lines[(min (max 1 row) (texts.length : Int) - 1).toNat]? = some (.str line) := by
    rw [hlines, List.getElem?_map, List.getElem?_eq_getElem hlt]
    rfl
  refine ⟨min (max 0 col) line.length, ?_,
    reaches_of_getElem? line (by omega) (by omega) hline (by omega)⟩
  rw [Buffer.setCursor, Buffer.clampCursor, show b.lines.length = texts.length by
    rw [hlines, List.length_map], Span.pick?, if_pos (by omega), hline]
  rfl

/-! ## Applying items -/

/-- **What applying an item can do**: nothing at all to a buffer that must not be changed; else its
rows are written, and then the cursor is moved and typing starts, unless the cursor cannot be
moved. -/
theorem apply_cases (id : String) (item : Item) (b : Buffer) :
    b.modifiable = false ∧ b.apply id item = (b, .error (.readOnly id)) ∨
      b.modifiable = true ∧
        ((∃ e, b.apply id item
            = ({ b with lines := applyRows item b.lines, dirty := true }, .error e)) ∨
          ∃ row col, b.apply id item
            = ({ b with
                lines := applyRows item b.lines
                dirty := true
                cursor := .at row col
                mode := insertMode }, .ok item.edit)) := by
  rw [apply]
  split
  · next hmod =>
    refine .inr ⟨hmod, ?_⟩
    dsimp only
    split
    · exact .inl ⟨_, rfl⟩
    · next hmoved =>
      obtain ⟨row, col, rfl⟩ := setCursor_eq_ok hmoved
      exact .inr ⟨row, col, rfl⟩
  · next hmod => exact .inl ⟨Bool.eq_false_iff.mpr hmod, rfl⟩

/-- An item that was applied: what is reported is its own edit, and the cursor is on a row. -/
theorem apply_eq_ok {id : String} {item : Item} {b b' : Buffer} {edit : AppliedEdit}
    (h : b.apply id item = (b', .ok edit)) :
    edit = item.edit ∧ ∃ row col, b' =
      { b with
        lines := applyRows item b.lines
        dirty := true
        cursor := .at row col
        mode := insertMode } := by
  rcases apply_cases id item b with ⟨-, hcase⟩ | ⟨-, ⟨e, hcase⟩ | ⟨row, col, hcase⟩⟩
  · cases hcase.symm.trans h
  · cases hcase.symm.trans h
  · cases hcase.symm.trans h
    exact ⟨rfl, row, col, rfl⟩

theorem padTo_texts (start : Int) (texts : List Text) :
    padTo start (texts.map Value.str)
      = (texts ++ List.replicate (start - texts.length).toNat []).map Value.str := by
  rw [padTo, List.map_append, List.map_replicate, List.length_map]

theorem splice_map {α β : Type} (f : α → β) (start stop : Int) (new xs : List α) :
    Span.splice start stop (new.map f) (xs.map f) = (Span.splice start stop new xs).map f := by
  simp only [Span.splice, List.length_map, List.map_append, List.map_take, List.map_drop]

/-- Wherever rows of texts are replaced by texts, texts are left, and at least one. -/
theorem replaceRows_texts (start stop : Int) (new texts : List Text) :
    ∃ left : List Text, left ≠ [] ∧
      replaceRows start stop (new.map Value.str) (texts.map Value.str) = left.map Value.str := by
  rw [replaceRows, padTo_texts, splice_map, nonEmpty]
  generalize Span.splice start _ new _ = left
  cases left with
  | nil => exact ⟨[[]], List.cons_ne_nil _ _, rfl⟩
  | cons t more => exact ⟨t :: more, List.cons_ne_nil _ _, rfl⟩

/-- So it is for every item, wherever it starts. -/
theorem applyRows_texts (item : Item) (texts : List Text) :
    ∃ new : List Text, new ≠ [] ∧ applyRows item (texts.map Value.str) = new.map Value.str := by
  rw [applyRows]
  split
  · obtain ⟨mid, -, hmid⟩ := replaceRows_texts
      (item.startRow - 1 + (item.lines.map Value.str).length) item.endRow [] texts
    rw [List.map_nil] at hmid
    rw [hmid]
    exact replaceRows_texts ..
  · exact replaceRows_texts ..

/-- **Applying an item to a buffer of texts** succeeds: the rows are rewritten and the cursor is put
into them. -/
theorem apply_texts (item : Item) (id : String) {b : Buffer} {texts : List Text}
    (hlines : b.lines = texts.map Value.str) (hmod : b.modifiable = true) :
    ∃ b' : Buffer, b.apply id item = (b', .ok item.edit) ∧ b'.lines = applyRows item b.lines ∧
      b'.modifiable = true ∧ b'.CursorInside := by
  obtain ⟨new, hne, hnew⟩ := applyRows_texts item texts
  let written : Buffer := { b with lines := applyRows item b.lines, dirty := true }
  have hwritten : written.lines = new.map Value.str := by rw [← hnew, ← hlines]
  obtain ⟨col, hcursor, hreach⟩ :=
    setCursor_texts hne item.edit.cursorRow item.edit.cursorCol hwritten
  let row := min (max 1 item.edit.cursorRow) (new.length : Int)
  refine ⟨({ written with cursor := .at row col } : Buffer).startInsert, ?_, rfl, hmod,
    row, col, rfl, hreach⟩
  rw [apply, if_pos hmod]
  dsimp only
  rw [hcursor]

/-- Apply all items of a set. The last one goes first, so that no item moves another. -/
def applyAll (id : String) : SuggestionSet → Buffer → Except Failure Buffer
  | [], b => .ok b
  | item :: rest, b =>
    match applyAll id rest b with
    | .error e => .error e
    | .ok b =>
      match b.apply id item with
      | (_, .error e) => .error e
      | (b, .ok _) => .ok b

/-- **Applying all items** of a set to the texts they are placed in rewrites these at once. -/
theorem applyAll_texts {texts : List Text} {set : SuggestionSet} (h : Placed texts.length set)
    (id : String) {b : Buffer} (hlines : b.lines = texts.map Value.str)
    (hmod : b.modifiable = true) :
    ∃ b' : Buffer, b.applyAll id set = .ok b' ∧ b'.modifiable = true ∧
      b'.lines = rewriteRows set (texts.map Value.str) ∧
      ∃ new : List Text, b'.lines = new.map Value.str := by
  induction set with
  | nil =>
    refine ⟨b, rfl, hmod, ?_, texts, hlines⟩
    rw [rewriteRows_nil, hlines]
  | cons item rest ih =>
    obtain ⟨below, hbelow, hbelowmod, hrows, mid, hmid⟩ := ih h.tail
    obtain ⟨b', happly, hlines', hmod', _⟩ := apply_texts item id hmid hbelowmod
    obtain ⟨new, _, hnew⟩ := applyRows_texts item mid
    have hstacked : Stacked ((texts.map Value.str).length + 1) 1 ([] ++ item :: rest) := by
      rw [List.length_map]
      exact h.stacked
    have hnext := applyRows_shift_rewriteRows hstacked
    rw [growthOf_nil, Item.shift_zero, List.nil_append] at hnext
    refine ⟨b', ?_, hmod', ?_, new, ?_⟩
    · rw [applyAll, hbelow]
      dsimp only
      rw [happly]
    · rw [hlines', hrows]
      exact hnext
    · rw [hlines', hmid, hnew]

end Buffer

/-- A file that was not open is opened in a new buffer, with the rows of some text. -/
theorem Buffers.exists_put_of_openFile {bs bs' : Buffers} {fs : Files} {cwd : List Text} {p : Path}
    {id : String} (hclosed : bs.get? (String.ofList p.toText) = none)
    (hopen : bs.openFile fs cwd p = .ok (bs', id)) :
    ∃ (t : Text) (filetype : String), bs' = bs.put id (Buffer.ofText t filetype (some id)) := by
  rw [Buffers.openFile, hclosed] at hopen
  dsimp only at hopen
  split at hopen
  · next t _ =>
    cases hopen
    exact ⟨t, filetypeOf p, rfl⟩
  · cases hopen
    exact ⟨[], filetypeOf p, rfl⟩
  · cases hopen

end GhostEdit
