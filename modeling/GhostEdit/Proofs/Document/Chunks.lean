import GhostEdit.Proofs.Suggestion.Echo

/-!
# The window as a whole

A request shows as many rows around the cursor as it may, and the cursor is among them. The rows are
cut into chunks, every one of them full but the last, and the chunks are sent with an empty row
between them. This file puts them together again, as they are and behind their numbers.

## Sliding back

The window starts half its length above the cursor and may then end too early, at the end of the
document. Sliding it back is what keeps the length: it never slides past the cursor, since half a
window is still below it, and never past the first row unless the document is the shorter one.

## What the empty rows between chunks cost

Without numbers an empty row between two chunks cannot be told from an empty row of the document.
Behind a number no row is empty, so that the rows which are not empty are those of the document.

## Main definitions

* `Window.Frames`: the first and the last row of a window of full length around a cursor
* `Window.shown`: the rows of a document from one to another, as they are or behind their numbers

## Main results

* `Window.frames_bounds`: the window that is shown frames the cursor
* `Window.length_of_mem_dropLast_cut`: every stretch but the last is full
* `Window.chunks_shown`: the chunks are the rows shown, cut
* `Window.lines_joinChunks`: the chunks put together again
* `Window.chunks_complete`: what the chunks of a window hold
-/

namespace GhostEdit

namespace Window

variable {α β : Type}

/-! ## Where a window lies -/

/-- The rows from `start` to `stop` are as many as may be shown of a document with `count` rows, and
the row of the cursor, or the one next to it if the cursor is outside, is among them. -/
structure Frames (count cursor size start stop : Int) : Prop where
  /-- Rows count from one. -/
  one_le_start : 1 ≤ start
  /-- The window ends within the document. -/
  stop_le_count : stop ≤ count
  /-- The window has the wanted length, unless the document is shorter. -/
  length : stop - start + 1 = min count size
  /-- The window does not start below the cursor. -/
  start_le_cursor : start ≤ min (max cursor 1) count
  /-- The window does not end above the cursor. -/
  cursor_le_stop : min (max cursor 1) count ≤ stop

/-- **The window that is shown frames the cursor.** -/
theorem frames_bounds {count size : Int} (hcount : 1 ≤ count) (hsize : 1 ≤ size) (cursor : Int) :
    Frames count cursor size (bounds count cursor size).1 (bounds count cursor size).2 := by
  constructor <;> simp only [bounds] <;> omega

/-! ## Full stretches -/

theorem cutWithin_map (f : α → β) (size fuel : Nat) (xs : List α) :
    cutWithin size fuel (xs.map f) = (cutWithin size fuel xs).map (·.map f) := by
  induction fuel generalizing xs with
  | zero => rfl
  | succ fuel ih =>
    cases xs with
    | nil => rfl
    | cons x xs =>
      rw [List.map_cons, cutWithin, cutWithin, ← List.map_cons, ← List.map_take, ← List.map_drop,
        ih, List.map_cons]

theorem cut_map (f : α → β) (size : Nat) (xs : List α) :
    cut size (xs.map f) = (cut size xs).map (·.map f) := by
  rw [cut, cut, List.length_map, cutWithin_map]

/-- What comes before another stretch had rows left behind it, so that it is full. -/
theorem length_of_mem_dropLast_cutWithin {size fuel : Nat} {xs part : List α}
    (h : part ∈ (cutWithin size fuel xs).dropLast) : part.length = size := by
  induction fuel generalizing xs with
  | zero => cases h
  | succ fuel ih =>
    cases xs with
    | nil => cases h
    | cons x xs =>
      rw [cutWithin] at h
      cases hrest : cutWithin size fuel ((x :: xs).drop size) with
      | nil =>
        rw [hrest] at h
        cases h
      | cons next more =>
        rw [hrest, List.dropLast_cons_of_ne_nil (List.cons_ne_nil next more)] at h
        rcases List.mem_cons.mp h with rfl | h
        · have hne : (x :: xs).drop size ≠ [] := by
            rintro hnil
            rw [hnil] at hrest
            cases fuel <;> cases hrest
          rw [List.length_take]
          exact Nat.min_eq_left (Nat.le_of_not_le fun hle => hne (List.drop_eq_nil_of_le hle))
        · exact ih (hrest ▸ h)

/-- **Every stretch but the last is full.** -/
theorem length_of_mem_dropLast_cut {size : Nat} {xs part : List α}
    (h : part ∈ (cut size xs).dropLast) : part.length = size :=
  length_of_mem_dropLast_cutWithin h

theorem mem_of_mem_cut {size : Nat} (hsize : 0 < size) {xs part : List α} {x : α}
    (h : part ∈ cut size xs) (hx : x ∈ part) : x ∈ xs := by
  rw [← flatten_cut hsize xs]
  exact List.mem_flatten.mpr ⟨part, h, hx⟩

/-! ## What the chunks are -/

/-- The rows of a document from `start` to `stop`, as they are or behind their numbers. -/
def shown (withNumbers : Bool) (rows : List Text) (start stop : Nat) : List Text :=
  if withNumbers then rendered rows start stop else rowsBetween rows start stop

theorem map_snd_numbered (n : Nat) (xs : List α) : (numbered n xs).map Prod.snd = xs := by
  induction xs generalizing n with
  | nil => rfl
  | cons x xs ih => rw [numbered, List.map_cons, ih]

theorem chunkText_texts (rows : List (Nat × Text)) :
    chunkText false (rows.map fun (n, row) => (n, .str row))
      = .ok (Text.unlines (rows.map Prod.snd)) := by
  have htexts : (rows.map fun (n, row) => (n, Value.str row)).map Prod.snd
      = (rows.map Prod.snd).map Value.str := by
    rw [List.map_map, List.map_map]
    rfl
  rw [chunkText, if_neg Bool.false_ne_true, htexts, Value.joinTexts_texts]

theorem textsOf_texts (parts : List (List (Nat × Text))) :
    textsOf false (parts.map fun part => part.map fun (n, row) => (n, .str row))
      = ⟨parts.map fun part => Text.unlines (part.map Prod.snd), none⟩ := by
  induction parts with
  | nil => rfl
  | cons part rest ih =>
    rw [List.map_cons, textsOf, chunkText_texts]
    dsimp only
    rw [ih, List.map_cons]

variable {rows : List Text}

/-- **The chunks are the rows shown**, cut into stretches. -/
theorem chunks_shown (hne : rows ≠ []) (cursor : Int) (size chunk : Value) (withNumbers : Bool) :
    chunks (rows.map .str) cursor size chunk withNumbers
      = .ok ⟨(cut (effective chunk defaultChunk) (shown withNumbers rows
          (bounds rows.length cursor (effective size defaultSize)).1.toNat
          (bounds rows.length cursor (effective size defaultSize)).2.toNat)).map Text.unlines,
          none⟩ := by
  have hsize : 0 < effective size defaultSize := effective_pos size (by decide)
  have hvalues : rows.map Value.str ≠ [] := by simpa using hne
  cases withNumbers with
  | true =>
    rw [chunks_numbered hvalues, shown, if_pos rfl, ← labelled_rowsOf hne cursor hsize, labelled,
      cut_map, List.map_map]
    rfl
  | false =>
    have hempty : ¬ (rows.map Value.str).isEmpty = true := by simpa using hne
    rw [chunks, if_neg hempty, rowsOf_texts hne cursor hsize, cut_map, textsOf_texts, shown,
      if_neg Bool.false_ne_true]
    have hplain := cut_map Prod.snd (effective chunk defaultChunk)
      (numbered (bounds rows.length cursor (effective size defaultSize)).1.toNat
        (rowsBetween rows (bounds rows.length cursor (effective size defaultSize)).1.toNat
          (bounds rows.length cursor (effective size defaultSize)).2.toNat))
    rw [map_snd_numbered] at hplain
    rw [hplain, List.map_map]
    rfl

/-! ## The chunks put together -/

/-- What is not empty in blocks with an empty row between them is what is not empty in the
blocks. -/
theorem filter_lines_joinChunks {parts : List (List Text)}
    (h : ∀ part ∈ parts, part ≠ [] ∧ ∀ line ∈ part, '\n' ∉ line) :
    (joinChunks (parts.map Text.unlines)).lines.filter (!·.isEmpty)
      = parts.flatten.filter (!·.isEmpty) := by
  induction parts with
  | nil => rfl
  | cons part rest ih =>
    obtain ⟨⟨hpart, hlines⟩, hrest⟩ := List.forall_mem_cons.mp h
    cases rest with
    | nil =>
      have hsingle : joinChunks ([part].map Text.unlines) = Text.unlines part := rfl
      rw [hsingle, Text.lines_unlines hpart hlines, List.flatten_singleton]
    | cons next more =>
      have hjoined : joinChunks ((part :: next :: more).map Text.unlines)
          = Text.unlines part ++ '\n' :: '\n' :: joinChunks ((next :: more).map Text.unlines) := by
        rw [joinChunks, List.map_cons, List.map_cons, Text.join_cons_cons, List.append_assoc]
        rfl
      have hblank : ∀ t : Text, Text.lines ('\n' :: t) = [] :: Text.lines t := fun _ => rfl
      rw [hjoined, Text.lines_unlines_append hpart hlines, hblank, List.filter_append,
        List.filter_cons_of_neg (by simp), ih hrest, List.flatten_cons (l := part),
        List.filter_append]

section

variable {size : Nat} (hsize : 0 < size) {lines : List Text} (hlines : ∀ line ∈ lines, '\n' ∉ line)
include hsize hlines

/-- A chunk can be cut into its lines again. -/
theorem lines_of_mem_cut {part : List Text} (h : part ∈ cut size lines) :
    (Text.unlines part).lines = part := by
  refine Text.lines_unlines (length_of_mem_cut hsize h).1 fun line hline => hlines line ?_
  exact mem_of_mem_cut hsize h hline

/-- **No line is lost and none is repeated.** -/
theorem flatMap_lines_cut : ((cut size lines).map Text.unlines).flatMap Text.lines = lines := by
  have hback : (cut size lines).map (fun part => (Text.unlines part).lines) = cut size lines := by
    refine (List.map_congr_left fun part hpart => ?_).trans (List.map_id _)
    exact lines_of_mem_cut hsize hlines hpart
  rw [List.flatMap_map, List.flatMap_def, hback, flatten_cut hsize]

theorem length_lines_of_mem_dropLast {text : Text}
    (h : text ∈ ((cut size lines).map Text.unlines).dropLast) : text.lines.length = size := by
  rw [← List.map_dropLast] at h
  obtain ⟨part, hpart, rfl⟩ := List.mem_map.mp h
  rw [lines_of_mem_cut hsize hlines (List.dropLast_subset _ hpart)]
  exact length_of_mem_dropLast_cut hpart

theorem exists_last_text (hne : lines ≠ []) :
    ∃ last, ((cut size lines).map Text.unlines).getLast? = some last ∧
      1 ≤ last.lines.length ∧ last.lines.length ≤ size := by
  have hparts : cut size lines ≠ [] := by
    intro hnil
    exact hne (by rw [← flatten_cut hsize lines, hnil, List.flatten_nil])
  have hmem := List.getLast_mem hparts
  obtain ⟨hnonempty, hlength⟩ := length_of_mem_cut hsize hmem
  refine ⟨Text.unlines ((cut size lines).getLast hparts), ?_, ?_⟩
  · rw [List.getLast?_map, List.getLast?_eq_some_getLast hparts]
    rfl
  · rw [lines_of_mem_cut hsize hlines hmem]
    exact ⟨List.length_pos_iff.mpr hnonempty, hlength⟩

/-- An empty row stands between two chunks, and no other is added. -/
theorem lines_joinChunks :
    (joinChunks ((cut size lines).map Text.unlines)).lines.filter (!·.isEmpty)
      = lines.filter (!·.isEmpty) := by
  have hparts : ∀ part ∈ cut size lines, part ≠ [] ∧ ∀ line ∈ part, '\n' ∉ line := by
    intro part hpart
    refine ⟨(length_of_mem_cut hsize hpart).1, fun line hline => hlines line ?_⟩
    exact mem_of_mem_cut hsize hpart hline
  rw [filter_lines_joinChunks hparts, flatten_cut hsize]

end

/-! ## What the chunks of a window hold -/

theorem notMem_shown (hrows : ∀ row ∈ rows, '\n' ∉ row) {withNumbers : Bool} {start stop : Nat}
    {line : Text} (h : line ∈ shown withNumbers rows start stop) : '\n' ∉ line := by
  cases withNumbers with
  | true => exact Assembly.notMem_rendered hrows h
  | false => exact hrows line (mem_of_mem_rowsBetween h)

/-- Behind a number no row is empty. -/
theorem filter_rendered (rows : List Text) (start stop : Nat) :
    (rendered rows start stop).filter (!·.isEmpty) = rendered rows start stop := by
  refine List.filter_eq_self.mpr fun line hline => ?_
  obtain ⟨n, -, rfl⟩ := List.mem_map.mp hline
  rw [numberedRow_eq]
  rfl

theorem shown_ne_nil (withNumbers : Bool) {start stop : Nat} (hstart : 1 ≤ start)
    (hle : start ≤ stop) (hstop : stop ≤ rows.length) :
    shown withNumbers rows start stop ≠ [] := by
  cases withNumbers with
  | true =>
    rw [shown, if_pos rfl, rendered, Ne, List.map_eq_nil_iff, List.range'_eq_nil_iff]
    omega
  | false =>
    refine List.length_pos_iff.mp (?_ : 0 < (rowsBetween rows start stop).length)
    rw [length_rowsBetween hstart hle hstop]
    omega

/-- The first and the last row of a window are numbers of rows. -/
theorem exists_bounds (hne : rows ≠ []) (cursor : Int) {size : Nat} (hsize : 0 < size) :
    ∃ start stop : Nat, bounds rows.length cursor size = ((start : Int), (stop : Int)) ∧
      Frames rows.length cursor size start stop := by
  have hframes := frames_bounds (Int.ofNat_le.mpr (List.length_pos_iff.mpr hne))
    (Int.ofNat_le.mpr hsize) cursor
  have hzero := Int.le_trans Int.one_nonneg hframes.one_le_start
  obtain ⟨start, hstart⟩ := Int.eq_ofNat_of_zero_le hzero
  obtain ⟨stop, hstop⟩ := Int.eq_ofNat_of_zero_le
    (Int.le_trans (Int.le_trans hzero hframes.start_le_cursor) hframes.cursor_le_stop)
  rw [hstart, hstop] at hframes
  exact ⟨start, stop, Prod.ext hstart hstop, hframes⟩

/-- **The window is complete.** Let the rows of a document hold no line feed, and let there be at
least one. Whatever the cursor, the size of the window and that of the chunks,

* the window frames the cursor: it lies in the document, has the wanted length or that of the
  document, and the cursor is in it;
* the chunks can be built, with row numbers and without; cut into lines again they are the rows of
  the window one after the other, as they are or behind their numbers;
* every chunk but the last has as many rows as wanted, and the last has at least one and no more;
* with row numbers, what is not empty in the chunks put together are the rows behind their
  numbers. -/
theorem chunks_complete (hne : rows ≠ []) (hrows : ∀ row ∈ rows, '\n' ∉ row) (cursor : Int)
    (size chunk : Value) :
    ∃ start stop : Nat,
      bounds rows.length cursor (effective size defaultSize) = ((start : Int), (stop : Int)) ∧
      Frames rows.length cursor (effective size defaultSize) start stop ∧
      ∀ withNumbers, ∃ texts : List Text,
        chunks (rows.map .str) cursor size chunk withNumbers = .ok ⟨texts, none⟩ ∧
        texts.flatMap Text.lines = shown withNumbers rows start stop ∧
        (∀ text ∈ texts.dropLast, text.lines.length = effective chunk defaultChunk) ∧
        (∃ last, texts.getLast? = some last ∧ 1 ≤ last.lines.length ∧
          last.lines.length ≤ effective chunk defaultChunk) ∧
        (withNumbers = true →
          (joinChunks texts).lines.filter (!·.isEmpty) = rendered rows start stop) := by
  have hchunk : 0 < effective chunk defaultChunk := effective_pos chunk (by decide)
  obtain ⟨start, stop, hbounds, hframes⟩ :=
    exists_bounds hne cursor (effective_pos size (by decide : 0 < defaultSize))
  refine ⟨start, stop, hbounds, hframes, fun withNumbers => ?_⟩
  have hchunks := chunks_shown hne cursor size chunk withNumbers
  rw [hbounds] at hchunks
  have hlines : ∀ line ∈ shown withNumbers rows start stop, '\n' ∉ line :=
    fun line hline => notMem_shown hrows hline
  have hshown : shown withNumbers rows start stop ≠ [] := by
    obtain ⟨hone, hcount, -, hstart, hstop⟩ := hframes
    exact shown_ne_nil withNumbers (by omega) (by omega) (by omega)
  refine ⟨(cut _ (shown withNumbers rows start stop)).map Text.unlines, hchunks,
    flatMap_lines_cut hchunk hlines,
    fun text htext => length_lines_of_mem_dropLast hchunk hlines htext,
    exists_last_text hchunk hlines hshown, ?_⟩
  rintro rfl
  rw [lines_joinChunks hchunk hlines]
  exact filter_rendered rows start stop

/-- Rows of which one is empty. -/
def verse : List Text := [['a'], [], ['c'], ['d'], ['e']]

/-- The cursor stands below the last row, and the second of two chunks has one row. -/
theorem verse_complete :
    verse ≠ [] ∧ (∀ row ∈ verse, '\n' ∉ row) ∧
      Frames 5 99 3 3 5 ∧
      ∃ texts : List Text,
        chunks (verse.map .str) 99 (.int 3) (.int 2) true = .ok ⟨texts, none⟩ ∧
        texts.flatMap Text.lines = ["L3: c".toList, "L4: d".toList, "L5: e".toList] ∧
        (∀ text ∈ texts.dropLast, text.lines.length = 2) ∧
        (joinChunks texts).lines.filter (!·.isEmpty)
          = ["L3: c".toList, "L4: d".toList, "L5: e".toList] := by
  have hne : verse ≠ [] := List.cons_ne_nil _ _
  have hrows : ∀ row ∈ verse, '\n' ∉ row := by decide
  obtain ⟨start, stop, hbounds, hframes, hchunks⟩ := chunks_complete hne hrows 99 (.int 3) (.int 2)
  obtain ⟨hstart, hstop⟩ := Prod.ext_iff.mp hbounds
  obtain rfl : start = 3 := (Int.ofNat_inj.mp hstart).symm
  obtain rfl : stop = 5 := (Int.ofNat_inj.mp hstop).symm
  obtain ⟨texts, htexts, hlines, hfull, -, hjoined⟩ := hchunks true
  have hshown : rendered verse 3 5 = ["L3: c".toList, "L4: d".toList, "L5: e".toList] := by
    decide +kernel
  exact ⟨hne, hrows, hframes, texts, htexts, hlines.trans hshown, hfull,
    (hjoined rfl).trans hshown⟩

end Window

end GhostEdit
