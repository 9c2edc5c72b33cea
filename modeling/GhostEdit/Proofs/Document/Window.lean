import GhostEdit.Document.Window

/-!
# What a window shows

A window is cut into chunks after its rows were numbered, so that every chunk goes on counting where
the one before it stopped. This file says what the chunks show, without the cuts: put together they
are the rows of the window, each behind its own number.

## Main definitions

* `rowsBetween`: some rows of a document
* `Window.rendered`: the same rows, each behind its number
* `Window.labelled`: rows of any kind that have been numbered, each behind its number

## Main results

* `Window.bounds_within`: a window lies within its document
* `Window.flatten_cut`, `Window.length_of_mem_cut`: cutting loses nothing, and no stretch is empty
* `Window.chunks_numbered`: numbered rows can always be shown, whatever they are
* `Window.chunks_rendered`: what the chunks of a window show
-/

namespace GhostEdit

/-! ## Rows of a document -/

/-- The rows of a document from one to another, both counted from one. -/
def rowsBetween (rows : List Text) (s e : Nat) : List Text := (rows.drop (s - 1)).take (e + 1 - s)

section

variable {rows : List Text} {s e : Nat}

theorem length_rowsBetween (hs : 1 ≤ s) (hse : s ≤ e) (he : e ≤ rows.length) :
    (rowsBetween rows s e).length = e + 1 - s := by
  rw [rowsBetween, List.length_take, List.length_drop]
  omega

theorem mem_of_mem_rowsBetween {row : Text} (h : row ∈ rowsBetween rows s e) : row ∈ rows :=
  List.mem_of_mem_drop (List.mem_of_mem_take h)

/-- The rows above, the rows themselves and the rows below make up the document. -/
theorem take_rowsBetween_drop (hs : 1 ≤ s) (hse : s ≤ e) :
    rows.take (s - 1) ++ rowsBetween rows s e ++ rows.drop e = rows := by
  have hbelow : rows.drop e = (rows.drop (s - 1)).drop (e + 1 - s) := by
    rw [List.drop_drop]
    congr 1
    omega
  rw [rowsBetween, hbelow, List.append_assoc, List.take_append_drop, List.take_append_drop]

end

namespace Window

variable {α β : Type}

/-- The rows of a document from `start` to `stop`, each behind its number. -/
def rendered (rows : List Text) (start stop : Nat) : List Text :=
  (List.range' start (stop + 1 - start)).map fun r => numberedRow r (rows[r - 1]?.getD [])

/-- Numbered rows of any kind, each behind its number. -/
def labelled (rows : List (Nat × Value)) : List Text :=
  rows.map fun (n, row) => numberedRow n row.displayText

/-! ## Where a window lies -/

theorem effective_pos (v : Value) {default : Nat} (h : 0 < default) : 0 < effective v default := by
  unfold effective
  split
  · split
    · omega
    · exact h
  · exact h

/-- **A window lies within its document**; of an empty document it is empty. -/
theorem bounds_within {size : Int} (hsize : 1 ≤ size) (count cursor : Int) :
    1 ≤ (bounds count cursor size).1 ∧ (bounds count cursor size).2 ≤ count ∧
      (1 ≤ count → (bounds count cursor size).1 ≤ (bounds count cursor size).2) := by
  simp only [bounds]
  omega

/-! ## Cutting and numbering -/

theorem flatten_cutWithin {size : Nat} (hsize : 0 < size) {fuel : Nat} {xs : List α}
    (hfuel : xs.length ≤ fuel) : (cutWithin size fuel xs).flatten = xs := by
  induction fuel generalizing xs with
  | zero =>
    rw [List.eq_nil_of_length_eq_zero (Nat.le_zero.mp hfuel)]
    rfl
  | succ fuel ih =>
    cases xs with
    | nil => rfl
    | cons x xs =>
      have hrest : ((x :: xs).drop size).length ≤ fuel := by
        rw [List.length_drop]
        omega
      rw [cutWithin, List.flatten_cons, ih hrest, List.take_append_drop]

theorem length_of_mem_cutWithin {size : Nat} (hsize : 0 < size) {fuel : Nat} {xs part : List α}
    (h : part ∈ cutWithin size fuel xs) : part ≠ [] ∧ part.length ≤ size := by
  induction fuel generalizing xs with
  | zero => cases h
  | succ fuel ih =>
    cases xs with
    | nil => cases h
    | cons x xs =>
      rcases List.mem_cons.mp h with rfl | h
      · constructor
        · obtain ⟨n, rfl⟩ := Nat.exists_eq_succ_of_ne_zero (Nat.ne_of_gt hsize)
          simp
        · rw [List.length_take]
          exact Nat.min_le_left ..
      · exact ih h

/-- **Cutting loses nothing.** -/
theorem flatten_cut {size : Nat} (hsize : 0 < size) (xs : List α) : (cut size xs).flatten = xs :=
  flatten_cutWithin hsize (Nat.le_refl _)

/-- No stretch is empty, and none is longer than it may be. -/
theorem length_of_mem_cut {size : Nat} (hsize : 0 < size) {xs part : List α}
    (h : part ∈ cut size xs) : part ≠ [] ∧ part.length ≤ size :=
  length_of_mem_cutWithin hsize h

theorem numbered_map (f : α → β) (n : Nat) (xs : List α) :
    numbered n (xs.map f) = (numbered n xs).map fun (m, x) => (m, f x) := by
  induction xs generalizing n with
  | nil => rfl
  | cons x xs ih => rw [List.map_cons, numbered, numbered, ih, List.map_cons]

/-- Rows that are taken out of a document and then numbered are rows behind their numbers. -/
theorem map_numbered_slice (rows : List Text) {first count : Nat} (hfirst : 1 ≤ first)
    (hlast : first - 1 + count ≤ rows.length) :
    (numbered first ((rows.drop (first - 1)).take count)).map (fun (n, row) => numberedRow n row)
      = (List.range' first count).map fun r => numberedRow r (rows[r - 1]?.getD []) := by
  induction count generalizing first with
  | zero => rfl
  | succ count ih =>
    have hlt : first - 1 < rows.length := by omega
    rw [List.drop_eq_getElem_cons hlt, List.take_succ_cons, numbered, List.map_cons,
      List.range'_succ, List.map_cons, List.getElem?_eq_getElem hlt, Option.getD_some,
      Nat.sub_add_cancel hfirst]
    exact congrArg _ (ih (Nat.le_add_left 1 first) (by omega))

theorem map_numbered_rowsBetween {rows : List Text} {start stop : Nat} (hstart : 1 ≤ start)
    (hle : start ≤ stop) (hstop : stop ≤ rows.length) :
    (numbered start (rowsBetween rows start stop)).map (fun (n, row) => numberedRow n row)
      = rendered rows start stop :=
  map_numbered_slice rows hstart (by omega)

/-- The rows of the window of a document whose rows are texts. -/
theorem rowsOf_texts {rows : List Text} (hne : rows ≠ []) (cursor : Int) {size : Nat}
    (hsize : 0 < size) :
    rowsOf (rows.map .str) cursor size
      = (numbered (bounds rows.length cursor size).1.toNat
          (rowsBetween rows (bounds rows.length cursor size).1.toNat
            (bounds rows.length cursor size).2.toNat)).map fun (n, row) => (n, .str row) := by
  have hcount : 1 ≤ rows.length := List.length_pos_iff.mpr hne
  obtain ⟨hstart, -, hle⟩ := bounds_within (Int.ofNat_le.mpr hsize) rows.length cursor
  replace hle := hle (Int.ofNat_le.mpr hcount)
  rw [rowsOf, List.length_map]
  generalize bounds rows.length cursor size = window at *
  obtain ⟨start, stop⟩ := window
  dsimp only at hstart hle ⊢
  have hlength : (stop - start + 1).toNat = stop.toNat + 1 - start.toNat := by omega
  rw [hlength, ← List.map_drop, ← List.map_take, numbered_map, rowsBetween]

/-- The rows of a window behind their numbers. -/
theorem labelled_rowsOf {rows : List Text} (hne : rows ≠ []) (cursor : Int) {size : Nat}
    (hsize : 0 < size) :
    labelled (rowsOf (rows.map .str) cursor size)
      = rendered rows (bounds rows.length cursor size).1.toNat
          (bounds rows.length cursor size).2.toNat := by
  have hcount : 1 ≤ rows.length := List.length_pos_iff.mpr hne
  obtain ⟨hstart, hstop, hle⟩ := bounds_within (Int.ofNat_le.mpr hsize) rows.length cursor
  replace hle := hle (Int.ofNat_le.mpr hcount)
  rw [rowsOf_texts hne cursor hsize, labelled, List.map_map]
  exact map_numbered_rowsBetween (by omega) (by omega) (by omega)

/-! ## What the chunks show -/

theorem textsOf_numbered (parts : List (List (Nat × Value))) :
    textsOf true parts
      = ⟨parts.map fun part => Text.unlines (labelled part), none⟩ := by
  induction parts with
  | nil => rfl
  | cons rows rest ih =>
    rw [textsOf, chunkText, if_pos rfl]
    dsimp only
    rw [ih, List.map_cons]
    rfl

/-- **Numbered rows can always be shown**, whatever they are. -/
theorem chunks_numbered {rows : List Value} (hne : rows ≠ []) (cursor : Int)
    (size chunk : Value) :
    chunks rows cursor size chunk true
      = .ok ⟨(cut (effective chunk defaultChunk)
          (rowsOf rows cursor (effective size defaultSize))).map
            fun part => Text.unlines (labelled part), none⟩ := by
  have hempty : ¬rows.isEmpty = true := by simpa using hne
  rw [chunks, if_neg hempty, textsOf_numbered]

/-- **What the chunks of a window show**: put together, the rows of the window behind their
numbers. -/
theorem chunks_rendered {rows : List Text} (hne : rows ≠ []) (cursor : Int) (size chunk : Value) :
    ∃ parts : List (List Text),
      chunks (rows.map .str) cursor size chunk true = .ok ⟨parts.map Text.unlines, none⟩ ∧
      parts.flatten = rendered rows
        (bounds rows.length cursor (effective size defaultSize)).1.toNat
        (bounds rows.length cursor (effective size defaultSize)).2.toNat ∧
      ∀ part ∈ parts, part ≠ [] ∧ part.length ≤ effective chunk defaultChunk := by
  have hchunk : 0 < effective chunk defaultChunk := effective_pos chunk (by decide)
  let parts := cut (effective chunk defaultChunk)
    (rowsOf (rows.map .str) cursor (effective size defaultSize))
  refine ⟨parts.map labelled, ?_, ?_, ?_⟩
  · rw [chunks_numbered (by simpa using hne), List.map_map]
    rfl
  · have hflat : (parts.map labelled).flatten = labelled parts.flatten := by
      rw [labelled, List.map_flatten]
      rfl
    rw [hflat, flatten_cut hchunk]
    exact labelled_rowsOf hne cursor (effective_pos size (by decide))
  · intro part hpart
    obtain ⟨whole, hwhole, rfl⟩ := List.mem_map.mp hpart
    obtain ⟨hnonempty, hlength⟩ := length_of_mem_cut hchunk hwhole
    refine ⟨by simpa [labelled] using hnonempty, ?_⟩
    rw [labelled, List.length_map]
    exact hlength

end Window

end GhostEdit
