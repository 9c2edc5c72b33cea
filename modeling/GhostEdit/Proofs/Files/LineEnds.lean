import GhostEdit.Files
import GhostEdit.Proofs.Text.Utf8

/-!
# The ends of lines

A file may end its lines with a line feed, a carriage return or both. Reading makes line feeds of
all of them, and writing puts line feeds only. This file keeps the rows of a file together with what
ends them there (`Files.rowsOf`), so that what a text in a buffer has lost can be told: the rows are
the same, and their ends are not.

## Main definitions

* `Files.rowsOf`: the rows of a text as a file has them, each with what ends it
* `Files.ended`: rows that end with line feeds, as they are written

## Main results

* `Files.flatMap_rowsOf`, `Files.map_rowsOf`: the rows of a text, with their ends and without
* `Files.bytes_unifyLineEnds_iff`: reading and writing keeps the bytes of a file that has no
  carriage return, and of no other
-/

namespace GhostEdit

namespace Files

/-! ## Rows with their ends -/

/-- The rows of a text as a file has them, each with what ends it there; the last row is ended by
nothing. -/
def rowsOf : Text → List (Text × Text)
  | '\r' :: '\n' :: rest => ([], ['\r', '\n']) :: rowsOf rest
  | '\r' :: rest => ([], ['\r']) :: rowsOf rest
  | '\n' :: rest => ([], ['\n']) :: rowsOf rest
  | c :: rest =>
    match rowsOf rest with
    | [] => [([c], [])]
    | (row, ending) :: more => (c :: row, ending) :: more
  | [] => [([], [])]

/-- A row with what ends it. -/
def joined (row : Text × Text) : Text := row.1 ++ row.2

/-- Rows that end with line feeds, all but the last. -/
def ended : List Text → List (Text × Text)
  | [] => []
  | [row] => [(row, [])]
  | row :: more => (row, ['\n']) :: ended more

theorem rowsOf_ne_nil (t : Text) : rowsOf t ≠ [] := by
  fun_cases rowsOf t <;> simp

theorem rowsOf_cons {c : Char} {rest row ending : Text} {more : List (Text × Text)}
    (hreturn : c ≠ '\r') (hfeed : c ≠ '\n') (h : rowsOf rest = (row, ending) :: more) :
    rowsOf (c :: rest) = (c :: row, ending) :: more := by
  rw [rowsOf, h]
  · rintro _ rfl
    exact absurd rfl hreturn
  · exact hreturn
  · exact hfeed

/-- Nothing of a file is lost in its rows and their ends. -/
theorem flatMap_rowsOf (t : Text) : (rowsOf t).flatMap joined = t := by
  fun_induction unifyLineEnds t with
  | case1 rest ih => simp [rowsOf, joined, ih]
  | case2 rest hnot ih => simp [rowsOf, joined, ih]
  | case3 c rest _ hreturn ih =>
    by_cases hfeed : c = '\n'
    · simp [rowsOf, joined, hfeed, ih]
    · obtain ⟨⟨row, ending⟩, more, hrows⟩ := List.exists_cons_of_ne_nil (rowsOf_ne_nil rest)
      rw [rowsOf_cons hreturn hfeed hrows, ← ih, hrows]
      rfl
  | case4 => rfl

/-- A buffer has the rows of the file. -/
theorem map_rowsOf (t : Text) : (rowsOf t).map Prod.fst = (unifyLineEnds t).lines := by
  fun_induction unifyLineEnds t with
  | case1 rest ih => simp [rowsOf, Text.lines, Text.pieces, ih]
  | case2 rest hnot ih => simp [rowsOf, Text.lines, Text.pieces, ih]
  | case3 c rest _ hreturn ih =>
    by_cases hfeed : c = '\n'
    · simp [rowsOf, Text.lines, Text.pieces, hfeed, ih]
    · obtain ⟨⟨row, ending⟩, more, hrows⟩ := List.exists_cons_of_ne_nil (rowsOf_ne_nil rest)
      rw [hrows] at ih
      rw [rowsOf_cons hreturn hfeed hrows, Text.lines, Text.pieces, if_neg hfeed]
      rw [Text.lines] at ih
      rw [← ih]
      rfl
  | case4 => rfl

/-- Only the last row of a file is ended by nothing. -/
theorem not_last_of_ending {t row ending : Text} {k : Nat}
    (h : (rowsOf t)[k]? = some (row, ending)) (hne : ending ≠ []) :
    k + 1 < (rowsOf t).length := by
  fun_induction unifyLineEnds t generalizing k row with
  | case1 rest ih =>
    have hpos := List.length_pos_iff.mpr (rowsOf_ne_nil rest)
    rw [rowsOf] at h ⊢
    cases k with
    | zero => simpa using hpos
    | succ k => simpa using ih h
  | case2 rest hnot ih =>
    have hpos := List.length_pos_iff.mpr (rowsOf_ne_nil rest)
    have hrows : rowsOf ('\r' :: rest) = ([], ['\r']) :: rowsOf rest := by simp [rowsOf]
    rw [hrows] at h ⊢
    cases k with
    | zero => simpa using hpos
    | succ k => simpa using ih h
  | case3 c rest _ hreturn ih =>
    by_cases hfeed : c = '\n'
    · have hpos := List.length_pos_iff.mpr (rowsOf_ne_nil rest)
      have hrows : rowsOf (c :: rest) = ([], ['\n']) :: rowsOf rest := by simp [rowsOf, hfeed]
      rw [hrows] at h ⊢
      cases k with
      | zero => simpa using hpos
      | succ k => simpa using ih h
    · obtain ⟨⟨first, other⟩, more, hrows⟩ := List.exists_cons_of_ne_nil (rowsOf_ne_nil rest)
      rw [rowsOf_cons hreturn hfeed hrows] at h ⊢
      rw [hrows] at ih
      cases k with
      | zero =>
        cases h
        exact ih rfl
      | succ k => exact ih h
  | case4 =>
    cases k with
    | zero =>
      cases h
      exact absurd rfl hne
    | succ k => cases h

/-! ## Rows that end with line feeds -/

theorem flatMap_ended (rows : List Text) : (ended rows).flatMap joined = Text.unlines rows := by
  fun_induction ended rows with
  | case1 => rfl
  | case2 row => simp [joined, Text.unlines, Text.join]
  | case3 row more hmore ih =>
    obtain ⟨next, rest, rfl⟩ := List.exists_cons_of_ne_nil hmore
    rw [List.flatMap_cons, ih]
    rfl

theorem getElem?_ended {rows : List Text} {k : Nat} {row : Text} (h : rows[k]? = some row) :
    (ended rows)[k]? = some (row, if k + 1 < rows.length then ['\n'] else []) := by
  fun_induction ended rows generalizing k with
  | case1 => cases h
  | case2 only =>
    cases k with
    | zero =>
      cases h
      rfl
    | succ k => cases h
  | case3 first more hmore ih =>
    cases k with
    | zero =>
      cases h
      have hpos := List.length_pos_iff.mpr hmore
      rw [List.length_cons, if_pos (by omega)]
      rfl
    | succ k =>
      rw [List.length_cons]
      simpa using ih h

/-! ## Files without carriage returns -/

theorem unifyLineEnds_of_notMem {t : Text} (h : '\r' ∉ t) : unifyLineEnds t = t := by
  fun_induction unifyLineEnds t with
  | case1 => simp at h
  | case2 => simp at h
  | case3 c rest _ hreturn ih => rw [ih fun hmem => h (List.mem_cons_of_mem c hmem)]
  | case4 => rfl

theorem notMem_unifyLineEnds (t : Text) : '\r' ∉ unifyLineEnds t := by
  fun_induction unifyLineEnds t with
  | case1 rest ih => simp [ih]
  | case2 rest _ ih => simp [ih]
  | case3 c rest _ hreturn ih =>
    have hne : '\r' ≠ c := fun heq => hreturn heq.symm
    simp [ih, hne]
  | case4 => simp

/-- **Reading and writing keeps the bytes** of a file that has no carriage return, and of no
other. -/
theorem bytes_unifyLineEnds_iff {t : Text} :
    Utf8.bytes (unifyLineEnds t) = Utf8.bytes t ↔ '\r' ∉ t := by
  constructor
  · intro hbytes hmem
    have hsame := (Utf8.decode_bytes (unifyLineEnds t)).symm.trans
      ((congrArg Utf8.decode hbytes).trans (Utf8.decode_bytes t))
    rw [← Except.ok.inj hsame] at hmem
    exact notMem_unifyLineEnds t hmem
  · intro hnot
    rw [unifyLineEnds_of_notMem hnot]

end Files

end GhostEdit
