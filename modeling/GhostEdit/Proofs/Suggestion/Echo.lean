import GhostEdit.Proofs.Document.Window
import GhostEdit.Suggestion.Assembly

/-!
# Echoes of the prompt

The prompt shows the rows of a document behind their numbers, and a provider may send some of them
back. Such an answer proposes nothing: the numbers are removed, and what is left is in the document
already.

## One number and no more

A row may look numbered itself, like `L7: x`, and shows up in the prompt as `L3: L7: x`. Only what
stands at the very beginning is removed, so that the row comes back as it was. The number is read up
to the first character that is no digit of any script, and that is a colon, whatever the row holds.

## Main results

* `Assembly.dropRowNumber_numberedRow`: a row number that is put in front is removed again
* `Assembly.judgeDraft_of_isPrefix`: rows that are in the buffer already are no edit
* `Assembly.echo_dropped`
-/

namespace GhostEdit

/-- The label of a row is a letter, the digits of its number, a colon and a blank. -/
theorem Window.numberedRow_eq (n : Nat) (line : Text) :
    numberedRow n line = 'L' :: (Nat.toDigits 10 n ++ ':' :: ' ' :: line) := by
  rw [numberedRow, ← Nat.toList_repr, String.toList_append, String.toList_append,
    List.append_assoc, List.append_assoc]
  rfl

/-- The digits of a number are digits. -/
theorem isDigit_of_mem_toDigits {n : Nat} {c : Char} (h : c ∈ Nat.toDigits 10 n) :
    isDigit c = true := by
  have hdigit := Nat.isDigit_of_mem_toDigits (by decide) (by decide) h
  rw [Char.isDigit, Bool.and_eq_true, decide_eq_true_eq, decide_eq_true_eq] at hdigit
  rw [isDigit, Bool.or_eq_true, Bool.and_eq_true, decide_eq_true_eq, decide_eq_true_eq]
  exact .inl hdigit

namespace Assembly

/-- A line that looks like a row of the prompt: a letter, digits, a colon and a blank stand before
the rest of it. -/
def Labelled (line rest : Text) : Prop :=
  ∃ digits : Text, digits ≠ [] ∧ (∀ c ∈ digits, isDigit c = true) ∧
    line = 'L' :: (digits ++ ':' :: ' ' :: rest)

/-- What looks like a row number is removed. -/
theorem dropRowNumber_of_labelled {line rest : Text} (h : Labelled line rest) :
    dropRowNumber line = rest := by
  obtain ⟨digits, hne, hdigits, rfl⟩ := h
  have hcolon : ∀ c ∈ (':' :: ' ' :: rest).head?, isDigit c = false := by
    rintro c ⟨⟩
    decide
  rw [dropRowNumber, Text.takeWhile_run hdigits hcolon, if_neg (by simpa using hne),
    Text.dropWhile_run hdigits hcolon]
  rfl

/-- A row as the prompt shows it looks like one. -/
theorem labelled_numberedRow (n : Nat) (line : Text) :
    Labelled (Window.numberedRow n line) line :=
  ⟨Nat.toDigits 10 n, by simp, fun _ => isDigit_of_mem_toDigits, Window.numberedRow_eq n line⟩

/-- **A row number that is put in front** of a row is removed again, whatever the row holds. -/
theorem dropRowNumber_numberedRow (n : Nat) (line : Text) :
    dropRowNumber (Window.numberedRow n line) = line :=
  dropRowNumber_of_labelled (labelled_numberedRow n line)

variable {current : List Text} {d : Draft} {raw : Value}

/-- All of a beginning agrees with what it begins. -/
theorem leadingMatches_of_isPrefix {lines rows : List Text} (h : lines <+: rows) :
    leadingMatches lines rows = lines.length := by
  obtain ⟨rest, rfl⟩ := h
  induction lines with
  | nil => simp [leadingMatches]
  | cons line lines ih => rw [List.cons_append, leadingMatches, if_pos rfl, ih, List.length_cons]

/-- **Rows that are in the buffer already** are no edit. -/
theorem judgeDraft_of_isPrefix (hrow : d.startRow ≤ (current.length : Int) + 1)
    (h : dropRowNumbers d.content.lines <+: current.drop (d.startRow - 1).toNat) :
    judgeDraft current d = .present d.startRow := by
  rw [judgeDraft, if_neg (by omega)]
  dsimp only
  rw [leadingMatches_of_isPrefix h, List.drop_length]
  rfl

/-- A value that becomes no item makes no difference to the others. -/
theorem build_of_item?_eq_none (h : (judge current raw).item? = none)
    (before after : List Value) :
    build (.arr (before ++ raw :: after)) current = build (.arr (before ++ after)) current := by
  have hcandidates : candidates (before ++ raw :: after) current
      = candidates (before ++ after) current := by
    simp [candidates, h]
  rw [build, assemble, hcandidates]
  rfl

/-- A row that is shown holds no line feed if none is in the document. -/
theorem notMem_rendered {rows : List Text} (hrows : ∀ row ∈ rows, '\n' ∉ row) {start stop : Nat}
    {line : Text} (h : line ∈ Window.rendered rows start stop) : '\n' ∉ line := by
  obtain ⟨r, _, rfl⟩ := List.mem_map.mp h
  have hlabel : ∀ c ∈ Nat.toDigits 10 r, c ≠ '\n' := by
    rintro c hc rfl
    exact absurd (isDigit_of_mem_toDigits hc) (by decide)
  have hrow : '\n' ∉ rows[r - 1]?.getD [] := by
    cases hget : rows[r - 1]? with
    | none => simp
    | some row => exact hrows row (List.mem_of_getElem? hget)
  rw [Window.numberedRow_eq]
  intro hmem
  rcases List.mem_cons.mp hmem with heq | hmem
  · cases heq
  · rcases List.mem_append.mp hmem with hmem | hmem
    · exact hlabel _ hmem rfl
    · simp only [List.mem_cons] at hmem
      rcases hmem with heq | heq | hmem
      · cases heq
      · cases heq
      · exact hrow hmem

/-- **The rows shown** are those of the document once their numbers are removed. -/
theorem dropRowNumbers_rendered {rows : List Text} {start stop : Nat} (hstart : 1 ≤ start)
    (hstop : stop ≤ rows.length) :
    dropRowNumbers (Window.rendered rows start stop) <+: rows.drop (start - 1) := by
  have hslice : dropRowNumbers (Window.rendered rows start stop)
      = (rows.drop (start - 1)).take (stop + 1 - start) := by
    rw [dropRowNumbers, Window.rendered, List.map_map]
    refine List.ext_getElem ?_ ?_
    · simp only [List.length_map, List.length_range', List.length_take, List.length_drop]
      omega
    · intro i hi _
      have hlt : start - 1 + i < rows.length := by
        simp only [List.length_map, List.length_range'] at hi
        omega
      have hindex : start + i - 1 = start - 1 + i := by omega
      simp only [List.getElem_map, List.getElem_range', Function.comp_apply, Nat.one_mul,
        dropRowNumber_numberedRow, hindex, List.getElem?_eq_getElem hlt, Option.getD_some,
        List.getElem_take, List.getElem_drop]
  rw [hslice]
  exact List.take_prefix ..

/-- The verdict on an echo: it is in the buffer already. -/
theorem judge_echo {rows : List Text} (hrows : ∀ row ∈ rows, '\n' ∉ row) {start stop : Nat}
    {endRow : Int} (hstart : 1 ≤ start) (hle : start ≤ stop) (hstop : stop ≤ rows.length)
    (hcontent : (raw.get? "content").bind Value.chars?
      = some (Text.unlines (Window.rendered rows start stop)))
    (hfirst : (Draft.field? raw "start_row" "startRow").bind Draft.row? = some (start : Int))
    (hlast : (Draft.field? raw "end_row" "endRow").bind Draft.row? = some endRow)
    (hend : (start : Int) ≤ endRow) : judge rows raw = .present start := by
  have hdraft : Draft.ofValue? raw
      = some ⟨Text.unlines (Window.rendered rows start stop), start, endRow⟩ := by
    have horder : 1 ≤ (start : Int) ∧ (start : Int) ≤ endRow := ⟨by omega, hend⟩
    simp [Draft.ofValue?, hcontent, hfirst, hlast, horder]
  have hlines : (Text.unlines (Window.rendered rows start stop)).lines
      = Window.rendered rows start stop := by
    refine Text.lines_unlines ?_ fun line hline => notMem_rendered hrows hline
    rw [Window.rendered, Ne, List.map_eq_nil_iff, List.range'_eq_nil_iff]
    omega
  rw [judge, hdraft]
  refine judgeDraft_of_isPrefix (d := ⟨_, start, endRow⟩) ?_ ?_
  · show (start : Int) ≤ (rows.length : Int) + 1
    omega
  · show dropRowNumbers (Text.unlines (Window.rendered rows start stop)).lines
      <+: rows.drop ((start : Int) - 1).toNat
    have hindex : ((start : Int) - 1).toNat = start - 1 := by omega
    rw [hlines, hindex]
    exact dropRowNumbers_rendered hstart hstop

/-- **An echo of the prompt is never an edit.** Let the rows of a document hold no line feed, and
let its window be shown with row numbers, whatever the cursor, the size of the window and that of
the chunks. Then

* the chunks show the rows of the window, row `r` as `L`, the number `r`, a colon, a blank and the
  row; and what is shown of any row, whatever it holds, becomes the row again;
* an item of an answer that starts in row `s` and holds rows `s` to `e` of the window as they were
  shown makes no difference to the suggestion set, whatever row it says it ends with and whatever
  other items there are. -/
theorem echo_dropped {rows : List Text} (hrows : ∀ row ∈ rows, '\n' ∉ row) (cursor : Int)
    (size chunk : Value) :
    let window := Window.bounds rows.length cursor (Window.effective size Window.defaultSize)
    (rows ≠ [] → ∃ parts : List (List Text),
      Window.chunks (rows.map .str) cursor size chunk true
          = .ok ⟨parts.map Text.unlines, none⟩ ∧
        parts.flatten = Window.rendered rows window.1.toNat window.2.toNat ∧
        ∀ part ∈ parts,
          part ≠ [] ∧ part.length ≤ Window.effective chunk Window.defaultChunk) ∧
      (∀ n line, dropRowNumber (Window.numberedRow n line) = line) ∧
      ∀ s e : Nat, window.1 ≤ s → s ≤ e → e ≤ window.2 → ∀ raw endRow,
        (raw.get? "content").bind Value.chars?
            = some (Text.unlines (Window.rendered rows s e)) →
        (Draft.field? raw "start_row" "startRow").bind Draft.row? = some (s : Int) →
        (Draft.field? raw "end_row" "endRow").bind Draft.row? = some endRow →
        (s : Int) ≤ endRow →
        ∀ before after, build (.arr (before ++ raw :: after)) rows
          = build (.arr (before ++ after)) rows := by
  intro window
  have hsize : (1 : Int) ≤ Window.effective size Window.defaultSize :=
    Int.ofNat_le.mpr (Window.effective_pos size (by decide))
  obtain ⟨hfirst, hlast, _⟩ := Window.bounds_within hsize rows.length cursor
  refine ⟨fun hne => Window.chunks_rendered hne cursor size chunk, dropRowNumber_numberedRow, ?_⟩
  intro s e hs hse he raw endRow hcontent hstart hend hle before after
  have hs' : 1 ≤ s := Int.ofNat_le.mp (Int.le_trans hfirst hs)
  have he' : e ≤ rows.length := Int.ofNat_le.mp (Int.le_trans he hlast)
  have hverdict := judge_echo hrows hs' hse he' hcontent hstart hend hle
  refine build_of_item?_eq_none ?_ before after
  rw [hverdict]
  rfl

/-- Rows of which the first looks numbered. -/
def catalogue : List Text := ["L7: x".toList, "b".toList, [], "d".toList]

/-- The first two rows as the prompt shows them. -/
def echoed : Value :=
  .obj [Value.member "content" (.ofString "L1: L7: x\nL2: b"), Value.member "startRow" (.int 1),
    Value.member "end_row" (.int 9)]

/-- An edit of the third row. -/
def filled : Value :=
  .obj [Value.member "content" (.ofString "c"), Value.member "start_row" (.int 3),
    Value.member "end_row" (.int 3)]

theorem echoed_dropped :
    (∀ row ∈ catalogue, '\n' ∉ row) ∧ Window.bounds 4 2 3 = (1, 3) ∧
      Window.rendered catalogue 1 2 = ["L1: L7: x".toList, "L2: b".toList] ∧
      build (.arr [echoed, filled]) catalogue
        = [{ id := 1, content := ['c'], startRow := 3, endRow := 3, firstRow := 3 }] := by
  have hrows : ∀ row ∈ catalogue, '\n' ∉ row := by decide
  have hshown : Window.rendered catalogue 1 2 = ["L1: L7: x".toList, "L2: b".toList] := by
    decide +kernel
  obtain ⟨-, -, hdropped⟩ := echo_dropped hrows 2 (.int 3) (.int 2)
  have hcontent : (echoed.get? "content").bind Value.chars?
      = some (Text.unlines (Window.rendered catalogue 1 2)) := by
    rw [hshown]
    rfl
  have hsame : build (.arr ([] ++ echoed :: [filled])) catalogue
      = build (.arr ([] ++ [filled])) catalogue :=
    hdropped 1 2 (by decide) (by decide) (by decide) echoed 9 hcontent rfl rfl (by decide) []
      [filled]
  refine ⟨hrows, by decide, hshown, hsame.trans ?_⟩
  decide +kernel

end Assembly

end GhostEdit
