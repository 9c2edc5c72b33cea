import GhostEdit.Proofs.Buffer.Texts
import GhostEdit.Proofs.Suggestion.Echo

/-!
# What a trimmed item means

A draft says which rows of a document to replace and by what. The item that is made of it says
something else: leading rows that are in place already are left out, the start moves below them, and
the end is clamped to the document. This file compares the two.

## Rows in place beyond the end

Trimming looks at the proposed rows and at the rows of the document from the start on, and never at
the end of the replaced rows. As long as the rows in place lie within the replaced ones, applying
the item is replacing the rows as proposed (`Draft.result_eq_replaced`). If they go beyond, the item
starts after its own end and inserts what is left of its content there: the rows in place are not
doubled.

If nothing is left of the content the draft is dropped as being in place, also where it has fewer
rows than it replaces, and then the rows that it was to remove stay (`Assembly.present_noop_iff`).

## Main definitions

* `agreement`: how many leading rows two lists share
* `Draft.replaced`: a document in which a draft is followed to the letter
* `Draft.result`: a document in which its trimmed item is applied
* `Draft.Survives`: a draft of which trimming leaves something

## Main results

* `Assembly.item?_judge_eq_some_iff`: the item a draft becomes
* `Assembly.build_carriesOut`: what applying it does
* `Assembly.present_noop_iff`: when dropping a draft loses nothing
-/

namespace GhostEdit

/-! ## Rows in place -/

/-- How many leading rows two lists share. -/
def agreement (xs ys : List Text) : Nat :=
  ((xs.zip ys).takeWhile fun (x, y) => decide (x = y)).length

theorem take_agreement (xs ys : List Text) :
    xs.take (agreement xs ys) = ys.take (agreement xs ys) := by
  induction xs generalizing ys with
  | nil => simp [agreement]
  | cons x xs ih =>
    cases ys with
    | nil => simp [agreement]
    | cons y ys =>
      by_cases h : x = y
      · have htail := ih ys
        simp only [agreement] at htail ⊢
        simp [h, htail]
      · simp [agreement, h]

theorem agreement_le (xs ys : List Text) :
    agreement xs ys ≤ xs.length ∧ agreement xs ys ≤ ys.length := by
  have hle : agreement xs ys ≤ (xs.zip ys).length := (List.takeWhile_sublist _).length_le
  rw [List.length_zip] at hle
  exact ⟨Nat.le_trans hle (Nat.min_le_left ..), Nat.le_trans hle (Nat.min_le_right ..)⟩

/-- Counting stops at the first two rows that differ. -/
theorem Assembly.leadingMatches_eq (xs ys : List Text) :
    leadingMatches xs ys = agreement xs ys := by
  fun_induction leadingMatches xs ys with
  | case1 a as bs ih => simp [agreement, ih]
  | case2 a as b bs h => simp [agreement, h]
  | case3 xs ys h =>
    cases xs with
    | nil => simp [agreement]
    | cons x xs =>
      cases ys with
      | nil => simp [agreement]
      | cons y ys => exact absurd rfl (h x xs y ys rfl)

/-- A row without its number is the end of the row. -/
theorem Assembly.dropRowNumber_suffix (line : Text) : dropRowNumber line <:+ line := by
  unfold dropRowNumber
  split
  · next rest =>
    split
    · exact List.suffix_rfl
    · split
      · next after hdigits =>
        have hrest : ':' :: ' ' :: after <:+ rest := hdigits ▸ List.dropWhile_suffix isDigit
        exact ((List.suffix_append [':', ' '] after).trans hrest).trans (List.suffix_cons 'L' rest)
      · exact List.suffix_rfl
  · exact List.suffix_rfl

namespace Draft

/-- The rows a draft proposes, without row numbers that leaked from the prompt. -/
def rows (d : Draft) : List Text := Assembly.dropRowNumbers d.content.lines

/-- The last row that a draft replaces in a document of `size` rows. -/
def lastRow (d : Draft) (size : Nat) : Int := min d.endRow size

/-- How many of the proposed rows the document has already, from the start row on. -/
def inPlace (d : Draft) (current : List Text) : Nat :=
  agreement d.rows (current.drop (d.startRow - 1).toNat)

/-- The document in which the draft is followed to the letter. -/
def replaced (d : Draft) (current : List Text) : List Text :=
  current.take (d.startRow - 1).toNat ++ d.rows ++ current.drop (d.lastRow current.length).toNat

/-- The document in which the trimmed item of the draft is applied. -/
def result (d : Draft) (current : List Text) : List Text :=
  current.take (d.startRow - 1).toNat ++ d.rows
    ++ current.drop (max (d.lastRow current.length) (d.startRow - 1 + d.inPlace current)).toNat

/-- Trimming leaves something of a draft: it does not start beyond the row after the last one, and
the rows that are not in place are more than a single empty one. -/
structure Survives (d : Draft) (current : List Text) : Prop where
  startRow_le : d.startRow ≤ current.length + 1
  rest_ne_nil : d.rows.drop (d.inPlace current) ≠ []
  rest_ne_blank : d.rows.drop (d.inPlace current) ≠ [[]]

/-- The item that is made of a draft. -/
def item (d : Draft) (current : List Text) (id : Int) : Item :=
  { id
    content := Text.unlines (d.rows.drop (d.inPlace current))
    startRow := d.startRow + d.inPlace current
    endRow := d.lastRow current.length
    firstRow := d.startRow }

variable {d : Draft} {current : List Text} {id : Int}

/-- **Trimming changes nothing** as long as the rows in place lie within those that are replaced. -/
theorem result_eq_replaced
    (h : (d.inPlace current : Int) ≤ d.lastRow current.length - d.startRow + 1) :
    d.result current = d.replaced current := by
  rw [result, replaced, Int.max_eq_left (by omega)]

/-! ## The item of a draft -/

theorem notMem_rows {row : Text} (h : row ∈ d.rows) : '\n' ∉ row := by
  obtain ⟨line, hline, rfl⟩ := List.mem_map.mp h
  have hsuffix := Assembly.dropRowNumber_suffix line
  exact fun hmem => Text.notMem_of_mem_pieces hline (hsuffix.subset hmem)

/-- The content of the item is what is not in place. -/
theorem Survives.lines_item (h : d.Survives current) (id : Int) :
    (d.item current id).lines = d.rows.drop (d.inPlace current) :=
  Text.lines_unlines h.rest_ne_nil fun _ hrow => notMem_rows (List.mem_of_mem_drop hrow)

theorem inPlace_le (d : Draft) (current : List Text) :
    d.inPlace current ≤ d.rows.length ∧
      d.inPlace current ≤ current.length - (d.startRow - 1).toNat := by
  have hle := agreement_le d.rows (current.drop (d.startRow - 1).toNat)
  rwa [List.length_drop] at hle

/-- The rows above the item are those above the draft and the proposed rows in place. -/
theorem take_inPlace (hone : 1 ≤ d.startRow) (current : List Text) :
    current.take (d.startRow - 1 + d.inPlace current).toNat
      = current.take (d.startRow - 1).toNat ++ d.rows.take (d.inPlace current) := by
  have hindex : (d.startRow - 1 + d.inPlace current).toNat
      = (d.startRow - 1).toNat + d.inPlace current := by omega
  rw [hindex, List.take_add, inPlace, take_agreement]

theorem length_result (hone : 1 ≤ d.startRow) (h : d.startRow ≤ current.length + 1)
    (hend : d.startRow ≤ d.endRow) :
    ((d.result current).length : Int) = current.length + d.rows.length - d.inPlace current
      - max 0 (d.lastRow current.length - (d.startRow + d.inPlace current) + 1) := by
  have hle := (d.inPlace_le current).2
  simp only [result, List.length_append, List.length_take, List.length_drop, lastRow] at hle ⊢
  omega

/-- **Applying the item** of a draft to a document gives its result. -/
theorem Survives.applyRows_item (h : d.Survives current) (hone : 1 ≤ d.startRow) (id : Int) :
    Buffer.applyRows (d.item current id) (current.map .str) = (d.result current).map .str := by
  have hle := (d.inPlace_le current).2
  have hstart := h.startRow_le
  have habove : (d.item current id).startRow - 1 = d.startRow - 1 + d.inPlace current := by
    show d.startRow + d.inPlace current - 1 = _
    omega
  have hstop : (d.item current id).stopRow - 1
      = max (d.lastRow current.length) (d.startRow - 1 + d.inPlace current) := by
    show d.startRow + d.inPlace current
      + max 0 (d.lastRow current.length - (d.startRow + d.inPlace current) + 1) - 1 = _
    omega
  have hrows : (d.item current id).rows
      = (d.rows.drop (d.inPlace current)).map .str := by
    rw [Item.rows, h.lines_item]
  have hpositive : 1 ≤ (d.item current id).startRow := by omega
  rw [Buffer.applyRows_eq hpositive, habove, hstop, hrows,
    Buffer.padTo_of_le (by rw [List.length_map]; omega), ← List.map_take, ← List.map_drop,
    take_inPlace hone current, ← List.map_append, ← List.map_append,
    List.append_assoc (current.take _), List.take_append_drop, result]

/-- Not all of the proposed rows are in place. -/
theorem Survives.inPlace_lt (h : d.Survives current) : d.inPlace current < d.rows.length :=
  Nat.lt_of_not_le fun hge => h.rest_ne_nil (List.drop_eq_nil_of_le hge)

/-- The cursor of the item stands at the end of the last proposed row. -/
theorem Survives.edit_item (h : d.Survives current) (id : Int) :
    (d.item current id).edit.cursorRow = d.startRow - 1 + d.rows.length ∧
      (d.item current id).edit.cursorCol = (d.rows.getLastD []).length := by
  have hlt := h.inPlace_lt
  have hlast : (d.rows.drop (d.inPlace current)).getLastD [] = d.rows.getLastD [] := by
    rw [List.getLastD_eq_getLast?, List.getLast?_drop, if_neg (Nat.not_le.mpr hlt),
      List.getLastD_eq_getLast?]
  refine ⟨?_, ?_⟩
  · show d.startRow + d.inPlace current + ((d.item current id).lines.length : Int) - 1 = _
    rw [h.lines_item, List.length_drop]
    omega
  · show (((d.item current id).lines.getLastD []).length : Int) = _
    rw [h.lines_item, hlast]

end Draft

/-! ## What applying an item does -/

/-- An item carries a draft out for a document: applied to any buffer with these rows that takes
edits, it gives the result of the draft, puts the cursor behind the last proposed row, where it was
asked to be, and leaves the buffer in insert mode. -/
def Item.CarriesOut (item : Item) (d : Draft) (current : List Text) : Prop :=
  ∀ (id : String) (b : Buffer), b.lines = current.map .str → b.modifiable = true →
    ∃ edit : AppliedEdit,
      b.apply id item =
          ({ b with
              lines := (d.result current).map .str
              cursor := .at (d.startRow - 1 + d.rows.length) (d.rows.getLastD []).length
              mode := insertMode
              dirty := true }, .ok edit) ∧
        edit.cursorRow = d.startRow - 1 + d.rows.length ∧
        edit.cursorCol = (d.rows.getLastD []).length ∧
        edit.delta = ((d.result current).length : Int) - current.length

namespace Draft

variable {d : Draft} {current : List Text}

/-- The last proposed row stands where the cursor goes. -/
theorem Survives.getElem?_result (h : d.Survives current) (hone : 1 ≤ d.startRow) :
    (d.result current)[(d.startRow - 1 + d.rows.length - 1).toNat]?
      = some (d.rows.getLastD []) := by
  have hstart := h.startRow_le
  have hlt := h.inPlace_lt
  have habove : (current.take (d.startRow - 1).toNat).length = (d.startRow - 1).toNat := by
    rw [List.length_take]
    omega
  have hindex : (d.startRow - 1 + d.rows.length - 1).toNat
      = (d.startRow - 1).toNat + (d.rows.length - 1) := by omega
  rw [result, hindex, List.append_assoc, List.getElem?_append_right (by omega), habove,
    Nat.add_sub_cancel_left, List.getElem?_append_left (by omega), List.getLastD_eq_getLast?,
    List.getLast?_eq_getElem?, List.getElem?_eq_getElem (by omega)]
  rfl

/-- There is no need to clamp the cursor. -/
theorem Survives.setCursor_result (h : d.Survives current) (hone : 1 ≤ d.startRow) {b : Buffer}
    (hlines : b.lines = (d.result current).map .str) :
    b.setCursor (d.startRow - 1 + d.rows.length) (d.rows.getLastD []).length
      = .ok { b with
          cursor := .at (d.startRow - 1 + d.rows.length) (d.rows.getLastD []).length } := by
  have hlast := h.getElem?_result hone
  have hbelow := (List.getElem?_eq_some_iff.mp hlast).1
  have hlt := h.inPlace_lt
  have hrow : min (max 1 (d.startRow - 1 + d.rows.length)) ((d.result current).length : Int)
      = d.startRow - 1 + d.rows.length := by omega
  have hcol : min (max 0 ((d.rows.getLastD []).length : Int)) ((d.rows.getLastD []).length : Int)
      = (d.rows.getLastD []).length := by omega
  have hclamp : Buffer.clampCursor (d.startRow - 1 + d.rows.length) (d.rows.getLastD []).length
      b.lines = .ok (.at (d.startRow - 1 + d.rows.length) (d.rows.getLastD []).length) := by
    rw [Buffer.clampCursor, hlines, List.length_map, hrow, Span.pick?, if_pos (by omega),
      List.getElem?_map, hlast]
    exact congrArg (fun col => Except.ok (Cursor.at (d.startRow - 1 + d.rows.length) col)) hcol
  rw [Buffer.setCursor, hclamp]
  rfl

/-- **The item of a draft carries it out.** -/
theorem Survives.carriesOut (h : d.Survives current) (hone : 1 ≤ d.startRow)
    (hend : d.startRow ≤ d.endRow) (id : Int) : (d.item current id).CarriesOut d current := by
  intro buffer b hlines hmod
  obtain ⟨hrow, hcol⟩ := h.edit_item id
  refine ⟨(d.item current id).edit, ?_, hrow, hcol, ?_⟩
  · rw [Buffer.apply, if_pos hmod]
    dsimp only
    rw [hlines, h.applyRows_item hone, hrow, hcol, h.setCursor_result hone rfl]
    rfl
  · have hle := (d.inPlace_le current).1
    show ((d.item current id).lines.length : Int) - (d.item current id).replacedCount = _
    rw [h.lines_item, List.length_drop, length_result hone h.startRow_le hend]
    show _ - max 0 (d.lastRow current.length - (d.startRow + d.inPlace current) + 1) = _
    omega

end Draft

namespace Assembly

variable {current : List Text} {d : Draft} {raw : Value}

/-- Rows put together are nothing if there are none, or one that is empty. -/
theorem unlines_eq_nil_iff {rows : List Text} :
    Text.unlines rows = [] ↔ rows = [] ∨ rows = [[]] := by
  match rows with
  | [] => simp [Text.unlines, Text.join]
  | [row] => simp [Text.unlines, Text.join]
  | row :: next :: rest => simp [Text.unlines, Text.join]

theorem judgeDraft_eq (current : List Text) (d : Draft) :
    judgeDraft current d =
      if (current.length : Int) + 1 < d.startRow then .beyondEnd d.startRow
      else if (d.rows.drop (d.inPlace current)).isEmpty then .present d.startRow
      else if (d.item current 0).content.isEmpty then .blank d.startRow
      else .candidate (d.item current 0) := by
  rw [judgeDraft]
  dsimp only
  rw [leadingMatches_eq]
  rfl

/-- **The item a draft becomes**, if it becomes one. -/
theorem item?_judgeDraft_eq_some_iff {item : Item} :
    (judgeDraft current d).item? = some item ↔ d.Survives current ∧ item = d.item current 0 := by
  have hcontent : (d.item current 0).content = Text.unlines (d.rows.drop (d.inPlace current)) := rfl
  rw [judgeDraft_eq]
  split
  · next hbeyond =>
    refine ⟨nofun, fun h => ?_⟩
    have hstart := h.1.startRow_le
    omega
  · next hbeyond =>
    split
    · next hnil =>
      exact ⟨nofun, fun h => absurd (List.isEmpty_iff.mp hnil) h.1.rest_ne_nil⟩
    · next hnil =>
      rw [List.isEmpty_iff] at hnil
      split
      · next hblank =>
        rw [hcontent, List.isEmpty_iff, unlines_eq_nil_iff] at hblank
        refine ⟨nofun, fun h => ?_⟩
        rcases hblank with hblank | hblank
        · exact absurd hblank h.1.rest_ne_nil
        · exact absurd hblank h.1.rest_ne_blank
      · next hblank =>
        rw [hcontent, List.isEmpty_iff, unlines_eq_nil_iff, not_or] at hblank
        refine ⟨fun h => ?_, fun h => congrArg some h.2.symm⟩
        cases h
        exact ⟨⟨by omega, hblank.1, hblank.2⟩, rfl⟩

theorem item?_judge_eq_some_iff {item : Item} :
    (judge current raw).item? = some item ↔
      ∃ d, Draft.ofValue? raw = some d ∧ d.Survives current ∧ item = d.item current 0 := by
  rw [judge]
  cases hdraft : Draft.ofValue? raw with
  | none => simp [Verdict.item?]
  | some d => simpa using item?_judgeDraft_eq_some_iff

/-- Every item of a set was made of the draft of one of the decoded values. -/
theorem exists_draft_of_mem_assemble {raws : List Value} {item : Item}
    (h : item ∈ assemble raws current) : ∃ raw ∈ raws, ∃ d, ∃ n : Nat,
      Draft.ofValue? raw = some d ∧ d.Survives current ∧ item = d.item current n := by
  obtain ⟨x, hx, n, rfl⟩ := mem_candidates_of_mem_assemble h
  obtain ⟨raw, hraw, hjudged⟩ := List.mem_filterMap.mp hx
  obtain ⟨d, hdraft, hleft, rfl⟩ := item?_judge_eq_some_iff.mp hjudged
  exact ⟨raw, hraw, d, n, hdraft, hleft, rfl⟩

/-- A decoded value of which trimming leaves something is a set of its own. -/
theorem build_singleton (hdraft : Draft.ofValue? raw = some d) (hleft : d.Survives current) :
    build (.arr [raw]) current = [d.item current 1] := by
  have hitem : (judge current raw).item? = some (d.item current 0) :=
    item?_judge_eq_some_iff.mpr ⟨d, hdraft, hleft, rfl⟩
  have hcandidates : candidates [raw] current = [d.item current 0] := by
    simp [candidates, hitem]
  rw [build, assemble, hcandidates]
  rfl

/-- **What a trimmed item means.** Let `d` be the draft of a decoded value, with its rows in order,
let `C` be its rows without leaked row numbers, `m` how many of these the document has already from
the start row on, and `e` its end row, clamped to the document.

* If trimming leaves something of the draft, the value alone becomes one item, and any item of any
  set was made of such a draft of one of the decoded values.
* Applied to a buffer with the rows of the document, the item gives the rows above the start row,
  then `C`, then the rows of the document below the later one of `e` and the last row in place. The
  cursor goes to the end of the last row of `C`, where it was sent, the buffer is left in insert
  mode, and the reported growth is that of the number of rows.
* If `m` is at most the number of rows that are replaced, these rows are those of the document in
  which the rows from the start row to `e` are replaced by `C`. -/
theorem build_carriesOut (current : List Text) :
    (∀ raw d, Draft.ofValue? raw = some d → d.Survives current →
        ∃ item, build (.arr [raw]) current = [item] ∧ item.CarriesOut d current) ∧
      (∀ raws, ∀ item ∈ build (.arr raws) current, ∃ raw ∈ raws, ∃ d,
        Draft.ofValue? raw = some d ∧ d.Survives current ∧ item.CarriesOut d current) ∧
      ∀ d : Draft, (d.inPlace current : Int) ≤ d.lastRow current.length - d.startRow + 1 →
        d.result current = d.replaced current := by
  refine ⟨?_, ?_, fun d => Draft.result_eq_replaced⟩
  · intro raw d hdraft hleft
    obtain ⟨hone, hend⟩ := rows_of_ofValue? hdraft
    exact ⟨d.item current 1, build_singleton hdraft hleft, hleft.carriesOut hone hend 1⟩
  · intro raws item hitem
    obtain ⟨raw, hraw, d, n, hdraft, hleft, rfl⟩ := exists_draft_of_mem_assemble hitem
    obtain ⟨hone, hend⟩ := rows_of_ofValue? hdraft
    exact ⟨raw, hraw, d, hdraft, hleft, hleft.carriesOut hone hend n⟩

/-- A document of three rows. -/
def alphabet : List Text := [['a'], ['b'], ['c']]

/-- A new row behind two that are in place, where only the first of the two is to be replaced. -/
def overlong : Value :=
  .obj [Value.member "content" (.ofString "L1: a\nb\nx"), Value.member "startRow" (.int 1),
    Value.member "end_row" (.int 1)]

/-- The last rows, of which the first stays as it is. -/
def ending : Value :=
  .obj [Value.member "content" (.ofString "b\ny"), Value.member "start_row" (.int 2),
    Value.member "end_row" (.int 9)]

/-- The row in place that was not to be replaced is not doubled; the rows in place within the
replaced ones make no difference. -/
theorem overlong_carriesOut :
    Draft.ofValue? overlong = some ⟨"L1: a\nb\nx".toList, 1, 1⟩ ∧
      (∃ item, build (.arr [overlong]) alphabet = [item] ∧
        item.CarriesOut ⟨"L1: a\nb\nx".toList, 1, 1⟩ alphabet) ∧
      (∃ raw ∈ [overlong, ending], ∃ d, Draft.ofValue? raw = some d ∧ d.Survives alphabet ∧
        Item.CarriesOut ⟨1, ['x'], 3, 1, 1⟩ d alphabet) ∧
      Draft.result ⟨"L1: a\nb\nx".toList, 1, 1⟩ alphabet = [['a'], ['b'], ['x'], ['c']] ∧
      Draft.result ⟨"b\ny".toList, 2, 9⟩ alphabet
        = Draft.replaced ⟨"b\ny".toList, 2, 9⟩ alphabet := by
  have hdraft : Draft.ofValue? overlong = some ⟨"L1: a\nb\nx".toList, 1, 1⟩ := by decide +kernel
  have hleft : Draft.Survives ⟨"L1: a\nb\nx".toList, 1, 1⟩ alphabet :=
    ⟨by decide, by decide +kernel, by decide +kernel⟩
  have hbuilt : (⟨1, ['x'], 3, 1, 1⟩ : Item) ∈ build (.arr [overlong, ending]) alphabet := by
    decide +kernel
  have hmeaning := build_carriesOut alphabet
  exact ⟨hdraft, hmeaning.1 overlong _ hdraft hleft, hmeaning.2.1 _ _ hbuilt, by decide +kernel,
    hmeaning.2.2 ⟨"b\ny".toList, 2, 9⟩ (by decide +kernel)⟩

/-! ## Drafts that are dropped as being in place -/

/-- **A draft is dropped as being in place** if its rows begin the document from its start row. -/
theorem judge_eq_present_iff (hdraft : Draft.ofValue? raw = some d)
    (hrow : d.startRow ≤ current.length + 1) :
    judge current raw = .present d.startRow
      ↔ d.rows <+: current.drop (d.startRow - 1).toNat := by
  rw [judge, hdraft]
  dsimp only
  refine ⟨fun h => ?_, judgeDraft_of_isPrefix hrow⟩
  rw [judgeDraft_eq, if_neg (by omega)] at h
  split at h
  · next hnil =>
    rw [List.isEmpty_iff, List.drop_eq_nil_iff] at hnil
    have hsame : d.rows.take (d.inPlace current)
        = (current.drop (d.startRow - 1).toNat).take (d.inPlace current) := take_agreement ..
    rw [List.take_of_length_le hnil] at hsame
    rw [hsame]
    exact List.take_prefix ..
  · split at h <;> cases h

/-- A draft that is in place, followed to the letter, takes out the rows between the end of its
content and the end of what it replaces, or doubles them. -/
theorem replaced_of_isPrefix (hone : 1 ≤ d.startRow)
    (h : d.rows <+: current.drop (d.startRow - 1).toNat) :
    d.replaced current = current.take (d.startRow - 1 + d.rows.length).toNat
      ++ current.drop (d.lastRow current.length).toNat := by
  have hall : d.inPlace current = d.rows.length := by
    rw [Draft.inPlace, ← leadingMatches_eq, leadingMatches_of_isPrefix h]
  have habove := Draft.take_inPlace hone current
  rw [hall, List.take_length] at habove
  rw [Draft.replaced, habove]

theorem take_append_drop_eq_iff {α : Type} {rows : List α} {k n : Nat} (hk : k ≤ rows.length)
    (hn : n ≤ rows.length) : rows.take k ++ rows.drop n = rows ↔ k = n := by
  refine ⟨fun h => ?_, fun h => by rw [h, List.take_append_drop]⟩
  have hlength := congrArg List.length h
  rw [List.length_append, List.length_take, List.length_drop] at hlength
  omega

/-- **When dropping a draft loses nothing.** A draft that starts in the document or right after it
is dropped as being in place exactly if each of its rows is that of the document, from its start row
on. Then it makes no difference to any set. To follow it to the letter would take out, or double,
the rows between the end of its content and the last row it replaces; so the document would stay as
it is exactly if the draft has as many rows as it replaces. -/
theorem present_noop_iff (hdraft : Draft.ofValue? raw = some d)
    (hrow : d.startRow ≤ current.length + 1) :
    (judge current raw = .present d.startRow
        ↔ d.rows <+: current.drop (d.startRow - 1).toNat) ∧
      (judge current raw = .present d.startRow →
        (∀ before after, build (.arr (before ++ raw :: after)) current
          = build (.arr (before ++ after)) current) ∧
        d.replaced current = current.take (d.startRow - 1 + d.rows.length).toNat
          ++ current.drop (d.lastRow current.length).toNat ∧
        (d.replaced current = current
          ↔ (d.rows.length : Int) = d.lastRow current.length - d.startRow + 1)) := by
  have hpresent := judge_eq_present_iff hdraft hrow
  obtain ⟨hone, hend⟩ := rows_of_ofValue? hdraft
  refine ⟨hpresent, fun h => ?_⟩
  have hprefix := hpresent.mp h
  have hreplaced := replaced_of_isPrefix hone hprefix
  have hfits := hprefix.length_le
  rw [List.length_drop] at hfits
  have hlast : 0 ≤ d.lastRow current.length ∧ d.lastRow current.length ≤ current.length := by
    rw [Draft.lastRow]
    omega
  refine ⟨build_of_item?_eq_none (by rw [h]; rfl), hreplaced, ?_⟩
  rw [hreplaced, take_append_drop_eq_iff (by omega) (by omega)]
  omega

/-- The second row as it is, proposed for all that follows the first one. -/
def unchanged : Value :=
  .obj [Value.member "content" (.ofString "L2: b\nc"), Value.member "start_row" (.int 2),
    Value.member "end_row" (.int 7)]

theorem unchanged_noop :
    Draft.ofValue? unchanged = some ⟨"L2: b\nc".toList, 2, 7⟩ ∧
      judge alphabet unchanged = .present 2 ∧
      Draft.replaced ⟨"L2: b\nc".toList, 2, 7⟩ alphabet = alphabet := by
  have hdraft : Draft.ofValue? unchanged = some ⟨"L2: b\nc".toList, 2, 7⟩ := by decide +kernel
  have hrow : (2 : Int) ≤ alphabet.length + 1 := by decide
  obtain ⟨hpresent, hnoop⟩ := present_noop_iff hdraft hrow
  have hdropped : judge alphabet unchanged = .present 2 := hpresent.mpr (by decide +kernel)
  exact ⟨hdraft, hdropped, (hnoop hdropped).2.2.mpr (by decide +kernel)⟩

/-- The first row as it is, proposed for the first two. -/
def shortening : Value :=
  .obj [Value.member "content" (.ofString "a"), Value.member "start_row" (.int 1),
    Value.member "end_row" (.int 2)]

/-- **A draft that takes a row out is dropped** as being in place, and the row stays. -/
theorem shortening_dropped :
    Draft.ofValue? shortening = some ⟨['a'], 1, 2⟩ ∧ judge alphabet shortening = .present 1 ∧
      build (.arr [shortening]) alphabet = [] ∧
      Draft.replaced ⟨['a'], 1, 2⟩ alphabet = [['a'], ['c']] ∧
      Draft.replaced ⟨['a'], 1, 2⟩ alphabet ≠ alphabet := by
  have hdraft : Draft.ofValue? shortening = some ⟨['a'], 1, 2⟩ := by decide +kernel
  have hpresent : judge alphabet shortening = .present 1 :=
    (judge_eq_present_iff hdraft (by decide)).mpr (by decide +kernel)
  exact ⟨hdraft, hpresent, by decide +kernel, by decide +kernel, by decide +kernel⟩

end Assembly

end GhostEdit
