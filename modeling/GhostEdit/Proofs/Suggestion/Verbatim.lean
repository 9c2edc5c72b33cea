import GhostEdit.Proofs.Suggestion.Trimming

/-!
# Rows proposed as they are

A provider that has nothing to propose may send some rows of the document back as they are. Before
they are compared with the document they lose what looks like a row number of the prompt, and a row
of the document may look like that itself: a listing is full of such rows. It is then compared as
another row than the one it is, and the answer is taken for an edit.

## The first row that loses its label decides

The rows before it are in place and are trimmed, and everything from it on is proposed. The one way
out is a last row that is nothing but a label: what it becomes is empty, and an item that is left
with one empty row is dropped.

## Main definitions

* `Draft.repeating`: the draft that repeats some rows of a document
* `Assembly.Unlabelled`: no row among them looks like a row of the prompt, but for a bare label at
  the end

## Main results

* `Assembly.drop_leadingMatches_map`: what is left of rows that are compared after a change
* `Assembly.verbatim_vanishes_iff`: when rows that are sent back as they are propose nothing
-/

namespace GhostEdit

/-- The draft that replaces rows of a document by themselves. -/
def Draft.repeating (rows : List Text) (s e : Nat) : Draft :=
  { content := Text.unlines (rowsBetween rows s e), startRow := s, endRow := e }

variable {rows : List Text} {s e : Nat}

namespace Assembly

/-! ## Labels -/

theorem dropRowNumber_ne {line rest : Text} (h : Labelled line rest) :
    dropRowNumber line ≠ line := by
  have hdrop := dropRowNumber_of_labelled h
  obtain ⟨digits, -, -, rfl⟩ := h
  intro hsame
  have hlength := congrArg List.length (hdrop.symm.trans hsame)
  simp only [List.length_cons, List.length_append] at hlength
  omega

/-- Only a label is taken off. -/
theorem labelled_dropRowNumber {line : Text} (h : dropRowNumber line ≠ line) :
    Labelled line (dropRowNumber line) := by
  unfold dropRowNumber at h ⊢
  split at h
  · next rest =>
    split at h
    · exact absurd rfl h
    · next hdigits =>
      rw [List.isEmpty_iff] at hdigits
      split at h
      · next after hafter =>
        rw [if_neg (by simpa using hdigits)]
        refine ⟨rest.takeWhile isDigit, hdigits,
          fun c hc => List.all_eq_true.mp List.all_takeWhile c hc, ?_⟩
        rw [← hafter, List.takeWhile_append_dropWhile]
      · exact absurd rfl h
  · exact absurd rfl h

/-! ## What is left of the rows -/

/-- Rows that are compared with themselves after a change are in place up to the first one that the
change makes another. -/
theorem drop_leadingMatches_map (f : Text → Text) {slice below : List Text}
    (h : slice <+: below) :
    (slice.map f).drop (leadingMatches (slice.map f) below)
      = (slice.dropWhile fun row => f row = row).map f := by
  obtain ⟨rest, rfl⟩ := h
  induction slice with
  | nil => simp
  | cons row slice ih =>
    rw [List.cons_append, List.map_cons, leadingMatches]
    by_cases hrow : f row = row
    · rw [if_pos hrow, List.drop_succ_cons, ih, List.dropWhile_cons_of_pos (by simpa using hrow)]
    · rw [if_neg hrow, List.drop_zero, List.dropWhile_cons_of_neg (by simpa using hrow),
        List.map_cons]

/-- Too little is left of the rows to propose anything, exactly if a label stands at most in the
last one, with nothing behind it. -/
theorem left_iff (slice : List Text) :
    ((slice.dropWhile fun row => dropRowNumber row = row).map dropRowNumber = [] ∨
        (slice.dropWhile fun row => dropRowNumber row = row).map dropRowNumber = [[]]) ↔
      ∀ i row rest, slice[i]? = some row → Labelled row rest →
        i + 1 = slice.length ∧ rest = [] := by
  induction slice with
  | nil => simp
  | cons first slice ih =>
    by_cases hfirst : dropRowNumber first = first
    · rw [List.dropWhile_cons_of_pos (by simpa using hfirst), ih]
      constructor
      · intro h i row rest hget hlabel
        cases i with
        | zero =>
          cases hget
          exact absurd hfirst (dropRowNumber_ne hlabel)
        | succ i =>
          have hlast := h i row rest hget hlabel
          exact ⟨congrArg Nat.succ hlast.1, hlast.2⟩
      · intro h i row rest hget hlabel
        have hlast := h (i + 1) row rest hget hlabel
        exact ⟨Nat.succ.inj hlast.1, hlast.2⟩
    · rw [List.dropWhile_cons_of_neg (by simpa using hfirst), List.map_cons]
      have hlabel := labelled_dropRowNumber hfirst
      constructor
      · rintro (hnil | hblank) i row rest hget hrow
        · cases hnil
        · obtain ⟨hempty, hslice⟩ := List.cons.inj hblank
          rw [List.map_eq_nil_iff.mp hslice] at hget ⊢
          cases i with
          | zero =>
            cases hget
            exact ⟨rfl, (dropRowNumber_of_labelled hrow).symm.trans hempty⟩
          | succ i => cases hget
      · intro h
        obtain ⟨hlength, hrest⟩ := h 0 first _ rfl hlabel
        have hslice : slice = [] := List.length_eq_zero_iff.mp (Nat.succ.inj hlength).symm
        rw [hrest, hslice]
        exact .inr rfl

/-! ## Rows sent back -/

/-- From one row of a document to another no row looks like a row of the prompt, unless it is the
last of them and has nothing behind its label. -/
def Unlabelled (rows : List Text) (s e : Nat) : Prop :=
  ∀ r row rest, s ≤ r → r ≤ e → rows[r - 1]? = some row → Labelled row rest → r = e ∧ rest = []

theorem unlabelled_iff (hs : 1 ≤ s) (hse : s ≤ e) (he : e ≤ rows.length) :
    Unlabelled rows s e ↔ ∀ i row rest, (rowsBetween rows s e)[i]? = some row →
      Labelled row rest → i + 1 = (rowsBetween rows s e).length ∧ rest = [] := by
  have hlength := length_rowsBetween hs hse he
  constructor
  · intro h i row rest hget hlabel
    have hi : i < e + 1 - s := by
      rw [← hlength]
      exact (List.getElem?_eq_some_iff.mp hget).1
    rw [rowsBetween, List.getElem?_take_of_lt hi, List.getElem?_drop,
      show s - 1 + i = s + i - 1 by omega] at hget
    have hlast := h (s + i) row rest (by omega) (by omega) hget hlabel
    exact ⟨by omega, hlast.2⟩
  · intro h r row rest hsr hre hget hlabel
    have hget : (rowsBetween rows s e)[r - s]? = some row := by
      rw [rowsBetween, List.getElem?_take_of_lt (by omega), List.getElem?_drop,
        show s - 1 + (r - s) = r - 1 by omega, hget]
    have hlast := h (r - s) row rest hget hlabel
    exact ⟨by omega, hlast.2⟩

variable {raw : Value}

theorem rows_repeating (hrows : ∀ row ∈ rows, '\n' ∉ row) (hs : 1 ≤ s) (hse : s ≤ e)
    (he : e ≤ rows.length) :
    (Draft.repeating rows s e).rows = (rowsBetween rows s e).map dropRowNumber := by
  have hne : rowsBetween rows s e ≠ [] := by
    rw [← List.length_pos_iff, length_rowsBetween hs hse he]
    omega
  exact congrArg dropRowNumbers
    (Text.lines_unlines hne fun row hrow => hrows row (mem_of_mem_rowsBetween hrow))

/-- What is left of rows that are sent back starts with the first one that has a label. -/
theorem rest_repeating (hrows : ∀ row ∈ rows, '\n' ∉ row) (hs : 1 ≤ s) (hse : s ≤ e)
    (he : e ≤ rows.length) :
    (Draft.repeating rows s e).rows.drop ((Draft.repeating rows s e).inPlace rows)
      = ((rowsBetween rows s e).dropWhile fun row => dropRowNumber row = row).map
          dropRowNumber := by
  have hstart : ((s : Int) - 1).toNat = s - 1 := by omega
  rw [Draft.inPlace, ← leadingMatches_eq, rows_repeating hrows hs hse he]
  show List.drop (leadingMatches _ (rows.drop ((s : Int) - 1).toNat)) _ = _
  rw [hstart]
  exact drop_leadingMatches_map dropRowNumber (List.take_prefix ..)

theorem survives_repeating_iff (hrows : ∀ row ∈ rows, '\n' ∉ row) (hs : 1 ≤ s) (hse : s ≤ e)
    (he : e ≤ rows.length) :
    (Draft.repeating rows s e).Survives rows ↔ ¬ Unlabelled rows s e := by
  rw [unlabelled_iff hs hse he, ← left_iff, ← rest_repeating hrows hs hse he, not_or]
  constructor
  · intro h
    exact ⟨h.rest_ne_nil, h.rest_ne_blank⟩
  · rintro ⟨hnil, hblank⟩
    refine ⟨?_, hnil, hblank⟩
    show (s : Int) ≤ rows.length + 1
    omega

/-- Followed to the letter, the draft takes the labels off. -/
theorem replaced_repeating (hrows : ∀ row ∈ rows, '\n' ∉ row) (hs : 1 ≤ s) (hse : s ≤ e)
    (he : e ≤ rows.length) :
    (Draft.repeating rows s e).replaced rows
      = rows.take (s - 1) ++ (rowsBetween rows s e).map dropRowNumber ++ rows.drop e := by
  have hstart : ((Draft.repeating rows s e).startRow - 1).toNat = s - 1 := by
    show ((s : Int) - 1).toNat = s - 1
    omega
  have hlast : ((Draft.repeating rows s e).lastRow rows.length).toNat = e := by
    show (min (e : Int) rows.length).toNat = e
    omega
  rw [Draft.replaced, hstart, hlast, rows_repeating hrows hs hse he]

/-- A label that is taken off is missing in the document. -/
theorem replaced_repeating_ne (hrows : ∀ row ∈ rows, '\n' ∉ row) (hs : 1 ≤ s) (hse : s ≤ e)
    (he : e ≤ rows.length) (h : ¬ Unlabelled rows s e) :
    (Draft.repeating rows s e).replaced rows ≠ rows := by
  intro hsame
  have hwhole : rows.take (s - 1) ++ rowsBetween rows s e ++ rows.drop e = rows :=
    take_rowsBetween_drop hs hse
  rw [replaced_repeating hrows hs hse he] at hsame
  have hslice : (rowsBetween rows s e).map dropRowNumber = rowsBetween rows s e :=
    List.append_cancel_left (List.append_cancel_right (hsame.trans hwhole.symm))
  refine h ((unlabelled_iff hs hse he).mpr fun i row rest hget hlabel => ?_)
  have hmap := congrArg (·[i]?) hslice
  simp only [List.getElem?_map, hget, Option.map_some] at hmap
  exact absurd (Option.some.inj hmap) (dropRowNumber_ne hlabel)

/-- **When rows that are sent back as they are propose nothing.** Let the rows of a document hold
no line feed, and let a decoded value propose for some of them what they are. It makes no difference
to any suggestion set, whatever other values there are, exactly if no row among them looks like a
row of the prompt, but for a bare label in the last one. Otherwise the value alone becomes an item,
which carries out a draft that takes the labels off and leaves another document. -/
theorem verbatim_vanishes_iff (hrows : ∀ row ∈ rows, '\n' ∉ row) (hs : 1 ≤ s) (hse : s ≤ e)
    (he : e ≤ rows.length)
    (hcontent : (raw.get? "content").bind Value.chars?
      = some (Text.unlines (rowsBetween rows s e)))
    (hfirst : (Draft.field? raw "start_row" "startRow").bind Draft.row? = some (s : Int))
    (hlast : (Draft.field? raw "end_row" "endRow").bind Draft.row? = some (e : Int)) :
    ((∀ before after, build (.arr (before ++ raw :: after)) rows
        = build (.arr (before ++ after)) rows) ↔ Unlabelled rows s e) ∧
      (¬ Unlabelled rows s e → ∃ item, build (.arr [raw]) rows = [item] ∧
        item.CarriesOut (Draft.repeating rows s e) rows ∧
        (Draft.repeating rows s e).replaced rows ≠ rows) := by
  have hdraft : Draft.ofValue? raw = some (Draft.repeating rows s e) := by
    have horder : 1 ≤ (s : Int) ∧ (s : Int) ≤ e := by omega
    simp [Draft.ofValue?, hcontent, hfirst, hlast, horder, Draft.repeating]
  have hleft := survives_repeating_iff hrows hs hse he
  obtain ⟨hone, hend⟩ := rows_of_ofValue? hdraft
  refine ⟨⟨fun hsame => ?_, fun h => ?_⟩, fun h => ?_⟩
  · by_contra h
    have hbuilt := build_singleton hdraft (hleft.mpr h)
    have hnone : build (.arr [raw]) rows = build (.arr []) rows := hsame [] []
    rw [hbuilt] at hnone
    cases hnone
  · refine build_of_item?_eq_none (Option.eq_none_iff_forall_ne_some.mpr fun item hitem => ?_)
    obtain ⟨d, hd, hsurvives, -⟩ := item?_judge_eq_some_iff.mp hitem
    cases hdraft.symm.trans hd
    exact hleft.mp hsurvives h
  · have hsurvives := hleft.mpr h
    exact ⟨_, build_singleton hdraft hsurvives, hsurvives.carriesOut hone hend 1,
      replaced_repeating_ne hrows hs hse he h⟩

/-- A document of which two rows look numbered, the last one with nothing behind its label. -/
def listing : List Text := ["total".toList, "L7: x".toList, "L8: ".toList]

/-- Rows of it, sent back as they are. -/
def resent (s e : Nat) : Value :=
  .obj [Value.member "content" (.str (Text.unlines (rowsBetween listing s e))),
    Value.member "start_row" (.int s), Value.member "endRow" (.int e)]

/-- The row with a bare label proposes nothing; the row before it loses its label. -/
theorem resent_vanishes :
    (∀ row ∈ listing, '\n' ∉ row) ∧
      (∀ before after, build (.arr (before ++ resent 3 3 :: after)) listing
        = build (.arr (before ++ after)) listing) ∧
      ∃ item, build (.arr [resent 1 2]) listing = [item] ∧
        item.CarriesOut (Draft.repeating listing 1 2) listing ∧
        (Draft.repeating listing 1 2).replaced listing ≠ listing := by
  have hrows : ∀ row ∈ listing, '\n' ∉ row := by decide
  have hbare : Unlabelled listing 3 3 := by
    intro r row rest hlow hhigh hget hlabel
    obtain rfl : r = 3 := by omega
    cases hget
    exact ⟨rfl, (dropRowNumber_of_labelled hlabel).symm.trans (by decide)⟩
  have hlabelled : ¬ Unlabelled listing 1 2 := by
    intro h
    have hrest := h 2 "L7: x".toList ['x'] (by decide) (by decide) rfl
      ⟨['7'], List.cons_ne_nil _ _, List.forall_mem_singleton.mpr rfl, rfl⟩
    cases hrest.2
  have hcontent : ∀ s e, ((resent s e).get? "content").bind Value.chars?
      = some (Text.unlines (rowsBetween listing s e)) := fun _ _ => rfl
  have hlast := verbatim_vanishes_iff hrows (by decide) (le_refl 3) (by decide) (hcontent 3 3)
    rfl rfl
  have hfirst := verbatim_vanishes_iff hrows (le_refl 1) (by decide) (by decide) (hcontent 1 2)
    rfl rfl
  exact ⟨hrows, hlast.1.mpr hbare, hfirst.2 hlabelled⟩

/-- **A row that looks numbered is not left alone**: sent back as it is, it loses its label. -/
theorem label_lost :
    build (.arr [.obj [Value.member "content" (.ofString "L5: x"),
        Value.member "start_row" (.int 1), Value.member "end_row" (.int 1)]]) ["L5: x".toList]
      = [{ id := 1, content := ['x'], startRow := 1, endRow := 1, firstRow := 1 }] := by
  decide +kernel

end Assembly

end GhostEdit
