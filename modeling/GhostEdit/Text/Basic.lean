/-!
# Text as a list of characters

Documents, answers and paths are all texts, and a text is its list of Unicode scalar values.
Columns, lengths and cuts therefore count characters, and every function on text is plain
recursion on a list.

## Main definitions

* `Text.pieces`, `Text.join`: cutting at a separator and putting pieces together again
* `Text.lines`, `Text.unlines`: the same for line feeds
* `Text.cutAt?`: the parts before and after the first occurrence of a text

## Main results

* `Text.unlines_lines`: cutting at line feeds loses nothing
* `Text.lines_unlines`: nor does joining lines that hold no line feed
* `Text.pieces_append_cons`, `Text.join_append`: cutting and joining around one separator
-/

namespace GhostEdit

/-- A text is the list of its characters. -/
abbrev Text := List Char

namespace Text

/-! ## Separators -/

/-- The pieces of a text between the occurrences of `sep`; there is always at least one. -/
def pieces (sep : Char) : Text → List Text
  | [] => [[]]
  | c :: rest =>
    if c = sep then [] :: pieces sep rest
    else
      match pieces sep rest with
      | [] => [[c]]
      | piece :: more => (c :: piece) :: more

/-- The pieces one after the other with `sep` between neighbours. -/
def join (sep : Text) : List Text → Text
  | [] => []
  | [t] => t
  | t :: more => t ++ sep ++ join sep more

/-- The lines of a text, cut at line feeds only. -/
def lines (t : Text) : List Text := pieces '\n' t

/-- Lines put together with a line feed between neighbours. -/
def unlines (ls : List Text) : Text := join ['\n'] ls

theorem pieces_ne_nil (sep : Char) (t : Text) : pieces sep t ≠ [] := by
  cases t with
  | nil => simp [pieces]
  | cons c rest =>
    unfold pieces
    split
    · simp
    · split <;> simp

theorem join_cons_cons (sep t u : Text) (more : List Text) :
    join sep (t :: u :: more) = t ++ sep ++ join sep (u :: more) := rfl

theorem join_pieces (sep : Char) (t : Text) : join [sep] (pieces sep t) = t := by
  induction t with
  | nil => rfl
  | cons c rest ih =>
    unfold pieces
    split
    · next h =>
      cases hp : pieces sep rest with
      | nil => exact absurd hp (pieces_ne_nil sep rest)
      | cons p more =>
        rw [hp] at ih
        simp [join_cons_cons, ih, h]
    · cases hp : pieces sep rest with
      | nil => exact absurd hp (pieces_ne_nil sep rest)
      | cons p more =>
        rw [hp] at ih
        cases more with
        | nil => simpa [join] using ih
        | cons q qs => simpa [join_cons_cons] using ih

theorem unlines_lines (t : Text) : unlines (lines t) = t := join_pieces '\n' t

theorem notMem_of_mem_pieces {sep : Char} {t piece : Text} (h : piece ∈ pieces sep t) :
    sep ∉ piece := by
  induction t generalizing piece with
  | nil =>
    rw [List.mem_singleton.mp h]
    exact List.not_mem_nil
  | cons c rest ih =>
    rw [pieces] at h
    split at h
    · rcases List.mem_cons.mp h with rfl | h
      · exact List.not_mem_nil
      · exact ih h
    · next hne =>
      split at h
      · next hnil => exact absurd hnil (pieces_ne_nil sep rest)
      · next first more hpieces =>
        rw [hpieces] at ih
        rcases List.mem_cons.mp h with rfl | h
        · have hfirst := ih List.mem_cons_self
          simp [hfirst, Ne.symm hne]
        · exact ih (List.mem_cons_of_mem first h)

theorem pieces_of_not_mem {sep : Char} {t : Text} (h : sep ∉ t) : pieces sep t = [t] := by
  induction t with
  | nil => rfl
  | cons c rest ih =>
    have hc : c ≠ sep := fun e => h (by simp [e])
    have hr : sep ∉ rest := fun e => h (by simp [e])
    simp [pieces, hc, ih hr]

/-- The pieces on the two sides of a separator do not know of each other. -/
theorem pieces_append_cons (sep : Char) (t rest : Text) :
    pieces sep (t ++ sep :: rest) = pieces sep t ++ pieces sep rest := by
  induction t with
  | nil => simp [pieces]
  | cons c tail ih =>
    by_cases h : c = sep
    · simp [pieces, h, ih]
    · rw [List.cons_append, pieces, if_neg h, ih, pieces, if_neg h]
      cases hp : pieces sep tail with
      | nil => exact absurd hp (pieces_ne_nil sep tail)
      | cons p more => rfl

theorem join_append (sep : Char) {front back : List Text} (hfront : front ≠ [])
    (hback : back ≠ []) :
    join [sep] (front ++ back) = join [sep] front ++ sep :: join [sep] back := by
  induction front with
  | nil => exact absurd rfl hfront
  | cons t more ih =>
    cases more with
    | nil =>
      obtain ⟨u, others, rfl⟩ := List.exists_cons_of_ne_nil hback
      rw [List.singleton_append, join_cons_cons, List.append_assoc]
      rfl
    | cons u more =>
      rw [List.cons_append, List.cons_append, join_cons_cons, ← List.cons_append,
        ih (List.cons_ne_nil u more), join_cons_cons, List.append_assoc (t ++ [sep])]

theorem pieces_join {sep : Char} :
    ∀ {ls : List Text}, ls ≠ [] → (∀ l ∈ ls, sep ∉ l) → pieces sep (join [sep] ls) = ls
  | [], h, _ => absurd rfl h
  | [l], _, hl => pieces_of_not_mem (hl l (by simp))
  | l :: m :: more, _, hl => by
    have h1 : sep ∉ l := hl l (by simp)
    have ih := @pieces_join sep (m :: more) (by simp)
      (fun x hx => hl x (List.mem_cons_of_mem l hx))
    rw [join_cons_cons, List.append_assoc, List.singleton_append, pieces_append_cons,
      pieces_of_not_mem h1, ih, List.singleton_append]

theorem lines_unlines {ls : List Text} (hne : ls ≠ []) (h : ∀ l ∈ ls, '\n' ∉ l) :
    lines (unlines ls) = ls := pieces_join hne h

/-- Lines that are put together stay what they are in front of another text. -/
theorem lines_unlines_append {ls : List Text} (hne : ls ≠ []) (h : ∀ l ∈ ls, '\n' ∉ l)
    (rest : Text) : lines (unlines ls ++ '\n' :: rest) = ls ++ lines rest := by
  rw [lines, pieces_append_cons, unlines, pieces_join hne h]
  rfl

/-! ## Searching -/

/-- What follows `part` when the text starts with it. -/
def dropStart? (part : Text) (t : Text) : Option Text :=
  if part.isPrefixOf t then some (t.drop part.length) else none

theorem dropStart?_eq_some {part t after : Text} :
    dropStart? part t = some after ↔ t = part ++ after := by
  rw [dropStart?]
  constructor
  · intro h
    split at h
    · next hpart =>
      obtain ⟨more, rfl⟩ := List.isPrefixOf_iff_prefix.mp hpart
      rw [List.drop_left] at h
      rw [Option.some.inj h]
    · cases h
  · rintro rfl
    rw [if_pos (List.isPrefixOf_iff_prefix.mpr (List.prefix_append part after)), List.drop_left]

/-- The parts before and after the first occurrence of `part`. -/
def cutAt? (part : Text) : Text → Option (Text × Text)
  | [] => if part.isEmpty then some ([], []) else none
  | c :: rest =>
    match dropStart? part (c :: rest) with
    | some after => some ([], after)
    | none => (cutAt? part rest).map fun (before, after) => (c :: before, after)

/-- Whether `part` occurs somewhere in the text. -/
def occursIn (part t : Text) : Bool := (cutAt? part t).isSome

/-- Whether the text ends with `part`. -/
def endsIn (part t : Text) : Bool := part.isSuffixOf t

/-- The text without the trailing characters that satisfy `p`. -/
def dropEndWhile (p : Char → Bool) (t : Text) : Text := (t.reverse.dropWhile p).reverse

/-- A run of characters that satisfy `p` is taken up to where what follows does not. -/
theorem takeWhile_run {p : Char → Bool} {run rest : Text} (h : ∀ c ∈ run, p c = true)
    (hrest : ∀ c ∈ rest.head?, p c = false) : (run ++ rest).takeWhile p = run := by
  rw [List.takeWhile_append_of_pos h]
  cases rest with
  | nil => exact List.append_nil run
  | cons c rest => rw [List.takeWhile_cons_of_neg (by simp [hrest c rfl]), List.append_nil]

theorem dropWhile_run {p : Char → Bool} {run rest : Text} (h : ∀ c ∈ run, p c = true)
    (hrest : ∀ c ∈ rest.head?, p c = false) : (run ++ rest).dropWhile p = rest := by
  rw [List.dropWhile_append_of_pos h]
  cases rest with
  | nil => rfl
  | cons c rest => rw [List.dropWhile_cons_of_neg (by simp [hrest c rfl])]

end Text

/-- The characters of a string. -/
def textOf (s : String) : Text := s.toList

end GhostEdit
