import GhostEdit.Text.Basic

/-!
# Globs

A glob is a list of tokens: a star stands for any text, a question mark for any character, a set
in brackets for one of its members, and every other character for itself. A bracket that is
never closed stands for itself. A range that runs backwards is dropped from its set; a set that
is left empty matches no character, and its negation matches every one.

## Main definitions

* `Glob.Token`, `Glob.accepts`
* `Glob.parse`: the tokens of a pattern
* `Glob.spells`: whether a text matches tokens from its start to its end
* `Glob.fits`: whether a text matches a pattern

## Main results

* `Glob.fits_eq_spells`: a text fits a pattern when its tokens spell it
-/

namespace GhostEdit

namespace Glob

/-- One token of a glob. -/
inductive Token where
  | star
  | any
  | literal (c : Char)
  /-- A character in one of the inclusive ranges, or in none of them. -/
  | set (negated : Bool) (ranges : List (Char × Char))
deriving DecidableEq, Repr

/-- Whether a token that stands for one character stands for this one. -/
def Token.accepts (c : Char) : Token → Bool
  | .star => false
  | .any => true
  | .literal d => c = d
  | .set negated ranges => negated != ranges.any fun (lo, hi) => lo ≤ c && c ≤ hi

/-! ## Sets -/

/-- Cut the inside of a set at the hyphens that make a range. After such a hyphen comes the end
of the range and at least one more character before the next; `skip` characters are passed over
first. -/
def cutRanges : Nat → Text → List Text
  | _, [] => [[]]
  | 0, '-' :: rest => [] :: cutRanges 2 rest
  | skip, c :: rest =>
    match cutRanges (skip - 1) rest with
    | [] => [[c]]
    | piece :: more => (c :: piece) :: more

/-- A hyphen with nothing after it makes no range and belongs to the piece before it. -/
def closeHyphen : List Text → List Text
  | [piece, []] => [piece ++ ['-']]
  | piece :: rest => piece :: closeHyphen rest
  | [] => []

/-- Drop the ranges that run backwards, from the last to the first. -/
def dropBackward : List Text → List Text
  | [] => []
  | piece :: rest =>
    match dropBackward rest with
    | [] => [piece]
    | next :: more =>
      match piece.getLast?, next with
      | some lo, hi :: tail =>
        if hi < lo then (piece.dropLast ++ tail) :: more else piece :: next :: more
      | _, _ => piece :: next :: more

/-- The ranges of the pieces of a set: each character by itself, and from the end of each piece
to the start of the next. -/
def rangesOf : List Text → List (Char × Char)
  | [] => []
  | piece :: rest =>
    let bridge := match piece.getLast?, rest.head?.bind List.head? with
      | some lo, some hi => [(lo, hi)]
      | none, some _ => [('-', '-')]
      | _, none => []
    piece.map (fun c => (c, c)) ++ bridge ++ rangesOf rest

/-- The token of a set, given what stands between its brackets. -/
def setToken (inside : Text) : Token :=
  let start := match inside with
    | '!' :: _ => 2
    | _ => 1
  match dropBackward (closeHyphen (cutRanges start inside)) with
  | ('!' :: first) :: rest => .set true (rangesOf (first :: rest))
  | pieces => .set false (rangesOf pieces)

/-- Where the inside of a set ends: the characters before the closing bracket and those after
it. A closing bracket in first place, or in first place after an exclamation mark, is a member. -/
def setBody? (t : Text) : Option (Text × Text) :=
  let (mark, rest) := match t with
    | '!' :: r => (['!'], r)
    | r => ([], r)
  let (head, rest) := match rest with
    | ']' :: r => ([']'], r)
    | r => ([], r)
  match rest.dropWhile (· ≠ ']') with
  | ']' :: after => some (mark ++ head ++ rest.takeWhile (· ≠ ']'), after)
  | _ => none

/-! ## Patterns -/

/-- The tokens of a pattern; the first argument bounds their number. -/
def parseWithin : Nat → Text → List Token
  | 0, _ => []
  | _ + 1, [] => []
  | fuel + 1, c :: rest =>
    match c with
    | '*' => .star :: parseWithin fuel rest
    | '?' => .any :: parseWithin fuel rest
    | '[' =>
      match setBody? rest with
      | some (inside, after) => setToken inside :: parseWithin fuel after
      | none => .literal '[' :: parseWithin fuel rest
    | _ => .literal c :: parseWithin fuel rest

/-- The tokens of a pattern. -/
def parse (pattern : Text) : List Token := parseWithin pattern.length pattern

/-- A text and all its ends. -/
def suffixes : Text → List Text
  | [] => [[]]
  | c :: rest => (c :: rest) :: suffixes rest

/-- Whether a text matches tokens from its start to its end. -/
def spells : List Token → Text → Bool
  | [], t => t.isEmpty
  | .star :: rest, t => (suffixes t).any (spells rest)
  | token :: rest, c :: t => token.accepts c && spells rest t
  | _ :: _, [] => false

/-- What may be left of a text after one more token, where `rests` is what may be left before it,
each a proper end of the one before. -/
def advance (token : Token) (rests : List Text) : List Text :=
  match token with
  | .star => (rests.head?.map suffixes).getD []
  | token =>
    rests.filterMap fun
      | c :: t => if token.accepts c then some t else none
      | [] => none

/-- Whether a text matches a pattern. All ways to match are followed at once, so that stars cost
no time. -/
def fits (pattern t : Text) : Bool :=
  ((parse pattern).foldl (fun rests token => advance token rests) [t]).any List.isEmpty

/-! ## All ways at once -/

/-- Texts of which each is an end of those before it. -/
abbrev Nested (rests : List Text) : Prop := rests.Pairwise fun t u => u <:+ t

theorem suffix_of_mem_suffixes {t u : Text} (h : u ∈ suffixes t) : u <:+ t := by
  induction t with
  | nil => simp_all [suffixes]
  | cons c rest ih =>
    rcases List.mem_cons.mp h with rfl | h
    · exact List.suffix_refl _
    · exact (ih h).trans (List.suffix_cons c rest)

theorem mem_suffixes_of_suffix {t u : Text} (h : u <:+ t) : u ∈ suffixes t := by
  induction t with
  | nil => simp_all [suffixes]
  | cons c rest ih =>
    rcases List.suffix_cons_iff.mp h with rfl | h
    · simp [suffixes]
    · exact List.mem_cons_of_mem _ (ih h)

theorem nested_suffixes (t : Text) : Nested (suffixes t) := by
  induction t with
  | nil => simp [suffixes]
  | cons c rest ih =>
    refine List.Pairwise.cons (fun u hu => ?_) ih
    exact (suffix_of_mem_suffixes hu).trans (List.suffix_cons c rest)

theorem suffix_of_cons_suffix_cons {c d : Char} {t u : Text} (h : d :: u <:+ c :: t) :
    u <:+ t := by
  rcases List.suffix_cons_iff.mp h with h | h
  · simp_all
  · exact (List.suffix_cons d u).trans h

theorem nested_advance (token : Token) {rests : List Text} (h : Nested rests) :
    Nested (advance token rests) := by
  unfold advance
  split
  · cases rests with
    | nil => simp
    | cons t more => simpa using nested_suffixes t
  · refine List.Pairwise.filterMap _ (fun t u htu t' ht' u' hu' => ?_) h
    cases t with
    | nil => simp at ht'
    | cons c t =>
      cases u with
      | nil => simp at hu'
      | cons d u =>
        simp only [Option.ite_none_right_eq_some, Option.some.injEq] at ht' hu'
        obtain ⟨-, rfl⟩ := ht'
        obtain ⟨-, rfl⟩ := hu'
        exact suffix_of_cons_suffix_cons htu

theorem any_advance (token : Token) (more : List Token) {rests : List Text} (h : Nested rests) :
    (advance token rests).any (spells more) = rests.any (spells (token :: more)) := by
  cases token with
  | star =>
    cases rests with
    | nil => rfl
    | cons t rest =>
      rw [Bool.eq_iff_iff]
      simp only [advance, List.head?_cons, Option.map_some, Option.getD_some, List.any_eq_true,
        spells, List.mem_cons]
      constructor
      · rintro ⟨u, hu, hs⟩
        exact ⟨t, Or.inl rfl, u, hu, hs⟩
      · rintro ⟨v, hv, u, hu, hs⟩
        refine ⟨u, ?_, hs⟩
        rcases hv with rfl | hv
        · exact hu
        · exact mem_suffixes_of_suffix
            ((suffix_of_mem_suffixes hu).trans (List.rel_of_pairwise_cons h hv))
  | any | literal d | set negated ranges =>
    rw [Bool.eq_iff_iff]
    simp only [advance, List.any_eq_true, List.mem_filterMap]
    constructor
    · rintro ⟨u, ⟨v, hv, hvu⟩, hs⟩
      cases v with
      | nil => simp at hvu
      | cons c v =>
        simp only [Option.ite_none_right_eq_some, Option.some.injEq] at hvu
        obtain ⟨ha, rfl⟩ := hvu
        exact ⟨c :: v, hv, by simp [spells, ha, hs]⟩
    · rintro ⟨v, hv, hs⟩
      cases v with
      | nil => simp [spells] at hs
      | cons c v =>
        simp only [spells, Bool.and_eq_true] at hs
        exact ⟨v, ⟨c :: v, hv, by simp [hs.1]⟩, hs.2⟩

theorem any_foldl_advance (tokens : List Token) {rests : List Text} (h : Nested rests) :
    (tokens.foldl (fun rests token => advance token rests) rests).any List.isEmpty =
      rests.any (spells tokens) := by
  induction tokens generalizing rests with
  | nil => congr 1
  | cons token more ih => rw [List.foldl_cons, ih (nested_advance token h), any_advance _ _ h]

/-- Following all ways at once finds a match exactly when there is one. -/
theorem fits_eq_spells (pattern t : Text) : fits pattern t = spells (parse pattern) t := by
  simp [fits, any_foldl_advance]

end Glob

end GhostEdit
