import GhostEdit.Suggestion.Cleanup
import Mathlib.Data.List.Basic
import Mathlib.Data.List.Infix

/-!
# What the cleanup takes away

No step of the cleanup adds anything, so a text comes out as it went in only if no step finds what
it looks for. Of a text in brackets without a line feed the two steps for fenced blocks and the last
one take nothing; what remains are the two kinds of tags, which are looked for everywhere, and whose
step leaves less than it was given wherever a pair of them stands.

## Main definitions

* `Cleanup.Reasoned`, `Cleanup.Blocked`: a block between reasoning tags, or of suggestions, stands
  in a text

## Main results

* `Cleanup.length_dropReasoning_lt`, `Cleanup.length_suggestionBlock_lt`: such a block makes a text
  shorter
* `Cleanup.clean_eq_self_iff`: what the cleanup leaves as it is
-/

namespace GhostEdit

namespace Text

/-! ## Searching -/

theorem eq_of_cutAt? {part t before after : Text} (h : cutAt? part t = some (before, after)) :
    t = before ++ (part ++ after) := by
  induction t generalizing before with
  | nil =>
    rw [cutAt?] at h
    split at h
    · next hpart =>
      cases h
      rw [List.isEmpty_iff.mp hpart]
      rfl
    · cases h
  | cons c rest ih =>
    rw [cutAt?] at h
    split at h
    · next hfound =>
      cases h
      have hstart := dropStart?_eq_some.mp hfound
      exact hstart
    · obtain ⟨⟨x, y⟩, hrest, hxy⟩ := Option.map_eq_some_iff.mp h
      cases hxy
      rw [ih hrest]
      rfl

/-- What occurs is found, and no later than where it occurs. -/
theorem exists_cutAt? (part before after : Text) :
    ∃ x y, cutAt? part (before ++ (part ++ after)) = some (x, y) ∧ after <:+ y := by
  induction before with
  | nil =>
    cases hwhole : part ++ after with
    | nil =>
      rw [List.append_eq_nil_iff] at hwhole
      rw [hwhole.1, hwhole.2]
      exact ⟨[], [], rfl, List.suffix_rfl⟩
    | cons c rest =>
      refine ⟨[], after, ?_, List.suffix_rfl⟩
      rw [List.nil_append, cutAt?, dropStart?_eq_some.mpr hwhole.symm]
  | cons c before ih =>
    rw [List.cons_append, cutAt?]
    split
    · next y hfound =>
      refine ⟨[], y, rfl, ?_⟩
      rw [dropStart?_eq_some] at hfound
      have hlength := congrArg List.length hfound
      simp only [List.length_cons, List.length_append] at hlength
      have hafter : after <:+ part ++ y := by
        rw [← hfound]
        exact ⟨c :: (before ++ part), by simp⟩
      exact List.suffix_of_suffix_length_le hafter (List.suffix_append part y) (by omega)
    · obtain ⟨x, y, hrest, hsuffix⟩ := ih
      exact ⟨c :: x, y, by rw [hrest]; rfl, hsuffix⟩

theorem strip_sublist (t : Text) : t.strip.Sublist t := by
  have hend : ∀ u : Text, (dropEndBlanks u).Sublist u := by
    intro u
    have hreverse := (List.dropWhile_sublist isBlank (l := u.reverse)).reverse
    rwa [List.reverse_reverse] at hreverse
  exact (hend _).trans (List.dropWhile_sublist isBlank)

end Text

namespace Cleanup

/-! ## Suggestion blocks -/

/-- A block of suggestions stands in a text. -/
def Blocked (t : Text) : Prop :=
  ∃ before inside after, t = before ++ ("<suggestions>".toList ++ (inside
    ++ ("</suggestions>".toList ++ after)))

theorem suggestionBlock_of_not_blocked {t : Text} (h : ¬ Blocked t) : suggestionBlock t = t := by
  have hnone : suggestionBlock? t = none := by
    rw [suggestionBlock?]
    cases hopen : Text.cutAt? "<suggestions>".toList t with
    | none => rfl
    | some found =>
      obtain ⟨before, inside⟩ := found
      cases hclose : Text.cutAt? "</suggestions>".toList inside with
      | none =>
        simp only [Option.bind_eq_bind, Option.bind_some, hclose]
        rfl
      | some found =>
        obtain ⟨body, after⟩ := found
        refine absurd ⟨before, body, after, ?_⟩ h
        rw [Text.eq_of_cutAt? hopen, Text.eq_of_cutAt? hclose]
  rw [suggestionBlock, hnone]
  rfl

/-- Only what is inside the block is kept. -/
theorem length_suggestionBlock_lt {t : Text} (h : Blocked t) :
    (suggestionBlock t).length < t.length := by
  obtain ⟨before, inside, after, rfl⟩ := h
  obtain ⟨x, y, hopen, hy⟩ := Text.exists_cutAt? "<suggestions>".toList before
    (inside ++ ("</suggestions>".toList ++ after))
  obtain ⟨z, rfl⟩ := hy
  rw [← List.append_assoc z] at hopen
  obtain ⟨u, w, hclose, -⟩ := Text.exists_cutAt? "</suggestions>".toList (z ++ inside) after
  have hblock : suggestionBlock (before ++ ("<suggestions>".toList ++ (inside
      ++ ("</suggestions>".toList ++ after)))) = u.strip := by
    rw [suggestionBlock, suggestionBlock?, hopen]
    simp only [Option.bind_eq_bind, Option.bind_some, hclose]
    rfl
  have hinner := congrArg List.length (Text.eq_of_cutAt? hclose)
  have houter := congrArg List.length (Text.eq_of_cutAt? hopen)
  have hstrip := (Text.strip_sublist u).length_le
  have htag : "</suggestions>".toList.length = 14 := rfl
  rw [hblock]
  simp only [List.length_append] at hinner houter ⊢
  omega

theorem length_suggestionBlock_le (t : Text) : (suggestionBlock t).length ≤ t.length := by
  by_cases h : Blocked t
  · exact (length_suggestionBlock_lt h).le
  · rw [suggestionBlock_of_not_blocked h]

/-! ## Reasoning blocks -/

/-- The letters of a name, or characters that may stand for them. -/
def SpelledOut (letters name : Text) : Prop := List.Forall₂ (matchesLetter · · = true) letters name

theorem readName?_eq_some {letters t name after : Text} :
    readName? letters t = some (name, after) ↔ t = name ++ after ∧ SpelledOut letters name := by
  induction letters generalizing t name with
  | nil =>
    rw [readName?]
    constructor
    · rintro ⟨⟩
      exact ⟨rfl, .nil⟩
    · rintro ⟨rfl, hname⟩
      cases hname
      rfl
  | cons letter letters ih =>
    cases t with
    | nil =>
      rw [readName?]
      constructor
      · rintro ⟨⟩
      · rintro ⟨hnil, hname⟩
        rw [(List.append_eq_nil_iff.mp hnil.symm).1] at hname
        cases hname
    | cons c rest =>
      rw [readName?]
      constructor
      · intro h
        split at h
        · next hc =>
          obtain ⟨⟨x, y⟩, hrest, hxy⟩ := Option.map_eq_some_iff.mp h
          cases hxy
          obtain ⟨rfl, hname⟩ := ih.mp hrest
          exact ⟨rfl, .cons hc hname⟩
        · cases h
      · rintro ⟨hwritten, hname⟩
        cases hname with
        | cons hc hname =>
          rw [List.cons_append] at hwritten
          cases hwritten
          rw [if_pos hc, ih.mpr ⟨rfl, hname⟩]
          rfl

theorem repeatName?_eq_some {name t after : Text} :
    repeatName? name t = some after ↔
      ∃ closing, t = closing ++ after ∧ closing.map foldTag = name.map foldTag := by
  induction name generalizing t with
  | nil =>
    rw [repeatName?]
    constructor
    · rintro ⟨⟩
      exact ⟨[], rfl, rfl⟩
    · rintro ⟨closing, rfl, hclosing⟩
      rw [List.map_eq_nil_iff.mp hclosing]
      rfl
  | cons n name ih =>
    cases t with
    | nil =>
      rw [repeatName?]
      constructor
      · rintro ⟨⟩
      · rintro ⟨closing, hnil, hclosing⟩
        rw [(List.append_eq_nil_iff.mp hnil.symm).1] at hclosing
        cases hclosing
    | cons c rest =>
      rw [repeatName?]
      constructor
      · intro h
        split at h
        · next hc =>
          obtain ⟨closing, rfl, hclosing⟩ := ih.mp h
          exact ⟨c :: closing, rfl, by rw [List.map_cons, List.map_cons, hc, hclosing]⟩
        · cases h
      · rintro ⟨closing, hwritten, hclosing⟩
        cases closing with
        | nil => cases hclosing
        | cons d closing =>
          cases hwritten
          rw [List.map_cons, List.map_cons, List.cons.injEq] at hclosing
          rw [if_pos hclosing.1]
          exact ih.mpr ⟨closing, rfl, hclosing.2⟩

theorem closingTag?_eq_some {name t after : Text} :
    closingTag? name t = some after ↔
      ∃ closing, t = '<' :: '/' :: (closing ++ '>' :: after) ∧
        closing.map foldTag = name.map foldTag := by
  constructor
  · intro h
    unfold closingTag? at h
    split at h
    · split at h
      · next hname =>
        cases h
        obtain ⟨closing, rfl, hclosing⟩ := repeatName?_eq_some.mp hname
        exact ⟨closing, rfl, hclosing⟩
      · cases h
    · cases h
  · rintro ⟨closing, rfl, hclosing⟩
    rw [closingTag?, repeatName?_eq_some.mpr ⟨closing, rfl, hclosing⟩]
    rfl

/-- The tag that closes a name stands somewhere. -/
def Closed (name t : Text) : Prop :=
  ∃ inside closing after, t = inside ++ '<' :: '/' :: (closing ++ '>' :: after) ∧
    closing.map foldTag = name.map foldTag

theorem afterClosing?_eq_none {name t : Text} : afterClosing? name t = none ↔ ¬ Closed name t := by
  induction t with
  | nil =>
    refine iff_of_true rfl ?_
    rintro ⟨inside, closing, after, hnil, -⟩
    simp at hnil
  | cons c rest ih =>
    rw [afterClosing?]
    constructor
    · rintro h ⟨inside, closing, after, hwritten, hclosing⟩
      split at h
      · cases h
      · next hnone =>
        cases inside with
        | nil =>
          rw [closingTag?_eq_some.mpr ⟨closing, hwritten, hclosing⟩] at hnone
          cases hnone
        | cons d inside =>
          rw [List.cons_append] at hwritten
          cases hwritten
          exact ih.mp h ⟨inside, closing, after, rfl, hclosing⟩
    · intro h
      split
      · next hsome =>
        obtain ⟨closing, hwritten, hclosing⟩ := closingTag?_eq_some.mp hsome
        exact absurd ⟨[], closing, _, hwritten, hclosing⟩ h
      · refine ih.mpr ?_
        rintro ⟨inside, closing, after, rfl, hclosing⟩
        exact h ⟨c :: inside, closing, after, rfl, hclosing⟩

theorem length_afterClosing? {name t after : Text} (h : afterClosing? name t = some after) :
    after.length < t.length := by
  induction t with
  | nil => cases h
  | cons c rest ih =>
    rw [afterClosing?] at h
    split at h
    · next hsome =>
      cases h
      obtain ⟨closing, hwritten, -⟩ := closingTag?_eq_some.mp hsome
      rw [hwritten]
      simp only [List.length_cons, List.length_append]
      omega
    · exact (ih h).trans (Nat.lt_succ_self _)

theorem SpelledOut.not_mem {letters name : Text} {c : Char} (h : SpelledOut letters name)
    (hletters : ∀ letter ∈ letters, matchesLetter letter c = false) : c ∉ name := by
  induction h with
  | nil => exact List.not_mem_nil
  | cons hmatch _ ih =>
    rw [List.forall_mem_cons] at hletters
    rw [List.mem_cons, not_or]
    refine ⟨?_, ih hletters.2⟩
    rintro rfl
    rw [hletters.1] at hmatch
    cases hmatch

/-- No name of a tag goes on beyond the tag. -/
theorem not_mem_tagName {letters : String} {name : Text} (hletters : letters ∈ tagNames)
    (h : SpelledOut letters.toList name) : '>' ∉ name := by
  have hnone : (tagNames.all fun letters =>
      letters.toList.all fun letter => !matchesLetter letter '>') = true := by decide
  refine h.not_mem fun letter hletter => ?_
  simpa using List.all_eq_true.mp (List.all_eq_true.mp hnone letters hletters) letter hletter

theorem eq_of_append_cons {x x' z z' : Text} {c : Char} (hx : c ∉ x) (hx' : c ∉ x')
    (h : x ++ c :: z = x' ++ c :: z') : x = x' ∧ z = z' := by
  induction x generalizing x' with
  | nil =>
    cases x' with
    | nil => exact ⟨rfl, (List.cons.inj h).2⟩
    | cons d x' => exact absurd (List.cons.inj h).1 (List.ne_of_not_mem_cons hx')
  | cons d x ih =>
    cases x' with
    | nil => exact absurd (List.cons.inj h).1.symm (List.ne_of_not_mem_cons hx)
    | cons d' x' =>
      obtain ⟨rfl, hmore⟩ := List.cons.inj h
      obtain ⟨rfl, rfl⟩ := ih (List.not_mem_of_not_mem_cons hx)
        (List.not_mem_of_not_mem_cons hx') hmore
      exact ⟨rfl, rfl⟩

theorem openingTag?_eq_some {t name after : Text} :
    openingTag? t = some (name, after) ↔
      t = '<' :: (name ++ '>' :: after) ∧ ∃ letters ∈ tagNames, SpelledOut letters.toList name := by
  have hsound : ∀ {t name after}, openingTag? t = some (name, after) →
      t = '<' :: (name ++ '>' :: after) ∧
        ∃ letters ∈ tagNames, SpelledOut letters.toList name := by
    intro t name after h
    unfold openingTag? at h
    split at h
    · obtain ⟨letters, hletters, hread⟩ := List.exists_of_findSome?_eq_some h
      split at hread
      · next hname =>
        cases hread
        obtain ⟨rfl, hspelled⟩ := readName?_eq_some.mp hname
        exact ⟨rfl, letters, hletters, hspelled⟩
      · cases hread
    · cases h
  refine ⟨hsound, ?_⟩
  rintro ⟨rfl, letters, hletters, hspelled⟩
  cases hopen : openingTag? ('<' :: (name ++ '>' :: after)) with
  | none =>
    rw [openingTag?, List.findSome?_eq_none_iff] at hopen
    have hread := hopen letters hletters
    rw [readName?_eq_some.mpr ⟨rfl, hspelled⟩] at hread
    cases hread
  | some found =>
    obtain ⟨name', after'⟩ := found
    obtain ⟨hwritten, letters', hletters', hspelled'⟩ := hsound hopen
    obtain ⟨rfl, rfl⟩ := eq_of_append_cons (not_mem_tagName hletters hspelled)
      (not_mem_tagName hletters' hspelled') (List.cons.inj hwritten).2
    rfl

/-- A reasoning block stands at the start of a text. -/
def StartsReasoning (t : Text) : Prop :=
  ∃ letters ∈ tagNames, ∃ name inside, t = '<' :: (name ++ '>' :: inside) ∧
    SpelledOut letters.toList name ∧ Closed name inside

theorem afterReasoning?_eq_none {t : Text} : afterReasoning? t = none ↔ ¬ StartsReasoning t := by
  rw [afterReasoning?]
  constructor
  · rintro h ⟨letters, hletters, name, inside, rfl, hspelled, hclosed⟩
    rw [openingTag?_eq_some.mpr ⟨rfl, letters, hletters, hspelled⟩] at h
    exact afterClosing?_eq_none.mp h hclosed
  · intro h
    split
    · next name inside hopen =>
      obtain ⟨rfl, letters, hletters, hspelled⟩ := openingTag?_eq_some.mp hopen
      exact afterClosing?_eq_none.mpr fun hclosed =>
        h ⟨letters, hletters, name, inside, rfl, hspelled, hclosed⟩
    · rfl

theorem length_afterReasoning? {t after : Text} (h : afterReasoning? t = some after) :
    after.length < t.length := by
  rw [afterReasoning?] at h
  split at h
  · next name inside hopen =>
    obtain ⟨rfl, -⟩ := openingTag?_eq_some.mp hopen
    have hshort := length_afterClosing? h
    simp only [List.length_cons, List.length_append]
    omega
  · cases h

/-- A reasoning block stands in a text. -/
def Reasoned (t : Text) : Prop := ∃ before rest, t = before ++ rest ∧ StartsReasoning rest

theorem length_dropReasoningWithin_le (fuel : Nat) (t : Text) :
    (dropReasoningWithin fuel t).length ≤ t.length := by
  induction fuel generalizing t with
  | zero => exact le_rfl
  | succ fuel ih =>
    cases t with
    | nil => exact le_rfl
    | cons c rest =>
      rw [dropReasoningWithin]
      split
      · next hsome => exact (ih _).trans (length_afterReasoning? hsome).le
      · exact Nat.succ_le_succ (ih rest)

theorem dropReasoningWithin_of_not_reasoned {fuel : Nat} {t : Text} (h : ¬ Reasoned t) :
    dropReasoningWithin fuel t = t := by
  induction fuel generalizing t with
  | zero => rfl
  | succ fuel ih =>
    cases t with
    | nil => rfl
    | cons c rest =>
      have hnone := afterReasoning?_eq_none.mpr fun hstarts => h ⟨[], c :: rest, rfl, hstarts⟩
      rw [dropReasoningWithin, hnone]
      refine congrArg (c :: ·) (ih ?_)
      rintro ⟨before, after, rfl, hstarts⟩
      exact h ⟨c :: before, after, rfl, hstarts⟩

theorem length_dropReasoningWithin_start {fuel : Nat} {c : Char} {rest : Text}
    (hfuel : (c :: rest).length ≤ fuel) (h : StartsReasoning (c :: rest)) :
    (dropReasoningWithin fuel (c :: rest)).length < (c :: rest).length := by
  obtain ⟨after, hsome⟩ := Option.ne_none_iff_exists'.mp fun hnone =>
    afterReasoning?_eq_none.mp hnone h
  obtain ⟨fuel, rfl⟩ := Nat.exists_eq_add_one_of_ne_zero (show fuel ≠ 0 by rintro rfl; cases hfuel)
  rw [dropReasoningWithin, hsome]
  exact (length_dropReasoningWithin_le fuel after).trans_lt (length_afterReasoning? hsome)

theorem length_dropReasoningWithin_lt {fuel : Nat} {t : Text} (hfuel : t.length ≤ fuel)
    (h : Reasoned t) : (dropReasoningWithin fuel t).length < t.length := by
  obtain ⟨before, rest, rfl, hstarts⟩ := h
  induction before generalizing fuel with
  | nil =>
    cases rest with
    | nil =>
      obtain ⟨letters, -, name, inside, hwritten, -⟩ := hstarts
      cases hwritten
    | cons c more => exact length_dropReasoningWithin_start hfuel hstarts
  | cons c before ih =>
    by_cases hfirst : StartsReasoning (c :: (before ++ rest))
    · exact length_dropReasoningWithin_start hfuel hfirst
    · obtain ⟨fuel, rfl⟩ :=
        Nat.exists_eq_add_one_of_ne_zero (show fuel ≠ 0 by rintro rfl; cases hfuel)
      rw [List.cons_append, dropReasoningWithin, afterReasoning?_eq_none.mpr hfirst]
      exact Nat.succ_lt_succ (ih (Nat.le_of_succ_le_succ hfuel))

theorem dropReasoning_of_not_reasoned {t : Text} (h : ¬ Reasoned t) : dropReasoning t = t :=
  dropReasoningWithin_of_not_reasoned h

theorem length_dropReasoning_lt {t : Text} (h : Reasoned t) :
    (dropReasoning t).length < t.length := length_dropReasoningWithin_lt le_rfl h

/-! ## Fences -/

/-- A line that opens a fenced block ends with a line feed. -/
theorem afterFenceStart?_sublist {t after : Text} (h : afterFenceStart? t = some after) :
    ('\n' :: after).Sublist t := by
  rw [afterFenceStart?] at h
  obtain ⟨inside, hfence, hline⟩ := Option.bind_eq_some_iff.mp h
  have hinside : inside.Sublist t := by
    have hskip : t.skipBlanks.Sublist t := List.dropWhile_sublist isBlank
    rw [Text.dropStart?_eq_some.mp hfence] at hskip
    exact (List.sublist_append_right _ inside).trans hskip
  split at hline
  · next hrest =>
    cases hline
    refine List.Sublist.trans ?_ hinside
    rw [← hrest]
    exact (List.dropWhile_sublist _).trans (List.dropWhile_sublist _)
  · cases hline

theorem dropFenceStartFrom_sublist (atLineStart : Bool) (t : Text) :
    (dropFenceStartFrom atLineStart t).Sublist t := by
  induction t generalizing atLineStart with
  | nil => exact List.Sublist.refl _
  | cons c rest ih =>
    rw [dropFenceStartFrom]
    split
    · next hsome =>
      split at hsome
      · exact (List.sublist_cons_self _ _).trans (afterFenceStart?_sublist hsome)
      · cases hsome
    · exact (ih _).cons_cons c

theorem dropFenceStartFrom_of_not_mem {t : Text} (h : '\n' ∉ t) (atLineStart : Bool) :
    dropFenceStartFrom atLineStart t = t := by
  induction t generalizing atLineStart with
  | nil => rfl
  | cons c rest ih =>
    rw [dropFenceStartFrom]
    split
    · next hsome =>
      split at hsome
      · exact absurd ((afterFenceStart?_sublist hsome).subset List.mem_cons_self) h
      · cases hsome
    · rw [ih (List.not_mem_of_not_mem_cons h)]

theorem dropFenceEnd_sublist (t : Text) : (dropFenceEnd t).Sublist t := by
  induction t with
  | nil => exact List.Sublist.refl _
  | cons c rest ih =>
    rw [dropFenceEnd]
    split
    · exact List.nil_sublist _
    · exact ih.cons_cons c

/-- What follows a fence has the last character, if that belongs to no fence. -/
theorem mem_of_dropStart? {c : Char} (hc : c ≠ '\x60') {t after : Text} (h : t.getLast? = some c)
    (hstart : Text.dropStart? ['\x60', '\x60', '\x60'] t = some after) : c ∈ after := by
  rw [Text.dropStart?_eq_some.mp hstart, List.getLast?_append] at h
  cases hafter : after.getLast? with
  | none =>
    rw [hafter] at h
    exact absurd (Option.some.inj h).symm hc
  | some d =>
    rw [hafter] at h
    cases h
    exact List.mem_of_getLast? hafter

/-- A fence and blanks do not end with a bracket. -/
theorem not_isFenceEnd {t : Text} (h : t.getLast? = some ']') : isFenceEnd t = false := by
  have hfence : ∀ {u after : Text}, u.getLast? = some ']' →
      Text.dropStart? ['\x60', '\x60', '\x60'] u = some after → after.all isBlank = false := by
    intro u after hu hstart
    exact List.all_eq_false.mpr ⟨']', mem_of_dropStart? (by decide) hu hstart, by decide⟩
  unfold isFenceEnd
  split
  · next rest =>
    cases rest with
    | nil => cases h
    | cons c more =>
      have hlast : (c :: more).getLast? = some ']' := h
      dsimp only
      split
      · next hstart => exact hfence hlast hstart
      · rfl
  · dsimp only
    split
    · next hstart => exact hfence h hstart
    · rfl

theorem dropFenceEnd_of_getLast? {t : Text} (h : t.getLast? = some ']') : dropFenceEnd t = t := by
  induction t with
  | nil => rfl
  | cons c rest ih =>
    rw [dropFenceEnd, not_isFenceEnd h]
    cases rest with
    | nil => rfl
    | cons d rest => exact congrArg (c :: ·) (ih h)

/-! ## The array -/

theorem upToLastBracket?_sublist {t kept : Text} (h : upToLastBracket? t = some kept) :
    kept.Sublist t := by
  rw [upToLastBracket?] at h
  split at h
  · cases h
  · cases h
    have hreverse := (List.dropWhile_sublist (· ≠ ']') (l := t.reverse)).reverse
    rwa [List.reverse_reverse] at hreverse

theorem outerArray_sublist (t : Text) : (outerArray t).Sublist t := by
  rw [outerArray]
  split
  · exact Text.strip_sublist t
  · cases hcut : upToLastBracket? (t.dropWhile (· ≠ '[')) with
    | none => exact Text.strip_sublist t
    | some kept => exact (upToLastBracket?_sublist hcut).trans (List.dropWhile_sublist _)

theorem outerArray_brackets (t : Text) : outerArray ('[' :: t ++ [']']) = '[' :: t ++ [']'] := by
  simp [outerArray, upToLastBracket?]

/-! ## All together -/

theorem length_clean_le (t : Text) :
    (clean t).length ≤ (suggestionBlock (dropReasoning t)).length :=
  ((outerArray_sublist _).trans ((dropFenceEnd_sublist _).trans
    (dropFenceStartFrom_sublist true _))).length_le

/-- **What the cleanup leaves as it is**: of the texts in brackets without a line feed those that
hold neither a reasoning block nor a block of suggestions. -/
theorem clean_eq_self_iff {t : Text} (h : '\n' ∉ t) :
    clean ('[' :: t ++ [']']) = '[' :: t ++ [']'] ↔
      ¬ Reasoned ('[' :: t ++ [']']) ∧ ¬ Blocked ('[' :: t ++ [']']) := by
  constructor
  · intro hsame
    have hlength := length_clean_le ('[' :: t ++ [']'])
    rw [hsame] at hlength
    constructor
    · intro hreasoned
      have hshort := length_dropReasoning_lt hreasoned
      have hblock := length_suggestionBlock_le (dropReasoning ('[' :: t ++ [']']))
      omega
    · intro hblocked
      by_cases hreasoned : Reasoned ('[' :: t ++ [']'])
      · have hshort := length_dropReasoning_lt hreasoned
        have hblock := length_suggestionBlock_le (dropReasoning ('[' :: t ++ [']']))
        omega
      · rw [dropReasoning_of_not_reasoned hreasoned] at hlength
        have hshort := length_suggestionBlock_lt hblocked
        omega
  · rintro ⟨hreasoned, hblocked⟩
    have hnone : '\n' ∉ '[' :: t ++ [']'] := by simp [h]
    rw [clean, dropReasoning_of_not_reasoned hreasoned, suggestionBlock_of_not_blocked hblocked,
      dropFenceStart, dropFenceStartFrom_of_not_mem hnone,
      dropFenceEnd_of_getLast? List.getLast?_concat, outerArray_brackets]

end Cleanup

end GhostEdit
