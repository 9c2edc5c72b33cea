import GhostEdit.Proofs.Json.Reading
import GhostEdit.Proofs.Suggestion.Cleanup

/-!
# An array is taken out of its wrapping

An answer may come with reasoning in front, a comment, and tags around its array. The cleanup looks
for each of these in the whole text. Two marks never overlap, as each starts with an angle bracket
and has no other, so the first mark that is found is the one that was put there, as long as none
stands earlier. The lines of a fence are looked for last. They start with backticks, which stand in
an array in strings only, and a string has no line feed in it, so no line starts there.

## Main definitions

* `Cleanup.Opened`: a tag that opens reasoning stands in a text
* `Cleanup.Lexical`: backticks stand only in strings, and line feeds only outside
* `Cleanup.wrapped`: an array with everything around it

## Main results

* `Cleanup.dropReasoning_wrapped`, `Cleanup.suggestionBlock_wrapped`: what each step leaves
* `Cleanup.Lexical.dropFenceStartFrom`: no fence is found in an array
* `Cleanup.clean_wrapped`: the array is what is left
-/

namespace GhostEdit

namespace Text

/-! ## First occurrences -/

/-- What starts in a text and lacks the character behind it ends in that text. -/
theorem exists_eq_append {x y u v : Text} {d : Char} (hd : d ∉ u) (h : x ++ d :: y = u ++ v) :
    ∃ z, x = u ++ z ∧ v = z ++ d :: y := by
  induction u generalizing x with
  | nil => exact ⟨x, rfl, h.symm⟩
  | cons c u ih =>
    cases x with
    | nil =>
      cases h
      exact absurd List.mem_cons_self hd
    | cons b x =>
      obtain ⟨rfl, hmore⟩ := List.cons.inj h
      obtain ⟨z, rfl, hv⟩ := ih (List.not_mem_of_not_mem_cons hd) hmore
      exact ⟨z, rfl, hv⟩

/-- A text whose first character comes once in it is found where it first occurs. -/
theorem cutAt?_append {d : Char} {part before : Text} (hd : d ∉ part)
    (h : ¬ d :: part <:+: before) (after : Text) :
    cutAt? (d :: part) (before ++ (d :: part ++ after)) = some (before, after) := by
  induction before with
  | nil =>
    have hfound : dropStart? (d :: part) (d :: (part ++ after)) = some after :=
      dropStart?_eq_some.mpr rfl
    rw [List.nil_append, List.cons_append, cutAt?, hfound]
  | cons c before ih =>
    have hnone : dropStart? (d :: part) (c :: (before ++ (d :: part ++ after))) = none := by
      cases hstart : dropStart? (d :: part) (c :: (before ++ (d :: part ++ after))) with
      | none => rfl
      | some rest =>
        obtain ⟨rfl, hmore⟩ := List.cons.inj (dropStart?_eq_some.mp hstart)
        obtain ⟨z, rfl, -⟩ := exists_eq_append hd hmore
        exact absurd ⟨[], z, rfl⟩ h
    rw [List.cons_append, cutAt?, hnone, ih fun hwithin => h (List.infix_cons hwithin)]
    rfl

theorem infix_of_blanks_left {part t w : Text} (hpart : ∀ c ∈ part, isBlank c = false)
    (hne : part ≠ []) (hw : ∀ c ∈ w, isBlank c = true) (h : part <:+: w ++ t) : part <:+: t := by
  induction w with
  | nil => exact h
  | cons c w ih =>
    rcases List.infix_cons_iff.mp h with hstart | hwithin
    · obtain ⟨b, part, rfl⟩ := List.exists_cons_of_ne_nil hne
      obtain ⟨rfl, -⟩ := List.cons_prefix_cons.mp hstart
      have hblank := hw b List.mem_cons_self
      rw [hpart b List.mem_cons_self] at hblank
      cases hblank
    · exact ih (fun d hd => hw d (List.mem_cons_of_mem c hd)) hwithin

/-- What has no blank and stands in a text with blanks around it stands in the text. -/
theorem infix_of_blanks {part t w w' : Text} (hpart : ∀ c ∈ part, isBlank c = false)
    (hne : part ≠ []) (hw : ∀ c ∈ w, isBlank c = true) (hw' : ∀ c ∈ w', isBlank c = true)
    (h : part <:+: w ++ (t ++ w')) : part <:+: t := by
  have hleft := List.reverse_infix.mpr (infix_of_blanks_left hpart hne hw h)
  rw [List.reverse_append] at hleft
  refine List.reverse_infix.mp (infix_of_blanks_left (fun c hc => ?_) ?_ (fun c hc => ?_) hleft)
  · exact hpart c (List.mem_reverse.mp hc)
  · exact fun hnil => hne (List.reverse_eq_nil_iff.mp hnil)
  · exact hw' c (List.mem_reverse.mp hc)

/-- The blanks around a text that has none at its ends are taken off. -/
theorem strip_blanks {w w' t : Text} (hw : ∀ c ∈ w, isBlank c = true)
    (hw' : ∀ c ∈ w', isBlank c = true) (hne : t ≠ []) (hfirst : ∀ c ∈ t.head?, isBlank c = false)
    (hlast : ∀ c ∈ t.getLast?, isBlank c = false) : (w ++ (t ++ w')).strip = t := by
  have hskip : (w ++ (t ++ w')).skipBlanks = t ++ w' := by
    refine dropWhile_run hw fun c hc => hfirst c ?_
    rwa [List.head?_append_of_ne_nil _ hne] at hc
  rw [strip, hskip, dropEndBlanks, dropEndWhile, List.reverse_append,
    dropWhile_run (fun c hc => hw' c (List.mem_reverse.mp hc)) (by rwa [List.head?_reverse]),
    List.reverse_reverse]

end Text

namespace Cleanup

/-! ## Reasoning -/

/-- A tag that opens reasoning stands in a text, its name in any case and with any look-alikes. -/
def Opened (t : Text) : Prop :=
  ∃ before name after, t = before ++ '<' :: (name ++ '>' :: after) ∧
    ∃ letters ∈ tagNames, SpelledOut letters.toList name

/-- A character that no tag goes on with. -/
def Outside (d : Char) : Prop :=
  d ≠ '>' ∧ ∀ letters ∈ tagNames, ∀ letter ∈ letters.toList, matchesLetter letter d = false

theorem opened_iff {t : Text} :
    Opened t ↔ ∃ s ∈ t.tails, (openingTag? s).isSome = true := by
  constructor
  · rintro ⟨before, name, after, rfl, htag⟩
    refine ⟨'<' :: (name ++ '>' :: after), (List.mem_tails _ _).mpr (List.suffix_append _ _), ?_⟩
    rw [openingTag?_eq_some.mpr ⟨rfl, htag⟩]
    rfl
  · rintro ⟨s, hs, hopen⟩
    obtain ⟨⟨name, after⟩, hopen⟩ := Option.isSome_iff_exists.mp hopen
    obtain ⟨before, rfl⟩ := (List.mem_tails _ _).mp hs
    obtain ⟨rfl, htag⟩ := openingTag?_eq_some.mp hopen
    exact ⟨before, name, after, rfl, htag⟩

theorem not_opened_of_not_mem {t : Text} (h : '<' ∉ t) : ¬ Opened t := by
  rintro ⟨before, name, after, rfl, -⟩
  simp at h

/-- No tag stands across what no tag goes on with. -/
theorem not_opened_append {x y : Text} (hx : ¬ Opened x) (hy : ¬ Opened y)
    (h : ∀ d ∈ y.head?, Outside d) : ¬ Opened (x ++ y) := by
  rintro ⟨before, name, after, hwritten, letters, hletters, hspelled⟩
  rcases List.append_eq_append_iff.mp hwritten with ⟨z, rfl, hy'⟩ | ⟨z, rfl, hz⟩
  · exact hy ⟨z, name, after, hy', letters, hletters, hspelled⟩
  · cases z with
    | nil => exact hy ⟨[], name, after, hz.symm, letters, hletters, hspelled⟩
    | cons c z =>
      obtain rfl := (List.cons.inj hz).1
      have hmore : name ++ '>' :: after = z ++ y := (List.cons.inj hz).2
      cases y with
      | nil =>
        rw [List.append_nil] at hmore
        exact hx ⟨before, name, after, by rw [hmore], letters, hletters, hspelled⟩
      | cons d y =>
        obtain ⟨hclose, hname⟩ := h d rfl
        have hd : d ∉ name ++ ['>'] := by
          have hnot := hspelled.not_mem (hname letters hletters)
          simp [hnot, hclose]
        obtain ⟨more, rfl, -⟩ := Text.exists_eq_append hd
          (show z ++ d :: y = name ++ ['>'] ++ after by rw [← hmore, List.append_assoc]; rfl)
        refine hx ⟨before, name, more, ?_, letters, hletters, hspelled⟩
        rw [List.append_assoc]
        rfl

/-- A text without a tag is no reasoning, whatever follows it, if a tag could only end with it. -/
theorem dropReasoningWithin_append {x : Text} (hx : ¬ Opened x) (hlast : ∀ c ∈ x.getLast?, c = '>')
    {fuel : Nat} (hfuel : x.length ≤ fuel) (rest : Text) :
    dropReasoningWithin fuel (x ++ rest) = x ++ dropReasoningWithin (fuel - x.length) rest := by
  induction x generalizing fuel with
  | nil => rfl
  | cons c x ih =>
    have hnone : openingTag? (c :: (x ++ rest)) = none := by
      cases hopen : openingTag? (c :: (x ++ rest)) with
      | none => rfl
      | some found =>
        obtain ⟨hwritten, letters, hletters, hspelled⟩ := openingTag?_eq_some.mp hopen
        obtain ⟨rfl, hmore⟩ := List.cons.inj hwritten
        cases x with
        | nil => exact absurd (hlast '<' rfl) (by decide)
        | cons d x =>
          -- the tag ends with the first bracket, which is no later than the last character
          have hend : (d :: x).getLast (List.cons_ne_nil d x) = '>' := by
            refine hlast _ ?_
            rw [List.getLast?_cons_cons]
            exact List.getLast?_eq_some_getLast _
          obtain ⟨p, q, hpq, hp⟩ := List.eq_append_cons_of_mem (hend ▸ List.getLast_mem _)
          rw [hpq, List.append_assoc] at hmore
          obtain ⟨hname, -⟩ := eq_of_append_cons hp (not_mem_tagName hletters hspelled) hmore
          rw [← hname] at hspelled
          exact absurd ⟨[], p, q, by rw [hpq]; rfl, letters, hletters, hspelled⟩ hx
    obtain ⟨fuel, rfl⟩ := Nat.exists_eq_add_one_of_ne_zero
      (show fuel ≠ 0 by rintro rfl; cases hfuel)
    have hskip : afterReasoning? (c :: (x ++ rest)) = none := by rw [afterReasoning?, hnone]
    have hmore : ¬ Opened x := by
      rintro ⟨before, name, after, rfl, htag⟩
      exact hx ⟨c :: before, name, after, rfl, htag⟩
    have hlast' : ∀ d ∈ x.getLast?, d = '>' := by
      intro d hd
      refine hlast d ?_
      cases x with
      | nil => cases hd
      | cons b x => exact hd
    rw [List.cons_append, dropReasoningWithin, hskip, List.length_cons, Nat.add_sub_add_right]
    exact congrArg (c :: ·) (ih hmore hlast' (Nat.le_of_succ_le_succ hfuel))

/-- The first tag that closes a name is found. -/
theorem afterClosing?_append {name inside : Text} (h : ¬ Closed name inside)
    (hname : '<' ∉ name.map foldTag) {closing : Text}
    (hclosing : closing.map foldTag = name.map foldTag) (rest : Text) :
    afterClosing? name (inside ++ '<' :: '/' :: (closing ++ '>' :: rest)) = some rest := by
  induction inside with
  | nil => rw [List.nil_append, afterClosing?, closingTag?_eq_some.mpr ⟨closing, rfl, hclosing⟩]
  | cons c inside ih =>
    have hnone : closingTag? name
        (c :: (inside ++ '<' :: '/' :: (closing ++ '>' :: rest))) = none := by
      cases hclose : closingTag? name
          (c :: (inside ++ '<' :: '/' :: (closing ++ '>' :: rest))) with
      | none => rfl
      | some after =>
        obtain ⟨found, hwritten, hfound⟩ := closingTag?_eq_some.mp hclose
        obtain ⟨rfl, hmore⟩ := List.cons.inj hwritten
        have hd : '<' ∉ '/' :: (found ++ ['>']) := by
          intro hmem
          have hmem : '<' ∈ found := by simpa using hmem
          exact hname (hfound ▸ List.mem_map_of_mem (f := foldTag) hmem)
        obtain ⟨z, rfl, -⟩ := Text.exists_eq_append (v := after) hd (by
          rw [hmore, List.cons_append, List.append_assoc]
          rfl)
        refine absurd ⟨[], found, z, ?_, hfound⟩ h
        rw [List.cons_append, List.append_assoc]
        rfl
    have hmore : ¬ Closed name inside := by
      rintro ⟨before, found, after, rfl, hfound⟩
      exact h ⟨c :: before, found, after, rfl, hfound⟩
    rw [List.cons_append, afterClosing?, hnone]
    exact ih hmore

/-! ## Fences -/

/-- A text in which backticks stand only in strings, and line feeds only outside of them. -/
inductive Lexical : Text → Prop
  | nil : Lexical []
  | cons {c : Char} {t : Text} (hquote : c ≠ '"') (htick : c ≠ '\x60') (h : Lexical t) :
    Lexical (c :: t)
  | string {body t : Text} (hbody : '\n' ∉ body) (h : Lexical t) :
    Lexical ('"' :: (body ++ '"' :: t))

namespace Lexical

theorem append {t t' : Text} (h : Lexical t) (h' : Lexical t') : Lexical (t ++ t') := by
  induction h with
  | nil => exact h'
  | cons hquote htick _ ih => exact .cons hquote htick ih
  | string hbody _ ih =>
    rw [List.cons_append, List.append_assoc]
    exact .string hbody ih

theorem of_forall {t : Text} (h : ∀ c ∈ t, c ≠ '"' ∧ c ≠ '\x60') : Lexical t := by
  induction t with
  | nil => exact .nil
  | cons c t ih =>
    obtain ⟨hc, hmore⟩ := List.forall_mem_cons.mp h
    exact .cons hc.1 hc.2 (ih hmore)

/-- Behind blanks there is no backtick. -/
theorem head?_skipBlanks {t : Text} (h : Lexical t) : t.skipBlanks.head? ≠ some '\x60' := by
  induction h with
  | nil =>
    rintro ⟨⟩
  | @cons c t _ htick _ ih =>
    by_cases hc : isBlank c = true
    · rwa [Text.skipBlanks, List.dropWhile_cons_of_pos hc]
    · rw [Text.skipBlanks, List.dropWhile_cons_of_neg hc]
      exact fun heq => htick (Option.some.inj heq)
  | string _ _ _ =>
    rintro ⟨⟩

/-- No line that opens a fence starts there. -/
theorem afterFenceStart? {t : Text} (h : Lexical t) : afterFenceStart? t = none := by
  have hnone : Text.dropStart? ['\x60', '\x60', '\x60'] t.skipBlanks = none := by
    cases hstart : Text.dropStart? ['\x60', '\x60', '\x60'] t.skipBlanks with
    | none => rfl
    | some rest =>
      have hhead := h.head?_skipBlanks
      rw [Text.dropStart?_eq_some.mp hstart] at hhead
      exact absurd rfl hhead
  rw [Cleanup.afterFenceStart?, hnone]
  rfl

end Lexical

/-- Inside a line no fence is looked for. -/
theorem dropFenceStartFrom_line {line : Text} (h : '\n' ∉ line) (rest : Text) :
    dropFenceStartFrom false (line ++ rest) = line ++ dropFenceStartFrom false rest := by
  induction line with
  | nil => rfl
  | cons c line ih =>
    have hc : (c = '\n') = False := eq_false (List.ne_of_not_mem_cons h).symm
    rw [List.cons_append, dropFenceStartFrom]
    simp only [Bool.false_eq_true, if_false, hc, decide_false]
    rw [ih (List.not_mem_of_not_mem_cons h)]
    rfl

/-- **No fence is found** where backticks stand only in strings. -/
theorem Lexical.dropFenceStartFrom {t : Text} (h : Lexical t) (atLineStart : Bool) :
    dropFenceStartFrom atLineStart t = t := by
  have hnone : ∀ {u : Text}, Lexical u → ∀ start : Bool,
      (if start then Cleanup.afterFenceStart? u else none) = none := by
    intro u hu start
    rw [hu.afterFenceStart?, ite_self]
  induction h generalizing atLineStart with
  | nil => rfl
  | @cons c t hquote htick h ih =>
    rw [Cleanup.dropFenceStartFrom, hnone (.cons hquote htick h)]
    exact congrArg (c :: ·) (ih _)
  | @string body t hbody h ih =>
    have hline : '\n' ∉ body ++ ['"'] := by simp [hbody]
    have hbehind := dropFenceStartFrom_line hline t
    rw [List.append_assoc, List.singleton_append, ih] at hbehind
    rw [Cleanup.dropFenceStartFrom, hnone (.string hbody h)]
    exact congrArg ('"' :: ·) (hbehind.trans (List.append_assoc _ _ _))

/-! ## Arrays -/

open Json

theorem lexical_blanks {t : Text} (h : ∀ c ∈ t, isBlank c = true) : Lexical t := by
  refine .of_forall fun c hc => ⟨?_, ?_⟩ <;> rintro rfl <;> cases h _ hc

theorem lexical_space (s : Space) : Lexical s.text :=
  lexical_blanks fun c hc => isBlank_of_isSpace (s.blank c hc)

theorem lexical_ending (e : Ending) : Lexical e.text := by
  rw [Ending.text]
  refine (lexical_blanks e.blank_before).append ?_
  cases hcomma : e.comma with
  | none => exact .nil
  | some behind =>
    exact .cons (by decide) (by decide) (lexical_blanks (e.blank_comma behind hcomma))

theorem lexical_numeral (n : Numeral) : Lexical n.text := by
  refine .of_forall fun c hc => ?_
  rcases Numeral.mem_text hc with h | h
  · constructor <;> rintro rfl <;> cases h
  · constructor <;> rintro rfl <;> exact absurd h (by decide)

theorem lexical_word {letters : String} {v : Value} (h : (letters, v) ∈ words) :
    Lexical letters.toList := by
  refine .of_forall fun c hc => ?_
  rcases mem_word h c hc with h | rfl
  · constructor <;> rintro rfl <;> cases h
  · decide

/-- No line ends in a string. -/
theorem newline_not_mem_body (s : Literal) : '\n' ∉ s.body := by
  intro hmem
  obtain ⟨m, -, hm⟩ := List.mem_flatMap.mp hmem
  have hdigit : ∀ d : HexDigit, '\n' ≠ d.char := by
    rintro ⟨c, value, hreads⟩ rfl
    cases hreads
  cases m with
  | plain c hquote hslash hcontrol =>
    rw [Character.text, List.mem_singleton] at hm
    subst hm
    exact absurd hcontrol (by decide)
  | escape letter c h =>
    have hletter : '\n' ≠ letter := by
      rintro rfl
      cases h
    simp [Character.text, hletter] at hm
  | code a b c d => simp [Character.text, hdigit] at hm

theorem lexical_literal (s : Literal) : Lexical s.text := .string (newline_not_mem_body s) .nil

theorem lexical_label (l : Label) : Lexical l.text :=
  (lexical_space l.before).append ((lexical_literal l.name).append
    ((lexical_space l.behind).append (.cons (by decide) (by decide) (lexical_space l.ahead))))

/-- A bracket or a brace on each side changes nothing. -/
theorem Lexical.enclosed {t : Text} (h : Lexical t) {opening closing : Char}
    (hopening : opening ∈ "[\x7b".toList) (hclosing : closing ∈ "]\x7d".toList) :
    Lexical (opening :: (t ++ [closing])) := by
  have hne : ∀ c ∈ "[\x7b]\x7d".toList, c ≠ '"' ∧ c ≠ '\x60' := by simp
  have hopening := hne opening (List.mem_append_left "]\x7d".toList hopening)
  have hclosing := hne closing (List.mem_append_right "[\x7b".toList hclosing)
  exact .cons hopening.1 hopening.2 (h.append (.cons hclosing.1 hclosing.2 .nil))

mutual

theorem lexical_form : ∀ form : Form, Lexical form.text
  | .word _ _ h => by
    rw [Form.text]
    exact lexical_word h
  | .number n => by
    rw [Form.text]
    exact lexical_numeral n
  | .string s => by
    rw [Form.text]
    exact lexical_literal s
  | .emptyArray inside => by
    rw [Form.text]
    exact (lexical_space inside).enclosed (by decide) (by decide)
  | .array elements => by
    rw [Form.text]
    exact (lexical_elements elements).enclosed (by decide) (by decide)
  | .emptyObject inside => by
    rw [Form.text]
    exact (lexical_space inside).enclosed (by decide) (by decide)
  | .object members => by
    rw [Form.text]
    exact (lexical_members members).enclosed (by decide) (by decide)

theorem lexical_elements : ∀ elements : Elements, Lexical elements.text
  | .last before form ending => by
    rw [Elements.text]
    exact (lexical_space before).append ((lexical_form form).append (lexical_ending ending))
  | .more before form behind others => by
    rw [Elements.text]
    exact (lexical_space before).append ((lexical_form form).append ((lexical_space behind).append
      (.cons (by decide) (by decide) (lexical_elements others))))

theorem lexical_members : ∀ members : Members, Lexical members.text
  | .last label form ending => by
    rw [Members.text]
    exact (lexical_label label).append ((lexical_form form).append (lexical_ending ending))
  | .more label form behind others => by
    rw [Members.text]
    exact (lexical_label label).append ((lexical_form form).append ((lexical_space behind).append
      (.cons (by decide) (by decide) (lexical_members others))))

end

theorem exists_brackets {form : Form} (h : form.IsArray) :
    ∃ inside, form.text = '[' :: inside ++ [']'] := by
  cases form with
  | emptyArray inside =>
    rw [Form.text]
    exact ⟨_, rfl⟩
  | array elements =>
    rw [Form.text]
    exact ⟨_, rfl⟩
  | _ => cases h

/-- **An array is kept as it is** by the steps that look for fences and for brackets. -/
theorem outerArray_form {form : Form} (h : form.IsArray) :
    outerArray (dropFenceEnd (dropFenceStart form.text)) = form.text := by
  obtain ⟨inside, htext⟩ := exists_brackets h
  rw [dropFenceStart, (lexical_form form).dropFenceStartFrom, htext,
    dropFenceEnd_of_getLast? List.getLast?_concat, outerArray_brackets]

/-! ## All together -/

/-- An array in a block of suggestions, with blanks around it. -/
def blocked (w₁ array w₂ : Text) : Text :=
  "<suggestions>".toList ++ (w₁ ++ (array ++ (w₂ ++ "</suggestions>".toList)))

/-- An answer with reasoning in front and a comment before the block. -/
def wrapped (reasoning comment w₁ array w₂ trailing : Text) : Text :=
  "<think>".toList ++ (reasoning ++ ("</think>".toList
    ++ (comment ++ (blocked w₁ array w₂ ++ trailing))))

variable {reasoning comment w₁ w₂ : Text} {array : Form}

theorem outside_of_isBlank {c : Char} (h : isBlank c = true) : Outside c := by
  have hne : ∀ {d : Char}, isBlank d = false → c ≠ d := by
    rintro d hd rfl
    rw [h] at hd
    cases hd
  have hlower : c.toLower = c := by
    refine dif_neg ?_
    rintro ⟨hlow, hhigh⟩
    have hlow : 65 ≤ c.toNat := hlow
    have hhigh : c.toNat ≤ 90 := hhigh
    simp [isBlank, inRanges, blankRanges] at h
    omega
  have hletters : ∀ letters ∈ tagNames, ∀ letter ∈ letters.toList, isBlank letter = false := by
    simp [tagNames, isBlank, inRanges, blankRanges]
  refine ⟨hne rfl, fun letters hmem letter hletter => ?_⟩
  have hkelvin : c ≠ '\u212a' := hne rfl
  have hdotted : c ≠ '\u0130' := hne rfl
  have hdotless : c ≠ '\u0131' := hne rfl
  have hlong : c ≠ '\u017f' := hne rfl
  have hsame : c ≠ letter := hne (hletters letters hmem letter hletter)
  simp [matchesLetter, foldTag, hkelvin, hdotted, hlower, hdotless, hlong, hsame]

theorem outside_angle : Outside '<' := by simp [Outside, tagNames, matchesLetter, foldTag]

theorem outside_bracket : Outside '[' := by simp [Outside, tagNames, matchesLetter, foldTag]

/-- What blanks stand before is no end of a tag if it would be none itself. -/
theorem outside_head {w y : Text} (hw : ∀ c ∈ w, isBlank c = true)
    (hy : ∀ d ∈ y.head?, Outside d) : ∀ d ∈ (w ++ y).head?, Outside d := by
  cases w with
  | nil => exact hy
  | cons c w =>
    rintro d ⟨⟩
    exact outside_of_isBlank (hw c List.mem_cons_self)

theorem not_opened_blanks {w : Text} (hw : ∀ c ∈ w, isBlank c = true) : ¬ Opened w := by
  refine not_opened_of_not_mem fun hmem => ?_
  have hbracket := hw '<' hmem
  cases hbracket

theorem not_opened_blocked (harray : array.IsArray) (h : ¬ Opened array.text)
    (hw₁ : ∀ c ∈ w₁, isBlank c = true) (hw₂ : ∀ c ∈ w₂, isBlank c = true) :
    ¬ Opened (blocked w₁ array.text w₂) := by
  have hopening : ¬ Opened "<suggestions>".toList := by
    rw [opened_iff]
    decide
  have hclosing : ¬ Opened "</suggestions>".toList := by
    rw [opened_iff]
    decide
  have hangle : ∀ d ∈ "</suggestions>".toList.head?, Outside d := by
    rintro d ⟨⟩
    exact outside_angle
  have hbehind : ∀ d ∈ (w₂ ++ "</suggestions>".toList).head?, Outside d := outside_head hw₂ hangle
  have hbracket : ∀ d ∈ (array.text ++ (w₂ ++ "</suggestions>".toList)).head?, Outside d := by
    obtain ⟨inside, htext⟩ := exists_brackets harray
    rw [htext]
    rintro d ⟨⟩
    exact outside_bracket
  exact not_opened_append hopening (not_opened_append (not_opened_blanks hw₁)
    (not_opened_append h (not_opened_append (not_opened_blanks hw₂) hclosing hangle) hbehind)
    hbracket) (outside_head hw₁ hbracket)

/-- Only the reasoning is taken off, as far as the end of the block. -/
theorem dropReasoning_wrapped (hreasoning : ¬ Closed "think".toList reasoning)
    (hcomment : ¬ Opened comment) (hblock : ¬ Opened (blocked w₁ array.text w₂)) (trailing : Text) :
    ∃ rest, dropReasoning (wrapped reasoning comment w₁ array.text w₂ trailing)
      = comment ++ (blocked w₁ array.text w₂ ++ rest) := by
  have hopened : ¬ Opened (comment ++ blocked w₁ array.text w₂) := by
    refine not_opened_append hcomment hblock ?_
    rintro d ⟨⟩
    exact outside_angle
  have hlast : ∀ c ∈ (comment ++ blocked w₁ array.text w₂).getLast?, c = '>' := by
    have hend : ∀ {x y : Text}, y.getLast? = some '>' → (x ++ y).getLast? = some '>' := by
      intro x y hy
      rw [List.getLast?_append, hy]
      rfl
    have hall : (comment ++ blocked w₁ array.text w₂).getLast? = some '>' :=
      hend (hend (hend (hend (hend rfl))))
    rw [hall]
    rintro c ⟨⟩
    rfl
  -- both tags as the cleanup reads them, the name apart from the brackets
  have htext : wrapped reasoning comment w₁ array.text w₂ trailing
      = '<' :: ("think".toList ++ '>' :: (reasoning ++ '<' :: '/' :: ("think".toList ++
          '>' :: (comment ++ blocked w₁ array.text w₂ ++ trailing)))) := by
    rw [List.append_assoc]
    rfl
  have hspelled : SpelledOut "think".toList "think".toList :=
    .cons rfl (.cons rfl (.cons rfl (.cons rfl (.cons rfl .nil))))
  have hname : '<' ∉ "think".toList.map foldTag := by decide
  have hfound : afterReasoning? (wrapped reasoning comment w₁ array.text w₂ trailing)
      = some (comment ++ blocked w₁ array.text w₂ ++ trailing) := by
    rw [htext, afterReasoning?,
      openingTag?_eq_some.mpr ⟨rfl, "think", List.mem_cons_self, hspelled⟩]
    exact afterClosing?_append hreasoning hname rfl _
  have hlength : (comment ++ blocked w₁ array.text w₂).length
      < (wrapped reasoning comment w₁ array.text w₂ trailing).length := by
    rw [htext]
    simp only [List.length_cons, List.length_append]
    omega
  obtain ⟨fuel, hfuel⟩ := Nat.exists_eq_add_one_of_ne_zero (Nat.ne_zero_of_lt hlength)
  refine ⟨dropReasoningWithin (fuel - (comment ++ blocked w₁ array.text w₂).length) trailing, ?_⟩
  have hstep : dropReasoning (wrapped reasoning comment w₁ array.text w₂ trailing)
      = dropReasoningWithin fuel (comment ++ blocked w₁ array.text w₂ ++ trailing) := by
    rw [dropReasoning, hfuel, htext, dropReasoningWithin, ← htext, hfound]
  rw [hstep, dropReasoningWithin_append hopened hlast (by omega), List.append_assoc]

/-- The block is found, and the blanks in it are taken off. -/
theorem suggestionBlock_wrapped (hcomment : ¬ "<suggestions>".toList <:+: comment)
    (harray : array.IsArray) (h : ¬ "</suggestions>".toList <:+: array.text)
    (hw₁ : ∀ c ∈ w₁, isBlank c = true) (hw₂ : ∀ c ∈ w₂, isBlank c = true) (rest : Text) :
    suggestionBlock (comment ++ (blocked w₁ array.text w₂ ++ rest)) = array.text := by
  have hopen : Text.cutAt? "<suggestions>".toList (comment ++ (blocked w₁ array.text w₂ ++ rest))
      = some (comment, w₁ ++ (array.text ++ w₂) ++ ("</suggestions>".toList ++ rest)) := by
    have htext : blocked w₁ array.text w₂ ++ rest = '<' :: "suggestions>".toList
        ++ (w₁ ++ (array.text ++ w₂) ++ ("</suggestions>".toList ++ rest)) := by
      have hassoc : ∀ opening closing : Text,
          opening ++ (w₁ ++ (array.text ++ (w₂ ++ closing))) ++ rest
            = opening ++ (w₁ ++ (array.text ++ w₂) ++ (closing ++ rest)) := by
        intro opening closing
        simp only [List.append_assoc]
      exact hassoc _ _
    rw [htext]
    exact Text.cutAt?_append (by decide) hcomment _
  have hblank : ∀ c ∈ "</suggestions>".toList, isBlank c = false := by
    simp [isBlank, inRanges, blankRanges]
  have hclose : Text.cutAt? "</suggestions>".toList
      (w₁ ++ (array.text ++ w₂) ++ ("</suggestions>".toList ++ rest))
      = some (w₁ ++ (array.text ++ w₂), rest) :=
    Text.cutAt?_append (show '<' ∉ "/suggestions>".toList by decide)
      (fun hwithin => h (Text.infix_of_blanks hblank (by decide) hw₁ hw₂ hwithin)) rest
  have hstrip : (w₁ ++ (array.text ++ w₂)).strip = array.text := by
    obtain ⟨inside, htext⟩ := exists_brackets harray
    refine Text.strip_blanks hw₁ hw₂ ?_ ?_ ?_
    · rw [htext]
      exact List.cons_ne_nil _ _
    · rw [htext]
      rintro c ⟨⟩
      rfl
    · rw [htext, List.getLast?_concat]
      rintro c ⟨⟩
      rfl
  rw [suggestionBlock, suggestionBlock?, hopen]
  simp only [Option.bind_eq_bind, Option.bind_some, hclose]
  exact hstrip

/-- **The array is what is left** of an answer that wraps it, whatever comes behind the block: as
long as the reasoning does not close its tag early, the comment opens neither reasoning nor a block,
and the array neither opens reasoning nor closes the block. -/
theorem clean_wrapped (harray : array.IsArray) (hopened : ¬ Opened array.text)
    (hclosed : ¬ "</suggestions>".toList <:+: array.text)
    (hreasoning : ¬ Closed "think".toList reasoning) (hcomment : ¬ Opened comment)
    (hblock : ¬ "<suggestions>".toList <:+: comment) (hw₁ : ∀ c ∈ w₁, isBlank c = true)
    (hw₂ : ∀ c ∈ w₂, isBlank c = true) (trailing : Text) :
    clean (wrapped reasoning comment w₁ array.text w₂ trailing) = array.text := by
  obtain ⟨rest, hrest⟩ := dropReasoning_wrapped hreasoning hcomment
    (not_opened_blocked harray hopened hw₁ hw₂) trailing
  rw [clean, hrest, suggestionBlock_wrapped hblock harray hclosed hw₁ hw₂, outerArray_form harray]

/-- An array with a string that looks like a fence. -/
def fencedArray : Form :=
  .array (.last ⟨['\n'], List.forall_mem_singleton.mpr rfl⟩
    (.string ⟨[.ofChar '\x60' (.refl true), .ofChar '\x60' (.refl true),
      .ofChar '\x60' (.refl true), .ofChar ']' (.refl true)]⟩)
    ⟨['\n'], none, List.forall_mem_singleton.mpr rfl, Ending.blank_none⟩)

theorem fencedArray_left :
    fencedArray.IsArray ∧ ¬ Opened fencedArray.text ∧
      ¬ "</suggestions>".toList <:+: fencedArray.text ∧
      ¬ Closed "think".toList "<thinking> [1]".toList ∧ ¬ Opened "Here: [".toList ∧
      ¬ "<suggestions>".toList <:+: "Here: [".toList ∧
      clean (wrapped "<thinking> [1]".toList "Here: [".toList ['\n'] fencedArray.text [' ']
        "\x60\x60\x60 ] <think>".toList) = fencedArray.text := by
  have hopened : ¬ Opened fencedArray.text := by
    rw [opened_iff]
    decide +kernel
  have hclosed : ¬ "</suggestions>".toList <:+: fencedArray.text := by decide +kernel
  have hreasoning : ¬ Closed "think".toList "<thinking> [1]".toList :=
    afterClosing?_eq_none.mp rfl
  have hcomment : ¬ Opened "Here: [".toList := by
    rw [opened_iff]
    decide +kernel
  have hblock : ¬ "<suggestions>".toList <:+: "Here: [".toList := by decide +kernel
  have harray : fencedArray.IsArray := trivial
  exact ⟨harray, hopened, hclosed, hreasoning, hcomment, hblock,
    clean_wrapped harray hopened hclosed hreasoning hcomment hblock
      (List.forall_mem_singleton.mpr rfl) (List.forall_mem_singleton.mpr rfl) _⟩

end Cleanup

end GhostEdit
