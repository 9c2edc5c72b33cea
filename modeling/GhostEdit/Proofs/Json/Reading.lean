import GhostEdit.Proofs.Json.Forms

/-!
# Forms are read as they say

The reader goes through the text of a form token by token, and what becomes of it is decided by the
first token that it cannot take: an integer with too many digits, or an ending that JSON does not
allow. Behind a comma that is too many it looks for a value or a name and finds a bracket, a brace
or a blank, none of which starts one; a blank that is no space stands where it looks for a comma.

## Main definitions

* `Json.Outcome`: what becomes of reading tokens
* `Json.starts`: what values and names start with
* `Form.Told`, `Elements.Told`, `Members.Told`: what becomes of reading them, whatever follows

## Main results

* `Json.Form.told`: forms are read as they say
* `Json.Document.outcome`: documents are decoded as their forms say
-/

namespace GhostEdit

namespace Json

/-- A token that JSON allows and that is not too long to be read. -/
def Token.Fits (token : Token) : Prop := token.Sized ∧ token.Settled

theorem Token.fits_string (s : Literal) : (Token.string s).Fits := ⟨trivial, trivial⟩

theorem fits_singleton {token : Token} (h : token.Fits) : ∀ other ∈ [token], other.Fits := by
  intro other hother
  rwa [List.mem_singleton.mp hother]

/-- What becomes of reading tokens: what they stand for, or what is wrong with one of them. -/
inductive Outcome {α : Type} (tokens : List Token) (result : α) : Except Failure α → Prop
  | read (h : ∀ token ∈ tokens, token.Fits) : Outcome tokens result (.ok result)
  | flawed (flaw : Flaw) (rest : Text) (h : ∃ token ∈ tokens, ¬ token.Settled) :
    Outcome tokens result (.error (.flawed flaw rest))
  | oversized (digits : Nat) (h : ∃ token ∈ tokens, ¬ token.Sized) :
    Outcome tokens result (.error (.oversized digits))

namespace Outcome

variable {α β : Type} {tokens more : List Token}

/-- What keeps tokens from being read keeps more of them from it. -/
theorem error_mono {a : α} {b : β} {e : Failure} (h : Outcome tokens a (.error e))
    (hsub : tokens ⊆ more) : Outcome more b (.error e) := by
  cases h with
  | flawed flaw rest h =>
    obtain ⟨token, htoken, hnot⟩ := h
    exact .flawed flaw rest ⟨token, hsub htoken, hnot⟩
  | oversized digits h =>
    obtain ⟨token, htoken, hnot⟩ := h
    exact .oversized digits ⟨token, hsub htoken, hnot⟩

/-- Tokens that are read leave it to those behind them. -/
theorem append_left {b : β} {x : Except Failure β} (hread : ∀ token ∈ tokens, token.Fits)
    (h : Outcome more b x) : Outcome (tokens ++ more) b x := by
  cases x with
  | error e => exact h.error_mono (List.subset_append_right _ _)
  | ok b =>
    cases h with
    | read h => exact .read fun token htoken => (List.mem_append.mp htoken).elim (hread _) (h _)

end Outcome

/-! ## What values and names start with -/

/-- Whether a value can start with a character, or a name. -/
def starts (c : Char) : Bool := isNumeral c || "\"[\x7bntfNI-".toList.contains c

theorem starts_of_isNumeral {c : Char} (h : isNumeral c = true) : starts c = true := by
  rw [starts, h, Bool.true_or]

theorem isBlank_of_isSpace {c : Char} (h : isSpace c = true) : isBlank c = true := by
  simp only [isSpace, Bool.or_eq_true, decide_eq_true_eq] at h
  rcases h with ((rfl | rfl) | rfl) | rfl <;> rfl

theorem isBlank_of_isNumeral {c : Char} (h : isNumeral c = true) : isBlank c = false := by
  rw [isNumeral, Bool.and_eq_true, decide_eq_true_eq, decide_eq_true_eq] at h
  have hlow : 48 ≤ c.toNat := h.1
  have hhigh : c.toNat ≤ 57 := h.2
  simp [isBlank, inRanges, blankRanges]
  omega

/-- Nothing that stands behind a value starts one. -/
theorem starts_of_mem {c : Char} (h : isBlank c = true ∨ c ∈ ",:]\x7d".toList) :
    starts c = false := by
  have hnumeral : isNumeral c = false := by
    by_contra hc
    rw [Bool.not_eq_false] at hc
    rcases h with h | h
    · rw [isBlank_of_isNumeral hc] at h
      cases h
    · have hnone : ∀ d ∈ ",:]\x7d".toList, isNumeral d = false := by simp [isNumeral]
      rw [hnone c h] at hc
      cases hc
  rw [starts, hnumeral, Bool.false_or]
  by_contra hc
  rw [Bool.not_eq_false, List.contains_iff_mem] at hc
  have hnone : ∀ d ∈ "\"[\x7bntfNI-".toList, ¬ (isBlank d = true ∨ d ∈ ",:]\x7d".toList) := by
    simp [isBlank, inRanges, blankRanges]
  exact hnone c hc h

theorem isSpace_of_starts {c : Char} (h : starts c = true) : isSpace c = false := by
  by_contra hspace
  rw [Bool.not_eq_false] at hspace
  rw [starts_of_mem (.inl (isBlank_of_isSpace hspace))] at h
  cases h

theorem ne_of_starts {c letter : Char} (hc : starts c = false) (hletter : starts letter = true) :
    letter ≠ c := by
  rintro rfl
  rw [hletter] at hc
  cases hc

theorem readWord?_of_starts {c : Char} (h : starts c = false) (t : Text) :
    readWord? (c :: t) = none := by
  have hn : 'n' ≠ c := ne_of_starts h rfl
  have ht : 't' ≠ c := ne_of_starts h rfl
  have hf : 'f' ≠ c := ne_of_starts h rfl
  have hN : 'N' ≠ c := ne_of_starts h rfl
  have hI : 'I' ≠ c := ne_of_starts h rfl
  have hminus : '-' ≠ c := ne_of_starts h rfl
  simp [readWord?, words, Text.dropStart?, hn, ht, hf, hN, hI, hminus]

theorem readNumber_of_starts {c : Char} (h : starts c = false) (t : Text) :
    readNumber (c :: t) = .error (.flawed .value (c :: t)) := by
  have hminus : '-' ≠ c := ne_of_starts h rfl
  have hzero : '0' ≠ c := ne_of_starts h rfl
  have hnumeral : isNumeral c = false := by
    by_contra hc
    rw [starts_of_isNumeral (Bool.eq_true_of_not_eq_false hc)] at h
    cases h
  have hwhole : wholePart? (c :: t) = none := by
    rw [wholePart?, hnumeral]
    · rfl
    · exact fun heq => hzero heq.symm
  unfold readNumber
  split
  next sign rest heq =>
    split at heq
    · next hstart =>
      cases hstart
      exact absurd rfl hminus
    · cases heq
      rw [hwhole]

/-- What no value starts with is a flaw. -/
theorem readValue_of_starts {c : Char} (h : starts c = false) (fuel : Nat) (t : Text) :
    readValue fuel (c :: t) = .error (.flawed .value (c :: t)) := by
  cases fuel with
  | zero => rfl
  | succ fuel =>
    unfold readValue
    split
    · next heq =>
      cases heq
      cases h
    · next heq =>
      cases heq
      cases h
    · next heq =>
      cases heq
      cases h
    · rw [readWord?_of_starts h, readNumber_of_starts h]

/-! ## Strings, numbers and words -/

theorem Character.readsAs (m : Character) : ReadsAs m.text [m.glyph] := by
  cases m with
  | plain c hquote hslash hcontrol => exact readsAs_plain hquote hslash hcontrol
  | escape letter c h =>
    have hletter : letter ≠ 'u' := by
      rintro rfl
      cases h
    exact readsAs_escape hletter h
  | code a b c d =>
    intro opening e rest
    simp only [text, List.cons_append, List.nil_append, readGlyphs, a.reads, b.reads, c.reads,
      d.reads, Nat.zero_mul, Nat.zero_add]
    rfl

theorem readsAs_characters (cs : List Character) :
    ReadsAs (cs.flatMap Character.text) (cs.map Character.glyph) := by
  induction cs with
  | nil => exact .nil
  | cons m rest ih => exact m.readsAs.append ih

theorem Literal.text_append (s : Literal) (rest : Text) :
    s.text ++ rest = '"' :: (s.body ++ '"' :: rest) := by
  rw [text, List.cons_append, List.append_assoc]
  rfl

/-- A string is read up to its closing quote. -/
theorem Literal.readString_body (s : Literal) (opening rest : Text) :
    readString opening (s.body ++ '"' :: rest) = .ok (s.name, rest) :=
  (readsAs_characters s.characters).readString opening rest

/-- A number is read, unless it is too long. -/
theorem Numeral.readValue_text (n : Numeral) {rest : Text} (hrest : Stops rest) (fuel : Nat) :
    readValue (fuel + 1) (n.text ++ rest)
      = if n.Sized then .ok (n.value, rest) else .error (.oversized n.whole.length) := by
  have htext : n.text ++ rest
      = signed n.negative (n.whole ++ (pointed n.fraction ++ (n.power ++ rest))) := by
    rw [text, signed_append, List.append_assoc, List.append_assoc]
  rw [htext, readValue_number n.isWhole]
  by_cases hint : n.IsInt
  · have hvalue : n.value = .int (if n.negative then -(ofNumerals n.whole : Int)
        else ofNumerals n.whole) := if_pos hint
    rw [hint.1, hint.2, show pointed [] ++ ([] ++ rest) = rest from rfl,
      readNumber_whole n.isWhole hrest, hvalue]
    by_cases hlong : digitLimit < n.whole.length
    · have hsized : ¬ n.Sized := fun hsized => absurd (hsized hint) (by omega)
      rw [if_pos hlong, if_neg hsized]
    · have hsized : n.Sized := fun _ => by omega
      rw [if_neg hlong, if_pos hsized]
  · have hparts : n.fraction ≠ [] ∨ n.power ≠ [] := by
      rwa [Numeral.IsInt, not_and_or] at hint
    rw [readNumber_float n.isWhole n.numerals n.isExponent hparts hrest,
      if_pos (sized_of_not_isInt hint), value_of_not_isInt hint]

theorem readValue_word {letters : String} {v : Value} (h : (letters, v) ∈ words) (rest : Text)
    (fuel : Nat) : readValue (fuel + 1) (letters.toList ++ rest) = .ok (v, rest) := by
  simp only [words, List.mem_cons, Prod.mk.injEq, List.not_mem_nil, or_false] at h
  rcases h with ⟨rfl, rfl⟩ | ⟨rfl, rfl⟩ | ⟨rfl, rfl⟩ | ⟨rfl, rfl⟩ | ⟨rfl, rfl⟩ | ⟨rfl, rfl⟩ <;> rfl

/-- A form starts like a value. -/
theorem Form.exists_starts (form : Form) : ∃ c more, form.text = c :: more ∧ starts c = true := by
  cases form with
  | word letters v h =>
    rw [Form.text]
    simp only [words, List.mem_cons, Prod.mk.injEq, List.not_mem_nil, or_false] at h
    rcases h with ⟨rfl, rfl⟩ | ⟨rfl, rfl⟩ | ⟨rfl, rfl⟩ | ⟨rfl, rfl⟩ | ⟨rfl, rfl⟩ | ⟨rfl, rfl⟩ <;>
      exact ⟨_, _, rfl, rfl⟩
  | number n =>
    rw [Form.text, Numeral.text]
    obtain ⟨c, more, hwhole, hc⟩ := n.isWhole.head
    rw [hwhole]
    cases n.negative with
    | true => exact ⟨_, _, rfl, rfl⟩
    | false => exact ⟨_, _, rfl, starts_of_isNumeral hc⟩
  | string s =>
    rw [Form.text]
    exact ⟨_, _, rfl, rfl⟩
  | emptyArray inside =>
    rw [Form.text]
    exact ⟨_, _, rfl, rfl⟩
  | array elements =>
    rw [Form.text]
    exact ⟨_, _, rfl, rfl⟩
  | emptyObject inside =>
    rw [Form.text]
    exact ⟨_, _, rfl, rfl⟩
  | object members =>
    rw [Form.text]
    exact ⟨_, _, rfl, rfl⟩

/-! ## Space and endings -/

theorem Space.skipSpace_append (s : Space) {c : Char} (hc : isSpace c = false) (rest : Text) :
    skipSpace (s.text ++ c :: rest) = c :: rest := by
  refine Text.dropWhile_run s.blank ?_
  rintro d ⟨⟩
  exact hc

/-- Nothing but blanks keeps the reader from what is behind space. -/
theorem skipSpace_blanks {t : Text} (h : ∀ c ∈ t, isBlank c = true) {closer : Char}
    (hcloser : isSpace closer = false) (rest : Text) :
    (∀ c ∈ t, isSpace c = true) ∧ skipSpace (t ++ closer :: rest) = closer :: rest ∨
      (¬ ∀ c ∈ t, isSpace c = true) ∧
        ∃ c more, isBlank c = true ∧ skipSpace (t ++ closer :: rest) = c :: more := by
  by_cases hspace : ∀ c ∈ t, isSpace c = true
  · refine .inl ⟨hspace, Text.dropWhile_run hspace ?_⟩
    rintro c ⟨⟩
    exact hcloser
  · refine .inr ⟨hspace, ?_⟩
    induction t with
    | nil => exact absurd (List.forall_mem_nil _) hspace
    | cons c t ih =>
      by_cases hc : isSpace c = true
      · have hmore : ¬ ∀ d ∈ t, isSpace d = true := fun hmore =>
          hspace (List.forall_mem_cons.mpr ⟨hc, hmore⟩)
        obtain ⟨d, more, hd, hskip⟩ := ih (fun d hd => h d (List.mem_cons_of_mem c hd)) hmore
        exact ⟨d, more, hd, (List.dropWhile_cons_of_pos hc).trans hskip⟩
      · exact ⟨c, t ++ closer :: rest, h c List.mem_cons_self, skipSpace_cons (by simpa using hc) _⟩

/-- **What the reader finds behind the last element or member**: the closer if the ending is one
that JSON allows, and otherwise a blank, or a comma with nothing behind it that a value starts
with. -/
theorem Ending.skipSpace_text (e : Ending) {closer : Char} (hcloser : closer ∈ ",:]\x7d".toList)
    (rest : Text) :
    e.Settled ∧ skipSpace (e.text ++ closer :: rest) = closer :: rest ∨
      ¬ e.Settled ∧ ((∃ c more, isBlank c = true ∧
        skipSpace (e.text ++ closer :: rest) = c :: more) ∨
        ∃ behind c more, skipSpace (e.text ++ closer :: rest) = ',' :: behind ∧
          skipSpace behind = c :: more ∧ starts c = false) := by
  have hspace : ∀ c ∈ ",:]\x7d".toList, isSpace c = false := by simp [isSpace]
  cases hcomma : e.comma with
  | none =>
    have htext : e.text = e.before := by
      rw [text, hcomma]
      exact List.append_nil _
    rw [htext]
    rcases skipSpace_blanks e.blank_before (hspace closer hcloser) rest with
      ⟨hall, hskip⟩ | ⟨hall, hblank⟩
    · exact .inl ⟨⟨hcomma, hall⟩, hskip⟩
    · exact .inr ⟨fun hsettled => hall hsettled.2, .inl hblank⟩
  | some behind =>
    have hnot : ¬ e.Settled := by
      rintro ⟨hnone, -⟩
      rw [hcomma] at hnone
      cases hnone
    have htext : e.text ++ closer :: rest = e.before ++ ',' :: (behind ++ closer :: rest) := by
      rw [text, hcomma, List.append_assoc]
      rfl
    rw [htext]
    refine .inr ⟨hnot, ?_⟩
    rcases skipSpace_blanks e.blank_before (show isSpace ',' = false from rfl)
      (behind ++ closer :: rest) with ⟨-, hskip⟩ | ⟨-, hblank⟩
    · rcases skipSpace_blanks (e.blank_comma behind hcomma) (hspace closer hcloser) rest with
        ⟨-, hclosed⟩ | ⟨-, c, more, hc, hblank⟩
      · exact .inr ⟨_, closer, rest, hskip, hclosed, starts_of_mem (.inr hcloser)⟩
      · exact .inr ⟨_, c, more, hskip, hblank, starts_of_mem (.inl hc)⟩
    · exact .inl hblank

/-- The outcome of an ending from what the reader does with what it finds there. -/
theorem Ending.outcome (e : Ending) {closer : Char} (hcloser : closer ∈ ",:]\x7d".toList)
    (rest : Text) {α : Type} {result : α} {x : Except Failure α}
    (hclosed : skipSpace (e.text ++ closer :: rest) = closer :: rest → x = .ok result)
    (hblank : ∀ c more, isBlank c = true → skipSpace (e.text ++ closer :: rest) = c :: more →
      ∃ flaw left, x = .error (.flawed flaw left))
    (hcomma : ∀ behind c more, skipSpace (e.text ++ closer :: rest) = ',' :: behind →
      skipSpace behind = c :: more → starts c = false →
        ∃ flaw left, x = .error (.flawed flaw left)) :
    Outcome [.ending e] result x := by
  rcases e.skipSpace_text hcloser rest with ⟨hsettled, hskip⟩ | ⟨hnot, hwrong⟩
  · rw [hclosed hskip]
    exact .read (fits_singleton ⟨trivial, hsettled⟩)
  · have hflawed : ∃ flaw left, x = .error (.flawed flaw left) := by
      rcases hwrong with ⟨c, more, hc, hskip⟩ | ⟨behind, c, more, hskip, hbehind, hc⟩
      · exact hblank c more hc hskip
      · exact hcomma behind c more hskip hbehind hc
    obtain ⟨flaw, left, rfl⟩ := hflawed
    exact .flawed flaw left ⟨_, List.mem_singleton_self _, hnot⟩

theorem stops_of_starts {c : Char} (h : starts c = false) (hc : c ∉ ".eE".toList) (t : Text) :
    Stops (c :: t) := by
  refine stops_cons ⟨?_, ?_, ?_, ?_⟩
  · by_contra hnumeral
    rw [starts_of_isNumeral (Bool.eq_true_of_not_eq_false hnumeral)] at h
    cases h
  all_goals
    rintro rfl
    exact hc (by decide)

/-- A number does not go on behind blanks. -/
theorem stops_blanks {t : Text} (h : ∀ c ∈ t, isBlank c = true) {rest : Text} (hrest : Stops rest) :
    Stops (t ++ rest) := by
  cases t with
  | nil => exact hrest
  | cons c t =>
    have hc := h c List.mem_cons_self
    refine stops_of_starts (starts_of_mem (.inl hc)) (fun hmem => ?_) _
    have hnone : ∀ d ∈ ".eE".toList, isBlank d = false := by
      simp [isBlank, inRanges, blankRanges]
    rw [hnone c hmem] at hc
    cases hc

theorem Space.stops (s : Space) {rest : Text} (hrest : Stops rest) : Stops (s.text ++ rest) :=
  stops_blanks (fun c hc => isBlank_of_isSpace (s.blank c hc)) hrest

theorem Ending.stops (e : Ending) {rest : Text} (hrest : Stops rest) : Stops (e.text ++ rest) := by
  rw [text, List.append_assoc]
  refine stops_blanks e.blank_before ?_
  cases e.comma with
  | none => exact hrest
  | some behind => exact stops_comma _

/-! ## Arrays -/

/-- What becomes of reading a form, whatever follows it. -/
def Form.Told (form : Form) : Prop :=
  ∀ fuel rest, Stops rest → 2 * form.text.length ≤ fuel →
    Outcome form.tokens (form.value, rest) (readValue fuel (form.text ++ rest))

/-- What becomes of reading elements up to the bracket behind them. -/
def Elements.Told (elements : Elements) : Prop :=
  ∀ fuel done rest, 2 * elements.text.length + 1 ≤ fuel →
    Outcome elements.tokens (.arr (done.reverse ++ elements.values), rest)
      (readElements fuel done (skipSpace (elements.text ++ ']' :: rest)))

/-- What becomes of reading members up to the brace behind them. -/
def Members.Told (members : Members) : Prop :=
  ∀ fuel done rest, 2 * members.text.length + 1 ≤ fuel →
    Outcome members.tokens (.obj (enterAll members.pairs done), rest)
      (readMembers fuel done (skipSpace (members.text ++ '\x7d' :: rest)))

theorem Space.skipSpace_form (s : Space) (form : Form) (rest : Text) :
    skipSpace (s.text ++ (form.text ++ rest)) = form.text ++ rest := by
  obtain ⟨c, more, htext, hc⟩ := form.exists_starts
  rw [htext]
  exact s.skipSpace_append (isSpace_of_starts hc) _

theorem readElements_error {fuel : Nat} {t : Text} {e : Failure} (h : readValue fuel t = .error e)
    (done : List Value) : readElements (fuel + 1) done t = .error e := by
  rw [readElements, h]
  rfl

theorem readElements_read {fuel : Nat} {t behind : Text} {v : Value}
    (h : readValue fuel t = .ok (v, behind)) (done : List Value) :
    readElements (fuel + 1) done t = match skipSpace behind with
      | ']' :: after => .ok (.arr (v :: done).reverse, after)
      | ',' :: after => readElements fuel (v :: done) (skipSpace after)
      | other => .error (.flawed .comma other) := by
  rw [readElements, h]
  rfl

/-- What no value starts with is a flaw where an element is expected. -/
theorem readElements_of_starts {c : Char} (h : starts c = false) (fuel : Nat) (done : List Value)
    (t : Text) : ∃ flaw left, readElements fuel done (c :: t) = .error (.flawed flaw left) := by
  cases fuel with
  | zero => exact ⟨_, _, rfl⟩
  | succ fuel => exact ⟨_, _, readElements_error (readValue_of_starts h fuel t) done⟩

theorem told_lastElement (before : Space) {form : Form} (h : form.Told) (ending : Ending) :
    (Elements.last before form ending).Told := by
  intro fuel done rest hfuel
  obtain ⟨fuel, rfl⟩ := Nat.exists_eq_add_one_of_ne_zero (show fuel ≠ 0 by omega)
  rw [Elements.text, List.length_append, List.length_append] at hfuel
  have hform := h fuel (ending.text ++ ']' :: rest) (ending.stops (stops_bracket rest)) (by omega)
  rw [Elements.text, List.append_assoc, List.append_assoc, before.skipSpace_form, Elements.tokens,
    Elements.values]
  cases hvalue : readValue fuel (form.text ++ (ending.text ++ ']' :: rest)) with
  | error e =>
    rw [hvalue] at hform
    rw [readElements_error hvalue]
    exact hform.error_mono (List.subset_append_left _ _)
  | ok result =>
    rw [hvalue] at hform
    cases hform with
    | read hread =>
      rw [readElements_read hvalue]
      refine .append_left hread (ending.outcome (show ']' ∈ _ by decide) rest (fun hskip => ?_)
        (fun c more hc hskip => ?_) fun behind c more hskip hbehind hc => ?_)
      · rw [hskip, List.reverse_cons]
        rfl
      · rw [hskip]
        split
        · next heq =>
          cases heq
          cases hc
        · next heq =>
          cases heq
          cases hc
        · exact ⟨_, _, rfl⟩
      · obtain ⟨flaw, left, hflawed⟩ := readElements_of_starts hc fuel (form.value :: done) more
        refine ⟨flaw, left, ?_⟩
        rw [hskip, ← hflawed, ← hbehind]
        rfl

/-- Elements start like a value, behind space. -/
theorem Elements.exists_text (elements : Elements) :
    ∃ (before : Space) (c : Char) (more : Text),
      elements.text = before.text ++ c :: more ∧ starts c = true := by
  cases elements with
  | last before form ending =>
    obtain ⟨c, more, htext, hc⟩ := form.exists_starts
    rw [Elements.text, htext]
    exact ⟨before, c, _, rfl, hc⟩
  | more before form behind others =>
    obtain ⟨c, more, htext, hc⟩ := form.exists_starts
    rw [Elements.text, htext]
    exact ⟨before, c, _, rfl, hc⟩

theorem Elements.exists_starts (elements : Elements) (rest : Text) :
    ∃ c more, skipSpace (elements.text ++ rest) = c :: more ∧ starts c = true := by
  obtain ⟨before, c, more, htext, hc⟩ := elements.exists_text
  rw [htext, List.append_assoc, List.cons_append, before.skipSpace_append (isSpace_of_starts hc)]
  exact ⟨c, _, rfl, hc⟩

theorem told_moreElements (before : Space) {form : Form} (h : form.Told) (behind : Space)
    {others : Elements} (hothers : others.Told) :
    (Elements.more before form behind others).Told := by
  intro fuel done rest hfuel
  obtain ⟨fuel, rfl⟩ := Nat.exists_eq_add_one_of_ne_zero (show fuel ≠ 0 by omega)
  rw [Elements.text, List.length_append, List.length_append, List.length_append,
    List.length_cons] at hfuel
  have hcomma : (behind.text ++ ',' :: others.text) ++ ']' :: rest
      = behind.text ++ ',' :: (others.text ++ ']' :: rest) := List.append_assoc _ _ _
  have hform := h fuel (behind.text ++ ',' :: (others.text ++ ']' :: rest))
    (behind.stops (stops_comma _)) (by omega)
  rw [Elements.text, List.append_assoc, List.append_assoc, before.skipSpace_form, hcomma,
    Elements.tokens, Elements.values]
  cases hvalue : readValue fuel
      (form.text ++ (behind.text ++ ',' :: (others.text ++ ']' :: rest))) with
  | error e =>
    rw [hvalue] at hform
    rw [readElements_error hvalue]
    exact hform.error_mono (List.subset_append_left _ _)
  | ok result =>
    rw [hvalue] at hform
    cases hform with
    | read hread =>
      have hmore := hothers fuel (form.value :: done) rest (by omega)
      rw [List.reverse_cons, List.append_assoc] at hmore
      rw [readElements_read hvalue, behind.skipSpace_append rfl]
      exact .append_left hread hmore

theorem told_array {elements : Elements} (h : elements.Told) : (Form.array elements).Told := by
  intro fuel rest _ hfuel
  rw [Form.text, List.length_cons, List.length_append] at hfuel
  obtain ⟨fuel, rfl⟩ := Nat.exists_eq_add_one_of_ne_zero (show fuel ≠ 0 by omega)
  have helements := h fuel [] rest (by omega)
  obtain ⟨c, more, hskip, hc⟩ := elements.exists_starts (']' :: rest)
  rw [Form.text, List.cons_append, List.append_assoc, List.singleton_append, readValue, Form.tokens,
    Form.value]
  split
  · next heq =>
    rw [hskip] at heq
    cases heq
    cases hc
  · exact helements

theorem told_emptyArray (inside : Space) : (Form.emptyArray inside).Told := by
  intro fuel rest _ hfuel
  rw [Form.text, List.length_cons] at hfuel
  obtain ⟨fuel, rfl⟩ := Nat.exists_eq_add_one_of_ne_zero (show fuel ≠ 0 by omega)
  rw [Form.text, List.cons_append, List.append_assoc, List.singleton_append, readValue,
    inside.skipSpace_append rfl]
  exact .read (List.forall_mem_nil _)

/-! ## Objects -/

theorem Label.skipSpace_text (l : Label) (rest : Text) :
    skipSpace (l.text ++ rest) = '"' :: (l.name.body ++
      '"' :: (l.behind.text ++ ':' :: (l.ahead.text ++ rest))) := by
  rw [text, List.append_assoc, List.append_assoc, Literal.text_append, List.append_assoc,
    List.cons_append, l.before.skipSpace_append rfl]

/-- The name of a member is read up to its value. -/
theorem readMembers_label (label : Label) (form : Form) (fuel : Nat) (done : Value.Members)
    (tail : Text) :
    readMembers (fuel + 1) done (skipSpace (label.text ++ (form.text ++ tail)))
      = match readValue fuel (form.text ++ tail) with
        | .error e => .error e
        | .ok (v, behind) =>
          match skipSpace behind with
          | '\x7d' :: after => .ok (.obj (Value.setMember label.name.name v done), after)
          | ',' :: after =>
            readMembers fuel (Value.setMember label.name.name v done) (skipSpace after)
          | other => .error (.flawed .comma other) := by
  rw [label.skipSpace_text, readMembers, label.name.readString_body]
  simp only [bind, Except.bind, label.behind.skipSpace_append (show isSpace ':' = false from rfl)]
  rw [label.ahead.skipSpace_form]
  cases readValue fuel (form.text ++ tail) <;> rfl

/-- What is no quote is a flaw where a name is expected. -/
theorem readMembers_of_starts {c : Char} (h : starts c = false) (fuel : Nat) (done : Value.Members)
    (t : Text) : ∃ flaw left, readMembers fuel done (c :: t) = .error (.flawed flaw left) := by
  cases fuel with
  | zero => exact ⟨_, _, rfl⟩
  | succ fuel =>
    refine ⟨.name, c :: t, ?_⟩
    rw [readMembers]
    rintro rest heq
    cases heq
    cases h

theorem told_lastMember (label : Label) {form : Form} (h : form.Told) (ending : Ending) :
    (Members.last label form ending).Told := by
  intro fuel done rest hfuel
  obtain ⟨fuel, rfl⟩ := Nat.exists_eq_add_one_of_ne_zero (show fuel ≠ 0 by omega)
  rw [Members.text, List.length_append, List.length_append] at hfuel
  have hform := h fuel (ending.text ++ '\x7d' :: rest) (ending.stops (stops_brace rest)) (by omega)
  rw [Members.text, List.append_assoc, List.append_assoc, readMembers_label, Members.tokens]
  refine .append_left (fits_singleton (Token.fits_string label.name)) ?_
  cases hvalue : readValue fuel (form.text ++ (ending.text ++ '\x7d' :: rest)) with
  | error e =>
    rw [hvalue] at hform
    exact hform.error_mono (List.subset_append_left _ _)
  | ok result =>
    rw [hvalue] at hform
    cases hform with
    | read hread =>
      refine .append_left hread (ending.outcome (show '\x7d' ∈ _ by decide) rest (fun hskip => ?_)
        (fun c more hc hskip => ?_) fun behind c more hskip hbehind hc => ?_)
      · dsimp only
        rw [hskip]
        rfl
      · dsimp only
        rw [hskip]
        split
        · next heq =>
          cases heq
          cases hc
        · next heq =>
          cases heq
          cases hc
        · exact ⟨_, _, rfl⟩
      · obtain ⟨flaw, left, hflawed⟩ := readMembers_of_starts hc fuel
          (Value.setMember label.name.name form.value done) more
        refine ⟨flaw, left, ?_⟩
        dsimp only
        rw [hskip, ← hflawed, ← hbehind]
        rfl

theorem told_moreMembers (label : Label) {form : Form} (h : form.Told) (behind : Space)
    {others : Members} (hothers : others.Told) : (Members.more label form behind others).Told := by
  intro fuel done rest hfuel
  obtain ⟨fuel, rfl⟩ := Nat.exists_eq_add_one_of_ne_zero (show fuel ≠ 0 by omega)
  rw [Members.text, List.length_append, List.length_append, List.length_append,
    List.length_cons] at hfuel
  have hcomma : (behind.text ++ ',' :: others.text) ++ '\x7d' :: rest
      = behind.text ++ ',' :: (others.text ++ '\x7d' :: rest) := List.append_assoc _ _ _
  have hform := h fuel (behind.text ++ ',' :: (others.text ++ '\x7d' :: rest))
    (behind.stops (stops_comma _)) (by omega)
  rw [Members.text, List.append_assoc, List.append_assoc, hcomma, readMembers_label, Members.tokens]
  refine .append_left (fits_singleton (Token.fits_string label.name)) ?_
  cases hvalue : readValue fuel
      (form.text ++ (behind.text ++ ',' :: (others.text ++ '\x7d' :: rest))) with
  | error e =>
    rw [hvalue] at hform
    exact hform.error_mono (List.subset_append_left _ _)
  | ok result =>
    rw [hvalue] at hform
    cases hform with
    | read hread =>
      dsimp only
      rw [behind.skipSpace_append rfl]
      exact .append_left hread (hothers fuel _ rest (by omega))

/-- Members start with a quote, behind space. -/
theorem Members.exists_text (members : Members) :
    ∃ (before : Space) (more : Text), members.text = before.text ++ '"' :: more := by
  cases members with
  | last label form ending =>
    rw [Members.text, Label.text, List.append_assoc]
    exact ⟨label.before, _, rfl⟩
  | more label form behind others =>
    rw [Members.text, Label.text, List.append_assoc]
    exact ⟨label.before, _, rfl⟩

theorem Members.exists_quote (members : Members) (rest : Text) :
    ∃ more, skipSpace (members.text ++ rest) = '"' :: more := by
  obtain ⟨before, more, htext⟩ := members.exists_text
  rw [htext, List.append_assoc, List.cons_append, before.skipSpace_append rfl]
  exact ⟨_, rfl⟩

theorem told_object {members : Members} (h : members.Told) : (Form.object members).Told := by
  intro fuel rest _ hfuel
  rw [Form.text, List.length_cons, List.length_append] at hfuel
  obtain ⟨fuel, rfl⟩ := Nat.exists_eq_add_one_of_ne_zero (show fuel ≠ 0 by omega)
  have hmembers := (h fuel [] rest (by omega)).append_left
    (fits_singleton (show (Token.names members.labels).Fits from ⟨trivial, trivial⟩))
  obtain ⟨more, hskip⟩ := members.exists_quote ('\x7d' :: rest)
  rw [Form.text, List.cons_append, List.append_assoc, List.singleton_append, readValue, Form.tokens,
    Form.value]
  rw [hskip] at hmembers ⊢
  exact hmembers

theorem told_emptyObject (inside : Space) : (Form.emptyObject inside).Told := by
  intro fuel rest _ hfuel
  rw [Form.text, List.length_cons] at hfuel
  obtain ⟨fuel, rfl⟩ := Nat.exists_eq_add_one_of_ne_zero (show fuel ≠ 0 by omega)
  rw [Form.text, List.cons_append, List.append_assoc, List.singleton_append, readValue,
    inside.skipSpace_append rfl]
  exact .read (List.forall_mem_nil _)

/-! ## All forms -/

theorem told_of_succ {form : Form}
    (h : ∀ fuel rest, Stops rest →
      Outcome form.tokens (form.value, rest) (readValue (fuel + 1) (form.text ++ rest))) :
    form.Told := by
  intro fuel rest hrest hfuel
  obtain ⟨c, more, htext, -⟩ := form.exists_starts
  rw [htext, List.length_cons] at hfuel
  obtain ⟨fuel, rfl⟩ := Nat.exists_eq_add_one_of_ne_zero (show fuel ≠ 0 by omega)
  exact h fuel rest hrest

theorem told_word {letters : String} {v : Value} (h : (letters, v) ∈ words) :
    (Form.word letters v h).Told := by
  refine told_of_succ fun fuel rest _ => ?_
  rw [Form.text, readValue_word h]
  exact .read (List.forall_mem_nil _)

theorem told_number (n : Numeral) : (Form.number n).Told := by
  refine told_of_succ fun fuel rest hrest => ?_
  rw [Form.text, n.readValue_text hrest]
  split
  · next hsized => exact .read (fits_singleton ⟨hsized, trivial⟩)
  · next hlong => exact .oversized _ ⟨_, List.mem_singleton_self _, hlong⟩

theorem told_string (s : Literal) : (Form.string s).Told := by
  refine told_of_succ fun fuel rest _ => ?_
  rw [Form.text, s.text_append, readValue, s.readString_body]
  exact .read (fits_singleton (Token.fits_string s))

mutual

/-- **Forms are read as they say**: up to what follows, to their value if every token fits, and
otherwise something is wrong with one of their tokens. -/
theorem Form.told : ∀ form : Form, form.Told
  | .word _ _ h => told_word h
  | .number n => told_number n
  | .string s => told_string s
  | .emptyArray inside => told_emptyArray inside
  | .array elements => told_array elements.told
  | .emptyObject inside => told_emptyObject inside
  | .object members => told_object members.told

theorem Elements.told : ∀ elements : Elements, elements.Told
  | .last before form ending => told_lastElement before form.told ending
  | .more before form behind others => told_moreElements before form.told behind others.told

theorem Members.told : ∀ members : Members, members.Told
  | .last label form ending => told_lastMember label form.told ending
  | .more label form behind others => told_moreMembers label form.told behind others.told

end

/-! ## Documents -/

theorem Space.skipSpace_text (s : Space) : skipSpace s.text = [] := by
  have hend : ∀ c ∈ ([] : Text).head?, isSpace c = false := by
    rintro c ⟨⟩
  have hrun := Text.dropWhile_run s.blank hend
  rwa [List.append_nil] at hrun

theorem Document.head?_text (d : Document) : ∀ c ∈ d.text.head?, c ≠ '\ufeff' := by
  obtain ⟨c, more, hform, hc⟩ := d.form.exists_starts
  rintro b hb rfl
  rw [text, hform] at hb
  cases hbefore : d.before.text with
  | nil =>
    rw [hbefore] at hb
    cases hb
    cases hc
  | cons space others =>
    rw [hbefore] at hb
    cases hb
    have hspace := d.before.blank '\ufeff' (hbefore ▸ List.mem_cons_self)
    cases hspace

/-- **Documents are decoded as their forms say.** -/
theorem Document.outcome (d : Document) : Outcome d.form.tokens d.form.value (decode d.text) := by
  have hbehind : Stops d.behind.text := List.append_nil d.behind.text ▸ d.behind.stops stops_nil
  have hform := d.form.told (2 * d.text.length + 2) d.behind.text hbehind (by
    rw [text, List.length_append, List.length_append]
    omega)
  have hskip : skipSpace d.text = d.form.text ++ d.behind.text := d.before.skipSpace_form _ _
  rw [decode.eq_def]
  split
  · next heq => exact absurd rfl (d.head?_text '\ufeff' (by rw [heq]; rfl))
  · rw [hskip]
    cases hvalue : readValue (2 * d.text.length + 2) (d.form.text ++ d.behind.text) with
    | error e =>
      rw [hvalue] at hform
      exact hform.error_mono (List.Subset.refl _)
    | ok result =>
      rw [hvalue] at hform
      cases hform with
      | read hread =>
        simp only [bind, Except.bind, d.behind.skipSpace_text]
        exact .read hread

theorem Document.decode_text {d : Document} (h : ∀ token ∈ d.form.tokens, token.Fits) :
    decode d.text = .ok d.form.value := by
  have houtcome := d.outcome
  cases hdecode : decode d.text with
  | ok v =>
    rw [hdecode] at houtcome
    cases houtcome
    rfl
  | error e =>
    rw [hdecode] at houtcome
    cases houtcome with
    | flawed flaw rest hnot =>
      obtain ⟨token, htoken, hnot⟩ := hnot
      exact absurd (h token htoken).2 hnot
    | oversized digits hnot =>
      obtain ⟨token, htoken, hnot⟩ := hnot
      exact absurd (h token htoken).1 hnot

theorem Document.decode_flawed {d : Document} (hsized : ∀ token ∈ d.form.tokens, token.Sized)
    (h : ¬ ∀ token ∈ d.form.tokens, token.Settled) :
    ∃ flaw rest, decode d.text = .error (.flawed flaw rest) := by
  have houtcome := d.outcome
  cases hdecode : decode d.text with
  | ok v =>
    rw [hdecode] at houtcome
    cases houtcome with
    | read hread => exact absurd (fun token htoken => (hread token htoken).2) h
  | error e =>
    rw [hdecode] at houtcome
    cases houtcome with
    | flawed flaw rest _ => exact ⟨flaw, rest, rfl⟩
    | oversized digits hnot =>
      obtain ⟨token, htoken, hnot⟩ := hnot
      exact absurd (hsized token htoken) hnot

end Json

end GhostEdit
