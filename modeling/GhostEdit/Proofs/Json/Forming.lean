import GhostEdit.Proofs.Json.Reading

/-!
# Every text that is decoded has a form

What the reader takes from a text has a form: the space that it skips, the digits of a number, the
characters of a string one by one. So the texts that are decoded are the texts of documents whose
tokens all fit, and no others. Where a number has too many digits, these stand in the text.

## Main results

* `Json.readGlyphs_formed`, `Json.readNumber_formed`: strings and numbers have a form
* `Json.formed`: what is read as a value has a form
* `Json.decode_eq_ok_iff`: the texts that are decoded are those of documents
* `Json.run_of_oversized`: too many digits stand in the text
-/

namespace GhostEdit

namespace Json

/-! ## Space -/

/-- The space at the start of a text. -/
def Space.leading (t : Text) : Space where
  text := t.takeWhile isSpace
  blank := fun _ hc => List.all_eq_true.mp List.all_takeWhile _ hc

theorem Space.leading_append (t : Text) : (Space.leading t).text ++ skipSpace t = t :=
  List.takeWhile_append_dropWhile

/-! ## Strings -/

/-- What was read of a string, from where the reader stood. -/
def GlyphsFormed : StringMode → Text → List Glyph → Text → Prop
  | .plain, t, gs, rest =>
    ∃ s : Literal, t = s.body ++ '"' :: rest ∧ gs = s.characters.map Character.glyph
  | .escaped _, t, gs, rest =>
    ∃ (m : Character) (s : Literal), '\\' :: t = m.text ++ (s.body ++ '"' :: rest) ∧
      gs = m.glyph :: s.characters.map Character.glyph
  | .code left acc _, t, gs, rest =>
    ∃ (digits : List HexDigit) (s : Literal), digits.length = left + 1 ∧
      t = digits.map HexDigit.char ++ (s.body ++ '"' :: rest) ∧
      gs = .code (digits.foldl (fun n d => n * 16 + d.value) acc) ::
        s.characters.map Character.glyph

theorem Literal.body_cons (m : Character) (cs : List Character) :
    (Literal.mk (m :: cs)).body = m.text ++ (Literal.mk cs).body := rfl

/-- **The characters of a string have a form.** -/
theorem readGlyphs_formed {opening t rest : Text} {mode : StringMode} {gs : List Glyph}
    (h : readGlyphs opening mode t = .ok (gs, rest)) : GlyphsFormed mode t gs rest := by
  induction t generalizing mode gs with
  | nil => cases mode <;> cases h
  | cons c t ih =>
    cases mode with
    | plain =>
      rw [readGlyphs] at h
      split at h
      · next hquote =>
        cases h
        exact ⟨⟨[]⟩, by rw [hquote]; rfl, rfl⟩
      · next hquote =>
        split at h
        · next hslash =>
          obtain ⟨m, s, hwritten, rfl⟩ := ih h
          refine ⟨⟨m :: s.characters⟩, ?_, rfl⟩
          rw [hslash, hwritten, Literal.body_cons, List.append_assoc]
        · next hslash =>
          split at h
          · cases h
          · next hcontrol =>
            obtain ⟨⟨more, after⟩, hmore, heq⟩ := map_eq_ok h
            cases heq
            obtain ⟨s, rfl, rfl⟩ := ih hmore
            exact ⟨⟨.plain c hquote hslash (Nat.le_of_not_lt hcontrol) :: s.characters⟩, rfl, rfl⟩
    | escaped mark =>
      rw [readGlyphs] at h
      split at h
      · next hu =>
        obtain ⟨digits, s, hlength, rfl, rfl⟩ := ih h
        obtain ⟨a, b, d, e, rfl⟩ : ∃ a b d e, digits = [a, b, d, e] :=
          List.length_eq_four.mp hlength
        refine ⟨.code a b d e, s, by rw [hu]; rfl, ?_⟩
        simp [Character.glyph]
      · split at h
        · next letter hletter =>
          obtain ⟨⟨more, after⟩, hmore, heq⟩ := map_eq_ok h
          cases heq
          obtain ⟨s, rfl, rfl⟩ := ih hmore
          exact ⟨.escape c letter hletter, s, rfl, rfl⟩
        · cases h
    | code left acc mark =>
      rw [readGlyphs] at h
      split at h
      · cases h
      · next d hd =>
        split at h
        · next more =>
          obtain ⟨digits, s, hlength, rfl, rfl⟩ := ih h
          exact ⟨⟨c, d, hd⟩ :: digits, s, by rw [List.length_cons, hlength], rfl, rfl⟩
        · split at h
          · cases h
          · obtain ⟨⟨more, after⟩, hmore, heq⟩ := map_eq_ok h
            cases heq
            obtain ⟨s, rfl, rfl⟩ := ih hmore
            exact ⟨[⟨c, d, hd⟩], s, rfl, rfl, rfl⟩

theorem readString_formed {opening t rest : Text} {name : Name}
    (h : readString opening t = .ok (name, rest)) :
    ∃ s : Literal, t = s.body ++ '"' :: rest ∧ name = s.name := by
  obtain ⟨⟨gs, after⟩, hglyphs, heq⟩ := map_eq_ok h
  cases heq
  obtain ⟨s, ht, rfl⟩ := readGlyphs_formed hglyphs
  exact ⟨s, ht, rfl⟩

/-! ## Numbers -/

theorem numerals_takeWhile (t : Text) : Numerals (t.takeWhile isNumeral) := fun _ hc =>
  List.all_eq_true.mp List.all_takeWhile _ hc

theorem wholePart?_formed {t whole rest : Text} (h : wholePart? t = some (whole, rest)) :
    IsWhole whole ∧ t = whole ++ rest := by
  unfold wholePart? at h
  split at h
  · cases h
    exact ⟨.zero, rfl⟩
  · next c more hzero =>
    split at h
    · next hc =>
      cases h
      refine ⟨.digits ?_ ?_ (numerals_takeWhile _), List.takeWhile_append_dropWhile.symm⟩
      · rw [List.takeWhile_cons_of_pos hc]
        exact List.cons_ne_nil _ _
      · rw [List.takeWhile_cons_of_pos hc]
        intro hhead
        exact hzero (Option.some.inj hhead)
    · cases h
  · cases h

theorem fractionPart_formed {t fraction rest : Text} (h : fractionPart t = (fraction, rest)) :
    Numerals fraction ∧ t = pointed fraction ++ rest := by
  unfold fractionPart at h
  split at h
  · next more =>
    split at h
    · cases h
      exact ⟨List.forall_mem_nil _, rfl⟩
    · next hsome =>
      cases h
      refine ⟨numerals_takeWhile _, ?_⟩
      rw [pointed, if_neg hsome, List.cons_append, List.takeWhile_append_dropWhile]
  · cases h
    exact ⟨List.forall_mem_nil _, rfl⟩

theorem powerSign_formed (t : Text) : ∃ (sign : Option Bool) (digits : Text),
    (match t with
      | '-' :: r => (true, r)
      | '+' :: r => (false, r)
      | r => (false, r)) = (decide (sign = some true), digits) ∧ t = signText sign ++ digits := by
  split
  · exact ⟨some true, _, rfl, rfl⟩
  · exact ⟨some false, _, rfl, rfl⟩
  · exact ⟨none, _, rfl, rfl⟩

theorem exponentPart?_formed {t rest : Text} {e : Int} (h : exponentPart? t = some (e, rest)) :
    ∃ power, IsExponent power e ∧ power ≠ [] ∧ t = power ++ rest := by
  unfold exponentPart? at h
  split at h
  · next c more =>
    split at h
    · next hletter =>
      have hmark : c = 'e' ∨ c = 'E' := by simpa using hletter
      obtain ⟨sign, digits, hsign, rfl⟩ := powerSign_formed more
      split at h
      next negative found heq =>
        cases hsign.symm.trans heq
        dsimp only at h
        split at h
        · cases h
        · next hne =>
          cases h
          have hpower := IsExponent.some hmark sign
            (fun hnil => hne (List.isEmpty_iff.mpr hnil)) (numerals_takeWhile digits)
          refine ⟨c :: (signText sign ++ digits.takeWhile isNumeral), ?_, List.cons_ne_nil _ _, ?_⟩
          · simpa using hpower
          · rw [List.cons_append, List.append_assoc, List.takeWhile_append_dropWhile]
    · cases h
  · cases h

theorem sign_formed (t : Text) : ∃ (negative : Bool) (digits : Text),
    (match t with
      | '-' :: r => (true, r)
      | r => (false, r)) = (negative, digits) ∧ t = signed negative digits := by
  split
  · exact ⟨true, _, rfl, rfl⟩
  · exact ⟨false, _, rfl, rfl⟩

/-- **A number that is read has a form.** -/
theorem readNumber_formed {t rest : Text} {v : Value} (h : readNumber t = .ok (v, rest)) :
    ∃ n : Numeral, n.Sized ∧ t = n.text ++ rest ∧ v = n.value := by
  obtain ⟨negative, digits, hsign, rfl⟩ := sign_formed t
  unfold readNumber at h
  split at h
  next sign start heq =>
    cases hsign.symm.trans heq
    split at h
    · cases h
    · next whole behind hwhole =>
      obtain ⟨hisWhole, rfl⟩ := wholePart?_formed hwhole
      split at h
      next fraction t hfraction =>
        obtain ⟨hnumerals, rfl⟩ := fractionPart_formed hfraction
        split at h
        · next hempty hnone =>
          obtain rfl := List.isEmpty_iff.mp hempty
          split at h
          · cases h
          · next hlong =>
            cases h
            refine ⟨⟨negative, whole, [], [], 0, hisWhole, List.forall_mem_nil _, .none⟩,
              fun _ => Nat.le_of_not_lt hlong, ?_, rfl⟩
            rw [Numeral.text, signed_append, List.append_assoc]
            rfl
        · next _ power hparts =>
          cases hpower : exponentPart? t with
          | none =>
            rw [hpower] at h
            cases h
            let n : Numeral := ⟨negative, whole, fraction, [], 0, hisWhole, hnumerals, .none⟩
            have hint : ¬ n.IsInt := fun hint => hparts (List.isEmpty_iff.mpr hint.1) hpower
            refine ⟨n, Numeral.sized_of_not_isInt hint, ?_, (Numeral.value_of_not_isInt hint).symm⟩
            rw [Numeral.text, signed_append, List.append_assoc, List.append_assoc]
            rfl
          | some found =>
            obtain ⟨e, after⟩ := found
            rw [hpower] at h
            cases h
            obtain ⟨written, hexponent, hne, rfl⟩ := exponentPart?_formed hpower
            let n : Numeral :=
              ⟨negative, whole, fraction, written, e, hisWhole, hnumerals, hexponent⟩
            have hint : ¬ n.IsInt := fun hint => hne hint.2
            refine ⟨n, Numeral.sized_of_not_isInt hint, ?_, (Numeral.value_of_not_isInt hint).symm⟩
            rw [Numeral.text, signed_append, List.append_assoc, List.append_assoc]

theorem readWord?_formed {t rest : Text} {v : Value} (h : readWord? t = some (v, rest)) :
    ∃ letters, (letters, v) ∈ words ∧ t = letters.toList ++ rest := by
  obtain ⟨⟨letters, w⟩, hmem, hfound⟩ := List.exists_of_findSome?_eq_some h
  obtain ⟨after, hstart, heq⟩ := Option.map_eq_some_iff.mp hfound
  cases heq
  exact ⟨letters, hmem, Text.dropStart?_eq_some.mp hstart⟩

/-! ## Values -/

/-- What is read as a value has a form, and nothing is wrong with it. -/
def ValueFormed (fuel : Nat) : Prop :=
  ∀ t v rest, readValue fuel t = .ok (v, rest) →
    ∃ form : Form, (∀ token ∈ form.tokens, token.Fits) ∧ t = form.text ++ rest ∧ v = form.value

/-- What is read as elements, behind any space, has a form. -/
def ElementsFormed (fuel : Nat) : Prop :=
  ∀ (s : Space) done t v rest, readElements fuel done t = .ok (v, rest) →
    ∃ elements : Elements, (∀ token ∈ elements.tokens, token.Fits) ∧
      s.text ++ t = elements.text ++ ']' :: rest ∧ v = .arr (done.reverse ++ elements.values)

/-- What is read as members, behind any space, has a form. -/
def MembersFormed (fuel : Nat) : Prop :=
  ∀ (s : Space) done t v rest, readMembers fuel done t = .ok (v, rest) →
    ∃ members : Members, (∀ token ∈ members.tokens, token.Fits) ∧
      s.text ++ t = members.text ++ '\x7d' :: rest ∧ v = .obj (enterAll members.pairs done)

/-- Space before a closer. -/
def Space.ending (s : Space) : Ending where
  before := s.text
  comma := none
  blank_before := fun c hc => isBlank_of_isSpace (s.blank c hc)
  blank_comma := Ending.blank_none

theorem Space.text_ending (s : Space) : s.ending.text = s.text := List.append_nil _

theorem Space.fits_ending (s : Space) : (Token.ending s.ending).Fits := ⟨trivial, rfl, s.blank⟩

theorem Space.leading_eq {t more : Text} {c : Char} (h : skipSpace t = c :: more) :
    t = (Space.leading t).text ++ c :: more := by
  rw [← h, Space.leading_append]

theorem elementsFormed_succ {fuel : Nat} (hvalue : ValueFormed fuel)
    (hmore : ElementsFormed fuel) : ElementsFormed (fuel + 1) := by
  intro s done t v rest h
  rw [readElements] at h
  obtain ⟨⟨w, behind⟩, hread, hrest⟩ := bind_eq_ok h
  obtain ⟨form, hform, rfl, rfl⟩ := hvalue _ _ _ hread
  dsimp only at hrest
  split at hrest
  · next after hskip =>
    cases hrest
    refine ⟨.last s form (Space.leading behind).ending, ?_, ?_, ?_⟩
    · exact List.forall_mem_append.mpr ⟨hform, fits_singleton (Space.fits_ending _)⟩
    · rw [Elements.text, Space.text_ending, List.append_assoc, List.append_assoc,
        ← Space.leading_eq hskip]
    · rw [List.reverse_cons, Elements.values]
  · next after hskip =>
    obtain ⟨others, hothers, htext, rfl⟩ := hmore (Space.leading after) _ _ _ _ hrest
    rw [Space.leading_append] at htext
    refine ⟨.more s form (Space.leading behind) others, ?_, ?_, ?_⟩
    · exact List.forall_mem_append.mpr ⟨hform, hothers⟩
    · rw [Elements.text]
      simp only [List.append_assoc, List.cons_append]
      rw [← htext, ← Space.leading_eq hskip]
    · rw [List.reverse_cons, List.append_assoc, Elements.values]
      rfl
  · cases hrest

theorem membersFormed_succ {fuel : Nat} (hvalue : ValueFormed fuel)
    (hmore : MembersFormed fuel) : MembersFormed (fuel + 1) := by
  intro s done t v rest h
  unfold readMembers at h
  split at h
  · next inside =>
    obtain ⟨⟨name, afterName⟩, hname, hcolon⟩ := bind_eq_ok h
    obtain ⟨literal, rfl, rfl⟩ := readString_formed hname
    dsimp only at hcolon
    split at hcolon
    · next afterColon hskipName =>
      obtain ⟨⟨w, behind⟩, hread, hrest⟩ := bind_eq_ok hcolon
      obtain ⟨form, hform, htext, rfl⟩ := hvalue _ _ _ hread
      let label : Label := ⟨s, literal, Space.leading afterName, Space.leading afterColon⟩
      have hlabel : s.text ++ '"' :: (literal.body ++ '"' :: afterName)
          = label.text ++ (form.text ++ behind) := by
        rw [Label.text, List.append_assoc, List.append_assoc, Literal.text_append,
          List.append_assoc, List.cons_append, ← htext, Space.leading_append,
          ← Space.leading_eq hskipName]
      have hstring := fits_singleton (Token.fits_string literal)
      dsimp only at hrest
      split at hrest
      · next after hskip =>
        cases hrest
        refine ⟨.last label form (Space.leading behind).ending, ?_, ?_, ?_⟩
        · exact List.forall_mem_append.mpr ⟨hstring, List.forall_mem_append.mpr
            ⟨hform, fits_singleton (Space.fits_ending _)⟩⟩
        · rw [hlabel, Members.text, Space.text_ending, List.append_assoc, List.append_assoc,
            ← Space.leading_eq hskip]
        · rw [Members.pairs]
          rfl
      · next after hskip =>
        obtain ⟨others, hothers, hmoreText, rfl⟩ := hmore (Space.leading after) _ _ _ _ hrest
        rw [Space.leading_append] at hmoreText
        refine ⟨.more label form (Space.leading behind) others, ?_, ?_, ?_⟩
        · exact List.forall_mem_append.mpr ⟨hstring, List.forall_mem_append.mpr ⟨hform, hothers⟩⟩
        · rw [hlabel, Members.text]
          simp only [List.append_assoc, List.cons_append]
          rw [← hmoreText, ← Space.leading_eq hskip]
        · rw [Members.pairs]
          rfl
      · cases hrest
    · cases hcolon
  · cases h

theorem valueFormed_succ {fuel : Nat} (helements : ElementsFormed fuel)
    (hmembers : MembersFormed fuel) : ValueFormed (fuel + 1) := by
  intro t v rest h
  unfold readValue at h
  split at h
  · next inside =>
    obtain ⟨⟨name, after⟩, hname, heq⟩ := map_eq_ok h
    cases heq
    obtain ⟨literal, rfl, rfl⟩ := readString_formed hname
    refine ⟨.string literal, fits_singleton (Token.fits_string literal), ?_, by rw [Form.value]⟩
    rw [Form.text, literal.text_append]
  · next inside =>
    split at h
    · next after hskip =>
      cases h
      refine ⟨.emptyObject (Space.leading inside), List.forall_mem_nil _, ?_, by rw [Form.value]⟩
      rw [Form.text, List.cons_append, List.append_assoc, List.singleton_append,
        ← Space.leading_eq hskip]
    · obtain ⟨members, hfits, htext, rfl⟩ := hmembers (Space.leading inside) _ _ _ _ h
      rw [Space.leading_append] at htext
      refine ⟨.object members, ?_, ?_, by rw [Form.value]⟩
      · rw [Form.tokens]
        exact List.forall_mem_cons.mpr ⟨⟨trivial, trivial⟩, hfits⟩
      · rw [Form.text, htext, List.cons_append, List.append_assoc, List.singleton_append]
  · next inside =>
    split at h
    · next after hskip =>
      cases h
      refine ⟨.emptyArray (Space.leading inside), List.forall_mem_nil _, ?_, by rw [Form.value]⟩
      rw [Form.text, List.cons_append, List.append_assoc, List.singleton_append,
        ← Space.leading_eq hskip]
    · obtain ⟨elements, hfits, htext, rfl⟩ := helements (Space.leading inside) _ _ _ _ h
      rw [Space.leading_append] at htext
      refine ⟨.array elements, hfits, ?_, by rw [Form.value]; rfl⟩
      rw [Form.text, htext, List.cons_append, List.append_assoc, List.singleton_append]
  · split at h
    · next result hword =>
      cases h
      obtain ⟨letters, hmem, rfl⟩ := readWord?_formed hword
      exact ⟨.word letters v hmem, List.forall_mem_nil _, by rw [Form.text], by rw [Form.value]⟩
    · obtain ⟨n, hsized, rfl, rfl⟩ := readNumber_formed h
      exact ⟨.number n, fits_singleton ⟨hsized, trivial⟩, by rw [Form.text], by rw [Form.value]⟩

/-- **What is read has a form.** -/
theorem formed (fuel : Nat) : ValueFormed fuel ∧ ElementsFormed fuel ∧ MembersFormed fuel := by
  induction fuel with
  | zero => exact ⟨nofun, nofun, nofun⟩
  | succ fuel ih =>
    obtain ⟨hvalue, helements, hmembers⟩ := ih
    exact ⟨valueFormed_succ helements hmembers, elementsFormed_succ hvalue helements,
      membersFormed_succ hvalue hmembers⟩

/-- **The texts that are decoded** are those of documents whose tokens all fit. -/
theorem decode_eq_ok_iff {t : Text} {v : Value} :
    decode t = .ok v ↔
      ∃ d : Document, d.text = t ∧ (∀ token ∈ d.form.tokens, token.Fits) ∧ d.form.value = v := by
  constructor
  · intro h
    rw [decode.eq_def] at h
    split at h
    · cases h
    · obtain ⟨⟨w, behind⟩, hread, hrest⟩ := bind_eq_ok h
      obtain ⟨form, hfits, htext, rfl⟩ := (formed _).1 _ _ _ hread
      dsimp only at hrest
      split at hrest
      · next hnone =>
        cases hrest
        refine ⟨⟨Space.leading t, form, Space.leading behind⟩, ?_, hfits, rfl⟩
        have hbehind := Space.leading_append behind
        rw [hnone, List.append_nil] at hbehind
        rw [Document.text, hbehind, ← htext, Space.leading_append]
      · cases hrest
  · rintro ⟨d, rfl, hfits, rfl⟩
    exact d.decode_text hfits

/-! ## Numbers that are too long -/

/-- A run of digits that is too long to be read stands in a text. -/
def LongRun (n : Nat) (t : Text) : Prop :=
  digitLimit < n ∧ ∃ digits, Numerals digits ∧ digits.length = n ∧ digits <:+: t

theorem LongRun.mono {n : Nat} {t t' : Text} (h : LongRun n t) (hwithin : t <:+: t') :
    LongRun n t' := by
  obtain ⟨hlong, digits, hnumerals, hlength, hdigits⟩ := h
  exact ⟨hlong, digits, hnumerals, hlength, hdigits.trans hwithin⟩

/-- What is behind a token stands in the text. -/
theorem infix_of_skipSpace {t more : Text} {c : Char} (h : skipSpace t = c :: more) :
    skipSpace more <:+: t := by
  have hskip : skipSpace t <:+ t := List.dropWhile_suffix isSpace
  rw [h] at hskip
  have hmore : skipSpace more <:+ more := List.dropWhile_suffix isSpace
  exact (hmore.trans ((List.suffix_cons c more).trans hskip)).isInfix

/-- A string is not too long. -/
theorem readGlyphs_ne_oversized {opening t : Text} {mode : StringMode} {n : Nat} :
    readGlyphs opening mode t ≠ .error (.oversized n) := by
  intro h
  induction t generalizing mode with
  | nil => cases mode <;> cases h
  | cons c t ih =>
    cases mode with
    | plain =>
      rw [readGlyphs] at h
      split at h
      · cases h
      · split at h
        · exact ih h
        · split at h
          · cases h
          · exact ih (map_eq_error h)
    | escaped mark =>
      rw [readGlyphs] at h
      split at h
      · exact ih h
      · split at h
        · exact ih (map_eq_error h)
        · cases h
    | code left acc mark =>
      rw [readGlyphs] at h
      split at h
      · cases h
      · split at h
        · exact ih h
        · split at h
          · cases h
          · exact ih (map_eq_error h)

theorem readString_ne_oversized {opening t : Text} {n : Nat} :
    readString opening t ≠ .error (.oversized n) := fun h =>
  readGlyphs_ne_oversized (map_eq_error h)

theorem readNumber_run {t : Text} {n : Nat} (h : readNumber t = .error (.oversized n)) :
    LongRun n t := by
  obtain ⟨negative, digits, hsign, rfl⟩ := sign_formed t
  unfold readNumber at h
  split at h
  next sign start heq =>
    cases hsign.symm.trans heq
    split at h
    · cases h
    · next whole behind hwhole =>
      obtain ⟨hisWhole, rfl⟩ := wholePart?_formed hwhole
      split at h
      next fraction t hfraction =>
        split at h
        · split at h
          · next hlong =>
            cases h
            refine ⟨hlong, whole, hisWhole.numerals, rfl, ?_⟩
            have hwithin : whole <:+: whole ++ behind := (List.prefix_append _ _).isInfix
            cases negative with
            | true => exact List.infix_cons hwithin
            | false => exact hwithin
          · cases h
        · cases h

/-- The digits that are too many for a value stand in its text. -/
def ValueRun (fuel : Nat) : Prop :=
  ∀ t n, readValue fuel t = .error (.oversized n) → LongRun n t

def ElementsRun (fuel : Nat) : Prop :=
  ∀ done t n, readElements fuel done t = .error (.oversized n) → LongRun n t

def MembersRun (fuel : Nat) : Prop :=
  ∀ done t n, readMembers fuel done t = .error (.oversized n) → LongRun n t

theorem elementsRun_succ {fuel : Nat} (hvalue : ValueRun fuel) (hmore : ElementsRun fuel) :
    ElementsRun (fuel + 1) := by
  intro done t n h
  rw [readElements] at h
  rcases bind_eq_error h with hread | ⟨⟨w, behind⟩, hread, hrest⟩
  · exact hvalue _ _ hread
  · obtain ⟨form, -, rfl, -⟩ := (formed fuel).1 _ _ _ hread
    dsimp only at hrest
    split at hrest
    · cases hrest
    · next after hskip =>
      exact (hmore _ _ _ hrest).mono ((infix_of_skipSpace hskip).trans
        (List.suffix_append form.text behind).isInfix)
    · cases hrest

theorem membersRun_succ {fuel : Nat} (hvalue : ValueRun fuel) (hmore : MembersRun fuel) :
    MembersRun (fuel + 1) := by
  intro done t n h
  unfold readMembers at h
  split at h
  · next inside =>
    rcases bind_eq_error h with hname | ⟨⟨name, afterName⟩, hname, hcolon⟩
    · exact absurd hname readString_ne_oversized
    · obtain ⟨literal, rfl, -⟩ := readString_formed hname
      have hbehind : afterName <:+: '"' :: (literal.body ++ '"' :: afterName) :=
        ⟨'"' :: literal.body ++ ['"'], [], by simp⟩
      dsimp only at hcolon
      split at hcolon
      · next afterColon hskipName =>
        have hcolonInfix := (infix_of_skipSpace hskipName).trans hbehind
        rcases bind_eq_error hcolon with hread | ⟨⟨w, behind⟩, hread, hrest⟩
        · exact (hvalue _ _ hread).mono hcolonInfix
        · obtain ⟨form, -, htext, -⟩ := (formed fuel).1 _ _ _ hread
          dsimp only at hrest
          split at hrest
          · cases hrest
          · next after hskip =>
            rw [htext] at hcolonInfix
            exact (hmore _ _ _ hrest).mono ((infix_of_skipSpace hskip).trans
              ((List.suffix_append form.text behind).isInfix.trans hcolonInfix))
          · cases hrest
      · cases hcolon
  · cases h

theorem valueRun_succ {fuel : Nat} (helements : ElementsRun fuel) (hmembers : MembersRun fuel) :
    ValueRun (fuel + 1) := by
  intro t n h
  have hinside : ∀ {c : Char} {inside : Text}, skipSpace inside <:+: c :: inside := by
    intro c inside
    exact ((List.dropWhile_suffix isSpace).trans (List.suffix_cons c inside)).isInfix
  unfold readValue at h
  split at h
  · exact absurd (map_eq_error h) readString_ne_oversized
  · split at h
    · cases h
    · exact (hmembers _ _ _ h).mono hinside
  · split at h
    · cases h
    · exact (helements _ _ _ h).mono hinside
  · split at h
    · cases h
    · exact readNumber_run h

theorem run_of_readValue (fuel : Nat) : ValueRun fuel ∧ ElementsRun fuel ∧ MembersRun fuel := by
  induction fuel with
  | zero => exact ⟨nofun, nofun, nofun⟩
  | succ fuel ih =>
    obtain ⟨hvalue, helements, hmembers⟩ := ih
    exact ⟨valueRun_succ helements hmembers, elementsRun_succ hvalue helements,
      membersRun_succ hvalue hmembers⟩

/-- **Too many digits stand in the text** that is refused for them. -/
theorem run_of_oversized {t : Text} {n : Nat} (h : decode t = .error (.oversized n)) :
    LongRun n t := by
  rw [decode.eq_def] at h
  split at h
  · cases h
  · rcases bind_eq_error h with hread | ⟨⟨w, behind⟩, hread, hrest⟩
    · exact ((run_of_readValue _).1 _ _ hread).mono (List.dropWhile_suffix isSpace).isInfix
    · dsimp only at hrest
      split at hrest <;> cases hrest

end Json

end GhostEdit
