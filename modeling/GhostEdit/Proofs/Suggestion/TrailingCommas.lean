import GhostEdit.Proofs.Json.Reading
import GhostEdit.Suggestion.Answer

/-!
# Commas before a closing bracket

An answer that cannot be decoded is tried again without the commas that only blanks part from a
closing bracket or brace. These are looked for in the whole text, and a string may hold them too. So
the second attempt reads another form: its endings have no comma, and its strings have lost some.

## Main definitions

* `Answer.Mends`: what one text becomes without commas, whatever follows it
* `Json.Document.bare`: a document before commas were put in
* `Json.Document.mended`: a document as the second attempt reads it
* `Token.Bare`, `Token.Spaced`, `Token.Kept`: where commas do not matter

## Main results

* `Answer.dropTrailingCommas_text`: what is taken out is the text of the mended document
* `Answer.name_dropCommas_iff`: when a string stands for the same without commas
* `Answer.decode_commas`: when the commas that were put in do not matter
-/

namespace GhostEdit

namespace Answer

/-- Whether only blanks stand before a closing bracket or brace. -/
def closing (t : Text) : Bool := (Text.skipBlanks t).head?.any fun d => d = ']' || d = '\x7d'

theorem dropTrailingCommas_cons (c : Char) (rest : Text) :
    dropTrailingCommas (c :: rest)
      = if c = ',' && closing rest then dropTrailingCommas rest
        else c :: dropTrailingCommas rest := rfl

theorem closing_blanks {t : Text} (h : ∀ c ∈ t, isBlank c = true) {c : Char}
    (hc : isBlank c = false) (rest : Text) :
    closing (t ++ c :: rest) = (c = ']' || c = '\x7d') := by
  have hskip : Text.skipBlanks (t ++ c :: rest) = c :: rest := by
    refine Text.dropWhile_run h ?_
    rintro d ⟨⟩
    exact hc
  rw [closing, hskip]
  rfl

/-- Nothing closes before a value or a name. -/
theorem closing_space (s : Json.Space) {c : Char} (hc : Json.starts c = true) (rest : Text) :
    closing (s.text ++ c :: rest) = false := by
  have hblank : isBlank c = false := by
    by_contra h
    rw [Json.starts_of_mem (.inl (Bool.eq_true_of_not_eq_false h))] at hc
    cases hc
  have hcloser : ∀ d ∈ ",:]\x7d".toList, c ≠ d := fun d hd =>
    Json.ne_of_starts (Json.starts_of_mem (.inr hd)) hc
  rw [closing_blanks (fun d hd => Json.isBlank_of_isSpace (s.blank d hd)) hblank]
  simp [hcloser ']' (by decide), hcloser '\x7d' (by decide)]

/-- Behind a quote nothing closes. -/
theorem closing_append_quote (t rest : Text) : closing (t ++ '"' :: rest) = closing t := by
  induction t with
  | nil => rfl
  | cons c t ih =>
    by_cases hc : isBlank c = true
    · have hskip : ∀ u, closing (c :: u) = closing u := fun u => by
        rw [closing, closing, Text.skipBlanks, List.dropWhile_cons_of_pos hc]
        rfl
      rw [List.cons_append, hskip, hskip, ih]
    · have hskip : ∀ u, closing (c :: u) = (c = ']' || c = '\x7d') := fun u => by
        rw [closing, Text.skipBlanks, List.dropWhile_cons_of_neg hc]
        rfl
      rw [List.cons_append, hskip, hskip]

/-! ## Texts that stay together -/

/-- One text becomes another whatever follows it. -/
def Mends (written mended : Text) : Prop :=
  ∀ rest, dropTrailingCommas (written ++ rest) = mended ++ dropTrailingCommas rest

theorem Mends.append {w w' m m' : Text} (h : Mends w m) (h' : Mends w' m') :
    Mends (w ++ w') (m ++ m') := by
  intro rest
  rw [List.append_assoc, h, h', List.append_assoc]

theorem Mends.cons {w m : Text} (h : Mends w m) {c : Char} (hc : c ≠ ',') :
    Mends (c :: w) (c :: m) := by
  intro rest
  rw [List.cons_append, dropTrailingCommas_cons, if_neg (by simp [hc]), h]
  rfl

/-- What holds no comma stays as it is. -/
theorem mends_of_not_mem {t : Text} (h : ',' ∉ t) : Mends t t := by
  induction t with
  | nil => exact fun _ => rfl
  | cons c t ih =>
    exact (ih (List.not_mem_of_not_mem_cons h)).cons (List.ne_of_not_mem_cons h).symm

/-- A comma stays where nothing closes behind it. -/
theorem Mends.comma {w m : Text} (h : Mends w m) (hopen : ∀ rest, closing (w ++ rest) = false) :
    Mends (',' :: w) (',' :: m) := by
  intro rest
  rw [List.cons_append, dropTrailingCommas_cons, hopen, h]
  rfl

end Answer

/-! ## What is read the second time -/

namespace Json

/-- A string without the commas that look as if they stood before a closer. -/
def dropCommas : List Character → List Character
  | [] => []
  | m :: rest =>
    if m.text = [','] ∧ Answer.closing (rest.flatMap Character.text) = true then dropCommas rest
    else m :: dropCommas rest

def Literal.dropCommas (s : Literal) : Literal := ⟨Json.dropCommas s.characters⟩

/-- The ending without its comma. -/
def Ending.mended (e : Ending) : Ending where
  before := e.before ++ e.comma.getD []
  comma := none
  blank_before := by
    intro c hc
    rcases List.mem_append.mp hc with hc | hc
    · exact e.blank_before c hc
    · cases hcomma : e.comma with
      | none => simp [hcomma] at hc
      | some behind => exact e.blank_comma behind hcomma c (by simpa [hcomma] using hc)
  blank_comma := blank_none

/-- A document with other strings and other endings. -/
def Document.map (g : Literal → Literal) (h : Ending → Ending) (d : Document) : Document :=
  { d with form := d.form.map g h }

/-- The document before commas were put in. -/
def Document.bare (d : Document) : Document := d.map id Ending.bare

/-- The document as the second attempt reads it. -/
def Document.mended (d : Document) : Document := d.map Literal.dropCommas Ending.mended

end Json

namespace Answer

open Json

/-- A comma of a string stands for itself. -/
theorem comma_character (m : Character) : m.text = [','] ∨ ',' ∉ m.text := by
  have hdigit : ∀ d : HexDigit, ',' ≠ d.char := by
    rintro ⟨c, value, hreads⟩ rfl
    cases hreads
  cases m with
  | plain c hquote hslash hcontrol =>
    by_cases hc : c = ','
    · exact .inl (congrArg (fun d => [d]) hc)
    · exact .inr (by simpa [Character.text] using Ne.symm hc)
  | escape letter c h =>
    have hletter : ',' ≠ letter := by
      rintro rfl
      cases h
    exact .inr (by simp [Character.text, hletter])
  | code a b c d => exact .inr (by simp [Character.text, hdigit])

/-- A string loses the commas that look as if they stood before a closer. -/
theorem dropTrailingCommas_characters {tail : Text} (htail : ∀ t, closing (t ++ tail) = closing t)
    (cs : List Character) :
    dropTrailingCommas (cs.flatMap Character.text ++ tail)
      = (dropCommas cs).flatMap Character.text ++ dropTrailingCommas tail := by
  induction cs with
  | nil => rfl
  | cons m rest ih =>
    rw [List.flatMap_cons, List.append_assoc, dropCommas]
    rcases comma_character m with hm | hm
    · rw [hm, List.singleton_append, dropTrailingCommas_cons, htail]
      by_cases hcloses : closing (rest.flatMap Character.text) = true
      · rw [if_pos (by simp [hcloses]), if_pos ⟨rfl, hcloses⟩, ih]
      · rw [if_neg (by simp [hcloses]), if_neg (by simp [hcloses]), ih, List.flatMap_cons, hm]
        rfl
    · have hnot : m.text ≠ [','] := by
        intro h
        rw [h] at hm
        exact hm List.mem_cons_self
      rw [mends_of_not_mem hm, ih, if_neg fun h => hnot h.1, List.flatMap_cons, List.append_assoc]

theorem body_dropCommas (s : Literal) : s.dropCommas.body = dropTrailingCommas s.body := by
  have hbody := dropTrailingCommas_characters (fun t => by rw [List.append_nil]) s.characters
  rw [List.append_nil] at hbody
  rw [Literal.body, Literal.body, hbody]
  exact (List.append_nil _).symm

theorem mends_literal (s : Literal) : Mends s.text s.dropCommas.text := by
  intro rest
  have hbody := dropTrailingCommas_characters (fun t => closing_append_quote t rest) s.characters
  rw [s.text_append, s.dropCommas.text_append, dropTrailingCommas_cons, Literal.body, hbody]
  rfl

theorem mends_space (s : Space) : Mends s.text s.text := by
  refine mends_of_not_mem fun hmem => ?_
  have hcomma := s.blank ',' hmem
  cases hcomma

theorem mends_numeral (n : Numeral) : Mends n.text n.text := by
  refine mends_of_not_mem fun hmem => ?_
  rcases Numeral.mem_text hmem with h | h
  · cases h
  · exact absurd h (by decide)

theorem mends_word {letters : String} {v : Value} (h : (letters, v) ∈ words) :
    Mends letters.toList letters.toList := by
  refine mends_of_not_mem fun hmem => ?_
  rcases mem_word h ',' hmem with h | h <;> cases h

theorem mends_blanks {t : Text} (h : ∀ c ∈ t, isBlank c = true) : Mends t t := by
  refine mends_of_not_mem fun hmem => ?_
  have hcomma := h ',' hmem
  cases hcomma

/-- An ending loses its comma. -/
theorem mends_ending (e : Ending) {closer : Char} (h : closer = ']' ∨ closer = '\x7d') :
    Mends (e.text ++ [closer]) (e.mended.text ++ [closer]) := by
  have hcloser : Mends [closer] [closer] := by
    refine mends_of_not_mem ?_
    rcases h with rfl | rfl <;> decide
  have hbefore := mends_blanks e.blank_before
  have hmended : e.mended.text = e.before ++ e.comma.getD [] := List.append_nil _
  rw [hmended, Ending.text]
  cases hcomma : e.comma with
  | none => exact (hbefore.append (mends_of_not_mem List.not_mem_nil)).append hcloser
  | some behind =>
    have hbehind := mends_blanks (e.blank_comma behind hcomma)
    have hdropped : Mends (',' :: (behind ++ [closer])) (behind ++ [closer]) := by
      intro rest
      have hcloses : closing (behind ++ closer :: rest) = true := by
        rw [closing_blanks (e.blank_comma behind hcomma)]
        · simpa using h
        · rcases h with rfl | rfl <;> rfl
      rw [List.cons_append, dropTrailingCommas_cons, List.append_assoc, List.singleton_append,
        hcloses]
      have hmore := hbehind.append hcloser rest
      rwa [List.append_assoc, List.singleton_append] at hmore
    have hall := hbefore.append hdropped
    rw [← List.append_assoc] at hall
    show Mends (e.before ++ ',' :: behind ++ [closer]) (e.before ++ behind ++ [closer])
    rwa [List.append_assoc e.before, List.cons_append]

theorem closing_elements (elements : Elements) (rest : Text) :
    closing (elements.text ++ rest) = false := by
  obtain ⟨before, c, more, htext, hc⟩ := elements.exists_text
  rw [htext, List.append_assoc]
  exact closing_space before hc _

theorem closing_members (members : Members) (rest : Text) :
    closing (members.text ++ rest) = false := by
  obtain ⟨before, more, htext⟩ := members.exists_text
  rw [htext, List.append_assoc]
  exact closing_space before rfl _

theorem mends_label (label : Label) :
    Mends label.text { label with name := label.name.dropCommas : Label }.text := by
  exact (mends_space label.before).append ((mends_literal label.name).append
    ((mends_space label.behind).append ((mends_space label.ahead).cons (by decide))))

mutual

theorem mends_form : ∀ form : Form,
    Mends form.text (form.map Literal.dropCommas Ending.mended).text
  | .word _ _ h => by
    rw [Form.map, Form.text]
    exact mends_word h
  | .number n => by
    rw [Form.map, Form.text]
    exact mends_numeral n
  | .string s => by
    rw [Form.map, Form.text, Form.text]
    exact mends_literal s
  | .emptyArray inside => by
    have hclose : Mends [']'] [']'] := mends_of_not_mem (by decide)
    rw [Form.map, Form.text]
    exact ((mends_space inside).append hclose).cons (by decide)
  | .array elements => by
    rw [Form.map, Form.text, Form.text]
    exact (mends_elements elements).cons (by decide)
  | .emptyObject inside => by
    have hclose : Mends ['\x7d'] ['\x7d'] := mends_of_not_mem (by decide)
    rw [Form.map, Form.text]
    exact ((mends_space inside).append hclose).cons (by decide)
  | .object members => by
    rw [Form.map, Form.text, Form.text]
    exact (mends_members members).cons (by decide)

theorem mends_elements : ∀ elements : Elements,
    Mends (elements.text ++ [']'])
      ((elements.map Literal.dropCommas Ending.mended).text ++ [']'])
  | .last before form ending => by
    rw [Elements.map, Elements.text, Elements.text]
    simp only [List.append_assoc]
    exact (mends_space before).append ((mends_form form).append (mends_ending ending (.inl rfl)))
  | .more before form behind others => by
    rw [Elements.map, Elements.text, Elements.text]
    simp only [List.append_assoc, List.cons_append]
    refine (mends_space before).append ((mends_form form).append ((mends_space behind).append
      ((mends_elements others).comma fun rest => ?_)))
    rw [List.append_assoc]
    exact closing_elements others _

theorem mends_members : ∀ members : Members,
    Mends (members.text ++ ['\x7d'])
      ((members.map Literal.dropCommas Ending.mended).text ++ ['\x7d'])
  | .last label form ending => by
    rw [Members.map, Members.text, Members.text]
    simp only [List.append_assoc]
    exact (mends_label label).append ((mends_form form).append (mends_ending ending (.inr rfl)))
  | .more label form behind others => by
    rw [Members.map, Members.text, Members.text]
    simp only [List.append_assoc, List.cons_append]
    refine (mends_label label).append ((mends_form form).append ((mends_space behind).append
      ((mends_members others).comma fun rest => ?_)))
    rw [List.append_assoc]
    exact closing_members others _

end

/-- **What is left without the commas** is the text of the mended document. -/
theorem dropTrailingCommas_text (d : Document) : dropTrailingCommas d.text = d.mended.text := by
  have hmends := (mends_space d.before).append
    ((mends_form d.form).append (mends_space d.behind)) []
  rwa [List.append_nil, dropTrailingCommas, List.append_nil] at hmends

/-! ## Strings that lose a comma -/

/-- Whether a character as written stands for a comma. -/
def commaGlyph : Glyph → Bool
  | .char c => c = ','
  | .code n => n = 44

/-- The commas of a string. -/
def commas : Name → Nat
  | .text t => t.count ','
  | .codes points => points.count 44

theorem count_assemble (gs : List Glyph) : (assemble gs).count 44 = gs.countP commaGlyph := by
  induction gs using assemble.induct with
  | case1 => rfl
  | case2 c rest ih =>
    have hc : c.toNat = 44 ↔ c = ',' := ⟨fun h => Char.toNat_inj.mp h, fun h => by rw [h]; rfl⟩
    rw [assemble, List.count_cons, ih, List.countP_cons]
    simp [commaGlyph, hc]
  | case3 hi lo rest hhalves ih =>
    rw [Bool.and_eq_true, isHighHalf, isLowHalf, Bool.and_eq_true, Bool.and_eq_true] at hhalves
    simp only [decide_eq_true_eq] at hhalves
    rw [assemble, if_pos (by simpa [isHighHalf, isLowHalf] using hhalves), List.count_cons, ih,
      List.countP_cons, List.countP_cons]
    have hhi : hi ≠ 44 := by omega
    have hlo : lo ≠ 44 := by omega
    have hpair : 0x10000 + (hi - 0xd800) * 0x400 + (lo - 0xdc00) ≠ 44 := by omega
    simp [commaGlyph, hhi, hlo, hpair]
  | case4 hi lo rest hhalves ih =>
    rw [assemble, if_neg hhalves, List.count_cons, ih]
    simp [List.countP_cons, commaGlyph]
  | case5 n rest hmore ih =>
    rw [assemble_code, List.count_cons, ih, List.countP_cons]
    · simp [commaGlyph]
    · exact fun lo others heq => absurd heq (hmore lo others)

theorem ofNat_eq_comma (n : Nat) : Char.ofNat n = ',' ↔ n = 44 := by
  constructor
  · intro h
    by_cases hvalid : n.isValidChar
    · have haux : Char.ofNat n = Char.ofNatAux n hvalid := dif_pos hvalid
      exact congrArg Char.toNat (haux.symm.trans h)
    · have hzero : Char.ofNat n = '\x00' := dif_neg hvalid
      cases hzero.symm.trans h
  · rintro rfl
    rfl

theorem commas_stringOf (points : List Nat) : commas (stringOf points) = points.count 44 := by
  rw [stringOf]
  split
  · rfl
  · rw [commas, List.count_eq_countP, List.countP_map, List.count_eq_countP]
    refine List.countP_congr fun n _ => ?_
    simp [ofNat_eq_comma]

theorem commaGlyph_of_text {m : Character} (h : m.text = [',']) : commaGlyph m.glyph = true := by
  cases m with
  | plain c hquote hslash hcontrol =>
    cases h
    rfl
  | escape letter c hletter => cases h
  | code a b c d => cases h

/-- A string without the commas is as it was, or it has fewer of them and is shorter. -/
theorem dropCommas_cases (cs : List Character) :
    dropCommas cs = cs ∨
      ((dropCommas cs).map Character.glyph).countP commaGlyph
          < (cs.map Character.glyph).countP commaGlyph ∧
        ((dropCommas cs).flatMap Character.text).length < (cs.flatMap Character.text).length := by
  induction cs with
  | nil => exact .inl rfl
  | cons m rest ih =>
    rw [dropCommas, List.map_cons, List.countP_cons, List.flatMap_cons, List.length_append]
    split
    · next hcomma =>
      rw [hcomma.1, if_pos (commaGlyph_of_text hcomma.1), List.length_singleton]
      refine .inr ?_
      rcases ih with hsame | ⟨hfewer, hshorter⟩
      · rw [hsame]
        omega
      · omega
    · rw [List.map_cons, List.countP_cons, List.flatMap_cons, List.length_append]
      rcases ih with hsame | ⟨hfewer, hshorter⟩
      · exact .inl (by rw [hsame])
      · exact .inr ⟨by omega, by omega⟩

/-- A string stands for the same without commas only if it loses none. -/
theorem name_dropCommas_iff (s : Literal) :
    s.dropCommas.name = s.name ↔ dropTrailingCommas s.body = s.body := by
  rw [← body_dropCommas]
  rcases dropCommas_cases s.characters with hsame | ⟨hfewer, hshorter⟩
  · have hs : s.dropCommas = s := congrArg Literal.mk hsame
    rw [hs]
    exact iff_of_true rfl rfl
  · refine iff_of_false (fun hname => ?_) fun hbody => ?_
    · have hcommas := congrArg commas hname
      rw [Literal.name, Literal.name, commas_stringOf, commas_stringOf, count_assemble,
        count_assemble] at hcommas
      exact absurd hcommas hfewer.ne
    · exact absurd (congrArg List.length hbody) hshorter.ne

/-! ## The second attempt -/

end Answer

namespace Json

/-- No comma was put into an ending. -/
def Token.Bare : Token → Prop
  | .ending e => e.comma = none
  | _ => True

/-- Only space that JSON knows was put in behind a comma. -/
def Token.Spaced : Token → Prop
  | .ending e => ∀ t ∈ e.comma, ∀ c ∈ t, isSpace c = true
  | _ => True

/-- No comma of a string looks as if it stood before a closer. -/
def Token.Kept : Token → Prop
  | .string s => Answer.dropTrailingCommas s.body = s.body
  | _ => True

theorem Document.tokens_bare (d : Document) :
    d.bare.form.tokens = d.form.tokens.map (Token.map id Ending.bare) := d.form.tokens_map _ _

theorem Document.tokens_mended (d : Document) :
    d.mended.form.tokens = d.form.tokens.map (Token.map Literal.dropCommas Ending.mended) :=
  d.form.tokens_map _ _

theorem Document.value_bare (d : Document) : d.bare.form.value = d.form.value := by
  refine d.form.value_map fun token _ => ?_
  cases token with
  | string s => rfl
  | _ => trivial

end Json

namespace Answer

open Json

variable {d : Document} {v : Value}

/-- What is known of a document that was a text of a value. -/
theorem fits_of_bare (h : Json.decode d.bare.text = .ok v) :
    (∀ token ∈ d.form.tokens, (token.map id Ending.bare).Fits) ∧ v = d.form.value := by
  have houtcome := d.bare.outcome
  rw [h, d.tokens_bare] at houtcome
  cases houtcome with
  | read hread => exact ⟨List.forall_mem_map.mp hread, d.value_bare⟩

theorem sized_of_bare {token : Token} (h : (token.map id Ending.bare).Fits) : token.Sized := by
  cases token with
  | number n => exact h.1
  | _ => trivial

/-- Nothing is flawed where no comma was put in. -/
theorem settled_iff_of_bare {token : Token} (h : (token.map id Ending.bare).Fits) :
    token.Settled ↔ token.Bare := by
  cases token with
  | ending e =>
    have hbefore : ∀ c ∈ e.before, isSpace c = true := h.2.2
    exact ⟨fun hsettled => hsettled.1, fun hnone => ⟨hnone, hbefore⟩⟩
  | _ => exact Iff.rfl

/-- What the second attempt finds is flawed only by blanks that JSON does not know. -/
theorem settled_mended_iff {token : Token} (h : (token.map id Ending.bare).Fits) :
    (token.map Literal.dropCommas Ending.mended).Settled ↔ token.Spaced := by
  cases token with
  | ending e =>
    have hbefore : ∀ c ∈ e.before, isSpace c = true := h.2.2
    have hmended : (Token.map Literal.dropCommas Ending.mended (.ending e)).Settled
        ↔ none = none ∧ ∀ c ∈ e.before ++ e.comma.getD [], isSpace c = true := Iff.rfl
    rw [hmended, List.forall_mem_append]
    cases hcomma : e.comma with
    | none => simpa [Token.Spaced, hcomma] using hbefore
    | some behind => simpa [Token.Spaced, hcomma] using fun _ => hbefore
  | _ => exact Iff.rfl

theorem sized_mended {token : Token} (h : token.Sized) :
    (token.map Literal.dropCommas Ending.mended).Sized := by
  cases token with
  | number n => exact h
  | _ => trivial

theorem same_iff_kept (token : Token) : token.Same Literal.dropCommas ↔ token.Kept := by
  cases token with
  | string s => exact name_dropCommas_iff s
  | _ => exact Iff.rfl

/-- Where no comma was put in, the first attempt decides. -/
theorem decode_of_bare (h : Json.decode d.bare.text = .ok v)
    (hbare : ∀ token ∈ d.form.tokens, token.Bare) : decode d.text = .ok d.form.value := by
  have hfits := (fits_of_bare h).1
  have hread := Document.decode_text fun token htoken => ⟨sized_of_bare (hfits token htoken),
    (settled_iff_of_bare (hfits token htoken)).mpr (hbare token htoken)⟩
  rw [decode, hread]

/-- Where a comma was put in, the second attempt decides. -/
theorem decode_of_commas (h : Json.decode d.bare.text = .ok v)
    (hcomma : ¬ ∀ token ∈ d.form.tokens, token.Bare) :
    ((∀ token ∈ d.form.tokens, token.Spaced) → decode d.text = .ok d.mended.form.value) ∧
      ((¬ ∀ token ∈ d.form.tokens, token.Spaced) → ∃ e, decode d.text = .error e) := by
  have hfits := (fits_of_bare h).1
  have hsized : ∀ token ∈ d.form.tokens, token.Sized := fun token htoken =>
    sized_of_bare (hfits token htoken)
  have hmended : ∀ token ∈ d.mended.form.tokens, token.Sized := by
    rw [d.tokens_mended]
    exact List.forall_mem_map.mpr fun token htoken => sized_mended (hsized token htoken)
  have hsettled : (∀ token ∈ d.mended.form.tokens, token.Settled)
      ↔ ∀ token ∈ d.form.tokens, token.Spaced := by
    rw [d.tokens_mended, List.forall_mem_map]
    exact forall₂_congr fun token htoken => settled_mended_iff (hfits token htoken)
  obtain ⟨flaw, rest, hfirst⟩ := Document.decode_flawed hsized fun hall => hcomma
    fun token htoken => (settled_iff_of_bare (hfits token htoken)).mp (hall token htoken)
  refine ⟨fun hspaced => ?_, fun hspaced => ?_⟩
  · have hsecond := Document.decode_text fun token htoken =>
      ⟨hmended token htoken, hsettled.mpr hspaced token htoken⟩
    rw [← dropTrailingCommas_text] at hsecond
    rw [decode, hfirst]
    dsimp only
    rw [hsecond]
  · obtain ⟨flaw, rest, hsecond⟩ := Document.decode_flawed hmended fun hall =>
      hspaced (hsettled.mp hall)
    rw [← dropTrailingCommas_text] at hsecond
    rw [decode, hfirst]
    dsimp only
    rw [hsecond]
    exact ⟨_, rfl⟩

/-- **Commas that were put in** before closing brackets and braces of a text of a value do not
matter if there are none, or if the blanks behind them are space and no string holds what looks like
such a comma. Otherwise they do, as long as no name comes twice in an object. Every text of a value
is that of a document without such commas (`Json.decode_eq_ok_iff`). -/
theorem decode_commas (h : Json.decode d.bare.text = .ok v) :
    ((∀ token ∈ d.form.tokens, token.Bare) ∨ (∀ token ∈ d.form.tokens, token.Spaced ∧ token.Kept) →
      decode d.text = .ok v) ∧
    ((∀ token ∈ d.form.tokens, token.Distinct) → decode d.text = .ok v →
      (∀ token ∈ d.form.tokens, token.Bare) ∨
        ∀ token ∈ d.form.tokens, token.Spaced ∧ token.Kept) := by
  obtain ⟨-, rfl⟩ := fits_of_bare h
  by_cases hbare : ∀ token ∈ d.form.tokens, token.Bare
  · exact ⟨fun _ => decode_of_bare h hbare, fun _ _ => .inl hbare⟩
  · obtain ⟨hmended, hblank⟩ := decode_of_commas h hbare
    constructor
    · intro hspaced
      have hspaced := hspaced.resolve_left hbare
      rw [hmended fun token htoken => (hspaced token htoken).1]
      exact congrArg Except.ok (d.form.value_map fun token htoken =>
        (same_iff_kept token).mpr (hspaced token htoken).2)
    · intro hdistinct hread
      have hspaced : ∀ token ∈ d.form.tokens, token.Spaced := by
        by_contra hnot
        obtain ⟨e, he⟩ := hblank hnot
        rw [he] at hread
        cases hread
      rw [hmended hspaced] at hread
      have hsame := d.form.same_of_value hdistinct (Except.ok.inj hread)
      exact .inr fun token htoken =>
        ⟨hspaced token htoken, (same_iff_kept token).mp (hsame token htoken)⟩

/-- A string in an array, and a comma behind it. -/
def loneString (cs : List Character) : Document where
  before := noSpace
  form := .array (.last noSpace (.string ⟨cs⟩)
    { before := []
      comma := some ['\n']
      blank_before := List.forall_mem_nil _
      blank_comma := by
        rintro t ⟨⟩
        exact List.forall_mem_singleton.mpr rfl })
  behind := noSpace

/-- A comma behind a string that holds one. -/
def listed : Document :=
  loneString [.ofChar 'a' (.refl true), .ofChar ',' (.refl true), .ofChar ' ' (.refl true),
    .ofChar 'b' (.refl true)]

theorem listed_decoded :
    Json.decode listed.bare.text = .ok (.arr [.ofString "a, b"]) ∧
      (∀ token ∈ listed.form.tokens, token.Spaced ∧ token.Kept) ∧
      decode listed.text = .ok (.arr [.ofString "a, b"]) := by
  have hbare : Json.decode listed.bare.text = .ok (.arr [.ofString "a, b"]) := rfl
  have hkept : ∀ token ∈ listed.form.tokens, token.Spaced ∧ token.Kept := by
    refine List.forall_mem_cons.mpr ⟨⟨trivial, rfl⟩, List.forall_mem_singleton.mpr ⟨?_, trivial⟩⟩
    rintro t ⟨⟩
    exact List.forall_mem_singleton.mpr rfl
  exact ⟨hbare, hkept, (decode_commas hbare).1 (.inr hkept)⟩

/-- A comma behind a string that ends as if it stood before a bracket. -/
def indexed : Document :=
  loneString [.ofChar 'a' (.refl true), .ofChar ',' (.refl true), .ofChar ']' (.refl true)]

theorem indexed_altered :
    Json.decode indexed.bare.text = .ok (.arr [.ofString "a,]"]) ∧
      decode indexed.text = .ok (.arr [.ofString "a]"]) := by
  constructor <;> rfl

end Answer

end GhostEdit
