import GhostEdit.Proofs.Json.RoundTrip
import GhostEdit.Text.Blank

/-!
# JSON texts as they are put together

A value can be written in many ways: with space between the tokens or without, a character of a
string as itself, behind a backslash or by its number, a number with a point or a power of ten. A
form is one of these ways, with everything in its place, so that what holds of every text of a value
can be shown along its form. Behind the last element or member of a form there may be a comma, which
JSON does not allow, and blanks that it does not know.

## What a form does not say

There is no limit on the digits of an integer, and names may come twice. Both are conditions on a
form that theorems make where they need them, as is that no comma is too many.

## Main definitions

* `Json.Character`, `Json.Literal`, `Json.Numeral`: the parts of strings, strings and numbers as
  written
* `Json.Form`, `Json.Elements`, `Json.Members`: values as written
* `Form.text`, `Form.value`: the text of a form, and the value that it stands for
* `Json.Ending`: what stands between the last element or member and the bracket behind it
* `Form.tokens`: what conditions on a form are about
* `Form.map`: a form with other strings and other endings
* `Json.Document`: a form with space around it

## Main results

* `Form.value_map`, `Form.same_of_value`: when other strings make another value
-/

namespace GhostEdit

namespace Json

/-! ## Strings and numbers -/

/-- Space between two tokens. -/
structure Space where
  text : Text
  blank : ∀ c ∈ text, isSpace c = true

/-- Nothing between two tokens. -/
def noSpace : Space := ⟨[], List.forall_mem_nil _⟩

/-- A hexadecimal digit and what it counts. -/
structure HexDigit where
  char : Char
  value : Nat
  reads : hexDigit? char = some value

/-- A character of a string as it is written. -/
inductive Character where
  /-- As itself. -/
  | plain (c : Char) (hquote : c ≠ '"') (hslash : c ≠ '\\') (hcontrol : 32 ≤ c.toNat)
  /-- By a letter behind a backslash. -/
  | escape (letter c : Char) (h : escapeOf? letter = some c)
  /-- By the number of a sixteen-bit code. -/
  | code (a b c d : HexDigit)

namespace Character

/-- A character that may be written as itself. -/
def ofChar (c : Char) (h : decide (c ≠ '"' ∧ c ≠ '\\' ∧ 32 ≤ c.toNat) = true) : Character :=
  .plain c (of_decide_eq_true h).1 (of_decide_eq_true h).2.1 (of_decide_eq_true h).2.2

/-- What is written. -/
def text : Character → Text
  | .plain c _ _ _ => [c]
  | .escape letter _ _ => ['\\', letter]
  | .code a b c d => ['\\', 'u', a.char, b.char, c.char, d.char]

/-- What it stands for. -/
def glyph : Character → Glyph
  | .plain c _ _ _ => .char c
  | .escape _ c _ => .char c
  | .code a b c d => .code (((a.value * 16 + b.value) * 16 + c.value) * 16 + d.value)

end Character

/-- A string as it is written between its quotes. -/
structure Literal where
  characters : List Character

namespace Literal

/-- What stands between the quotes. -/
def body (s : Literal) : Text := s.characters.flatMap Character.text

/-- The string with its quotes. -/
def text (s : Literal) : Text := '"' :: (s.body ++ ['"'])

/-- The string that it stands for. -/
def name (s : Literal) : Name := stringOf (assemble (s.characters.map Character.glyph))

end Literal

/-- A number as it is written: a sign, digits, digits behind a point and a power of ten. -/
structure Numeral where
  negative : Bool
  whole : Text
  fraction : Text
  power : Text
  exponent : Int
  isWhole : IsWhole whole
  numerals : Numerals fraction
  isExponent : IsExponent power exponent

namespace Numeral

/-- What is written. -/
def text (n : Numeral) : Text := signed n.negative (n.whole ++ (pointed n.fraction ++ n.power))

/-- What a number is written with. -/
theorem mem_text {n : Numeral} {c : Char} (h : c ∈ n.text) :
    isNumeral c = true ∨ c ∈ "-+.eE".toList := by
  have hwhole : ∀ d ∈ n.whole, isNumeral d = true := n.isWhole.numerals
  have hfraction : ∀ d ∈ pointed n.fraction, isNumeral d = true ∨ d = '.' := by
    intro d hd
    rw [pointed] at hd
    split at hd
    · cases hd
    · exact (List.mem_cons.mp hd).elim .inr fun hd => .inl (n.numerals d hd)
  have hpower := n.isExponent.mem_power
  have hmore : c ∈ n.whole ++ (pointed n.fraction ++ n.power) ∨ c = '-' := by
    rw [text, signed] at h
    split at h
    · exact (List.mem_cons.mp h).symm
    · exact .inl h
  rcases hmore with hmem | rfl
  · rcases List.mem_append.mp hmem with hc | hmem
    · exact .inl (hwhole c hc)
    · rcases List.mem_append.mp hmem with hc | hc
      · exact (hfraction c hc).imp id fun hc => by rw [hc]; decide
      · exact hpower c hc
  · exact .inr (by decide)

/-- Without a point and a power a number is an integer. -/
def IsInt (n : Numeral) : Prop := n.fraction = [] ∧ n.power = []

instance (n : Numeral) : Decidable n.IsInt := inferInstanceAs (Decidable (_ ∧ _))

/-- What it stands for. -/
def value (n : Numeral) : Value :=
  if n.IsInt then .int (if n.negative then -(ofNumerals n.whole : Int) else ofNumerals n.whole)
  else
    .float (Binary64.ofDecimal n.negative (ofNumerals (n.whole ++ n.fraction))
      (n.exponent - n.fraction.length))

/-- An integer has no more digits than are read. -/
def Sized (n : Numeral) : Prop := n.IsInt → n.whole.length ≤ digitLimit

instance (n : Numeral) : Decidable n.Sized := inferInstanceAs (Decidable (_ → _))

theorem value_of_not_isInt {n : Numeral} (h : ¬ n.IsInt) :
    n.value = .float (Binary64.ofDecimal n.negative (ofNumerals (n.whole ++ n.fraction))
      (n.exponent - n.fraction.length)) := if_neg h

theorem sized_of_not_isInt {n : Numeral} (h : ¬ n.IsInt) : n.Sized := fun hint => absurd hint h

end Numeral

/-- What a word is written with. -/
theorem mem_word {letters : String} {v : Value} (h : (letters, v) ∈ words) :
    ∀ c ∈ letters.toList, c.isAlpha = true ∨ c = '-' := by
  simp only [words, List.mem_cons, Prod.mk.injEq, List.not_mem_nil, or_false] at h
  rcases h with ⟨rfl, -⟩ | ⟨rfl, -⟩ | ⟨rfl, -⟩ | ⟨rfl, -⟩ | ⟨rfl, -⟩ | ⟨rfl, -⟩ <;> simp

/-! ## Values -/

/-- What stands between the last element or member and the bracket behind it: blanks, and perhaps a
comma with more of them. -/
structure Ending where
  before : Text
  comma : Option Text
  blank_before : ∀ c ∈ before, isBlank c = true
  blank_comma : ∀ t ∈ comma, ∀ c ∈ t, isBlank c = true

namespace Ending

/-- Without a comma nothing is behind it. -/
theorem blank_none : ∀ t ∈ (none : Option Text), ∀ c ∈ t, isBlank c = true := by
  rintro t ⟨⟩

/-- What is written. -/
def text (e : Ending) : Text :=
  e.before ++ match e.comma with
    | none => []
    | some behind => ',' :: behind

/-- JSON has only space there. -/
def Settled (e : Ending) : Prop := e.comma = none ∧ ∀ c ∈ e.before, isSpace c = true

instance (e : Ending) : Decidable e.Settled :=
  inferInstanceAs (Decidable (_ ∧ _))

/-- The ending before a comma was put there. -/
def bare (e : Ending) : Ending :=
  { before := e.before
    comma := none
    blank_before := e.blank_before
    blank_comma := blank_none }

end Ending

/-- What stands before the value of a member. -/
structure Label where
  before : Space
  name : Literal
  behind : Space
  ahead : Space

/-- What is written before the value of a member. -/
def Label.text (l : Label) : Text :=
  l.before.text ++ (l.name.text ++ (l.behind.text ++ ':' :: l.ahead.text))

mutual

/-- A value as it is written. -/
inductive Form where
  | word (letters : String) (v : Value) (h : (letters, v) ∈ words)
  | number (n : Numeral)
  | string (s : Literal)
  | emptyArray (inside : Space)
  | array (elements : Elements)
  | emptyObject (inside : Space)
  | object (members : Members)

/-- The elements of an array as they are written. -/
inductive Elements where
  | last (before : Space) (form : Form) (ending : Ending)
  | more (before : Space) (form : Form) (behind : Space) (rest : Elements)

/-- The members of an object as they are written. -/
inductive Members where
  | last (label : Label) (form : Form) (ending : Ending)
  | more (label : Label) (form : Form) (behind : Space) (rest : Members)

end

mutual

/-- The text of a form. -/
def Form.text : Form → Text
  | .word letters _ _ => letters.toList
  | .number n => n.text
  | .string s => s.text
  | .emptyArray inside => '[' :: (inside.text ++ [']'])
  | .array elements => '[' :: (elements.text ++ [']'])
  | .emptyObject inside => '\x7b' :: (inside.text ++ ['\x7d'])
  | .object members => '\x7b' :: (members.text ++ ['\x7d'])

/-- The text of elements, up to the bracket. -/
def Elements.text : Elements → Text
  | .last before form ending => before.text ++ (form.text ++ ending.text)
  | .more before form behind rest =>
    before.text ++ (form.text ++ (behind.text ++ ',' :: rest.text))

/-- The text of members, up to the brace. -/
def Members.text : Members → Text
  | .last label form ending => label.text ++ (form.text ++ ending.text)
  | .more label form behind rest => label.text ++ (form.text ++ (behind.text ++ ',' :: rest.text))

end

/-- Members after those that are there: one whose name is known takes the place of the other. -/
def enterAll (pairs : List (Name × Value)) (done : Value.Members) : Value.Members :=
  pairs.foldl (fun members m => Value.setMember m.1 m.2 members) done

mutual

/-- The value that a form stands for. -/
def Form.value : Form → Value
  | .word _ v _ => v
  | .number n => n.value
  | .string s => s.name.toValue
  | .emptyArray _ => .arr []
  | .array elements => .arr elements.values
  | .emptyObject _ => .obj []
  | .object members => .obj (enterAll members.pairs [])

/-- The values of elements. -/
def Elements.values : Elements → List Value
  | .last _ form _ => [form.value]
  | .more _ form _ rest => form.value :: rest.values

/-- The names and the values of members. -/
def Members.pairs : Members → List (Name × Value)
  | .last label form _ => [(label.name.name, form.value)]
  | .more label form _ rest => (label.name.name, form.value) :: rest.pairs

end

/-- The form of an array. -/
def Form.IsArray : Form → Prop
  | .emptyArray _ => True
  | .array _ => True
  | _ => False

/-! ## Conditions on a form -/

/-- What a condition on a form may be about. -/
inductive Token where
  | string (s : Literal)
  | number (n : Numeral)
  | ending (e : Ending)
  /-- The names of the members of one object. -/
  | names (labels : List Literal)

/-- The names of members as they are written. -/
def Members.labels : Members → List Literal
  | .last label _ _ => [label.name]
  | .more label _ _ rest => label.name :: rest.labels

mutual

/-- The tokens of a form. -/
def Form.tokens : Form → List Token
  | .word _ _ _ => []
  | .number n => [.number n]
  | .string s => [.string s]
  | .emptyArray _ => []
  | .array elements => elements.tokens
  | .emptyObject _ => []
  | .object members => .names members.labels :: members.tokens

/-- The tokens of elements. -/
def Elements.tokens : Elements → List Token
  | .last _ form ending => form.tokens ++ [.ending ending]
  | .more _ form _ rest => form.tokens ++ rest.tokens

/-- The tokens of members. -/
def Members.tokens : Members → List Token
  | .last label form ending => .string label.name :: (form.tokens ++ [.ending ending])
  | .more label form _ rest => .string label.name :: (form.tokens ++ rest.tokens)

end

namespace Token

/-- A number is not too long. -/
def Sized : Token → Prop
  | .number n => n.Sized
  | _ => True

/-- An ending is one that JSON allows. -/
def Settled : Token → Prop
  | .ending e => e.Settled
  | _ => True

/-- No name comes twice in an object. -/
def Distinct : Token → Prop
  | .names labels => (labels.map Literal.name).Nodup
  | _ => True

end Token

/-! ## Changing strings and endings -/

mutual

/-- The form with other strings and other endings. -/
def Form.map (g : Literal → Literal) (h : Ending → Ending) : Form → Form
  | .word letters v hword => .word letters v hword
  | .number n => .number n
  | .string s => .string (g s)
  | .emptyArray inside => .emptyArray inside
  | .array elements => .array (elements.map g h)
  | .emptyObject inside => .emptyObject inside
  | .object members => .object (members.map g h)

/-- The elements with other strings and other endings. -/
def Elements.map (g : Literal → Literal) (h : Ending → Ending) : Elements → Elements
  | .last before form ending => .last before (form.map g h) (h ending)
  | .more before form behind rest => .more before (form.map g h) behind (rest.map g h)

/-- The members with other strings and other endings. -/
def Members.map (g : Literal → Literal) (h : Ending → Ending) : Members → Members
  | .last label form ending =>
    .last { label with name := g label.name } (form.map g h) (h ending)
  | .more label form behind rest =>
    .more { label with name := g label.name } (form.map g h) behind (rest.map g h)

end

/-- A token with other strings and other endings. -/
def Token.map (g : Literal → Literal) (h : Ending → Ending) : Token → Token
  | .string s => .string (g s)
  | .number n => .number n
  | .ending e => .ending (h e)
  | .names labels => .names (labels.map g)

variable (g : Literal → Literal) (h : Ending → Ending)

theorem Members.labels_map : ∀ members : Members,
    (members.map g h).labels = members.labels.map g
  | .last _ _ _ => by rw [Members.map]; rfl
  | .more _ _ _ rest => by rw [Members.map, labels, labels_map rest]; rfl

mutual

theorem Form.tokens_map : ∀ form : Form, (form.map g h).tokens = form.tokens.map (Token.map g h)
  | .word _ _ _ => by rw [Form.map]; rfl
  | .number _ => by rw [Form.map]; rfl
  | .string _ => by rw [Form.map]; rfl
  | .emptyArray _ => by rw [Form.map]; rfl
  | .array elements => by
    rw [Form.map, Form.tokens, Form.tokens]
    exact Elements.tokens_map elements
  | .emptyObject _ => by rw [Form.map]; rfl
  | .object members => by
    rw [Form.map, Form.tokens, Form.tokens, Members.labels_map, Members.tokens_map members]
    rfl

theorem Elements.tokens_map : ∀ elements : Elements,
    (elements.map g h).tokens = elements.tokens.map (Token.map g h)
  | .last _ form _ => by
    rw [Elements.map, Elements.tokens, Elements.tokens, Form.tokens_map form, List.map_append]
    rfl
  | .more _ form _ rest => by
    rw [Elements.map, Elements.tokens, Elements.tokens, Form.tokens_map form,
      Elements.tokens_map rest, List.map_append]

theorem Members.tokens_map : ∀ members : Members,
    (members.map g h).tokens = members.tokens.map (Token.map g h)
  | .last _ form _ => by
    rw [Members.map, Members.tokens, Members.tokens, Form.tokens_map form, List.map_cons,
      List.map_append]
    rfl
  | .more _ form _ rest => by
    rw [Members.map, Members.tokens, Members.tokens, Form.tokens_map form,
      Members.tokens_map rest, List.map_cons, List.map_append]
    rfl

end

/-! ## When the value stays the same -/

theorem length_setMember_le (name : Name) (v : Value) (members : Value.Members) :
    (Value.setMember name v members).length ≤ members.length + 1 := by
  induction members with
  | nil => exact le_rfl
  | cons m rest ih =>
    rw [Value.setMember]
    split
    · exact Nat.le_succ _
    · exact Nat.succ_le_succ ih

/-- A member that makes an object longer comes last. -/
theorem setMember_of_length {name : Name} {v : Value} {members : Value.Members}
    (h : (Value.setMember name v members).length = members.length + 1) :
    Value.setMember name v members = members ++ [(name, v)] := by
  refine Value.setMember_new fun hmem => ?_
  induction members with
  | nil => cases hmem
  | cons m rest ih =>
    rw [Value.setMember] at h
    split at h
    · simp at h
    · next hne =>
      refine ih (Nat.succ.inj h) ?_
      rw [List.map_cons, List.mem_cons] at hmem
      exact hmem.resolve_left fun heq => hne heq.symm

theorem length_enterAll_le (pairs : List (Name × Value)) (done : Value.Members) :
    (enterAll pairs done).length ≤ done.length + pairs.length := by
  induction pairs generalizing done with
  | nil => exact le_rfl
  | cons m rest ih =>
    have hone := length_setMember_le m.1 m.2 done
    have hmore := ih (Value.setMember m.1 m.2 done)
    rw [List.length_cons]
    exact hmore.trans (by omega)

/-- Where no member takes the place of another, an object has its members as they come. -/
theorem enterAll_of_length {pairs : List (Name × Value)} {done : Value.Members}
    (h : (enterAll pairs done).length = done.length + pairs.length) :
    enterAll pairs done = done ++ pairs := by
  induction pairs generalizing done with
  | nil => exact (List.append_nil done).symm
  | cons m rest ih =>
    have hlength : (enterAll rest (Value.setMember m.1 m.2 done)).length
        = done.length + (rest.length + 1) := h
    have hone := length_setMember_le m.1 m.2 done
    have hmore := length_enterAll_le rest (Value.setMember m.1 m.2 done)
    have hset := setMember_of_length (show (Value.setMember m.1 m.2 done).length = done.length + 1
      by omega)
    rw [hset] at hlength
    have hrest : enterAll rest (done ++ [m]) = done ++ [m] ++ rest := ih (by
      rw [hlength, List.length_append, List.length_singleton]
      omega)
    show enterAll rest (Value.setMember m.1 m.2 done) = _
    rw [hset]
    exact hrest.trans (List.append_assoc _ _ _)

theorem enterAll_of_nodup {pairs : List (Name × Value)} {done : Value.Members}
    (h : ((done ++ pairs).map Prod.fst).Nodup) : enterAll pairs done = done ++ pairs := by
  induction pairs generalizing done with
  | nil => exact (List.append_nil done).symm
  | cons m rest ih =>
    show enterAll rest (Value.setMember m.1 m.2 done) = _
    rw [Value.setMember_new (Value.not_mem_of_nodup h)]
    exact (ih (by rwa [List.append_assoc])).trans (List.append_assoc _ _ _)

theorem Members.map_fst_pairs : ∀ members : Members,
    members.pairs.map Prod.fst = members.labels.map Literal.name
  | .last _ _ _ => by rw [pairs, labels]; rfl
  | .more _ _ _ rest => by rw [pairs, labels, List.map_cons, map_fst_pairs rest]; rfl

/-- A string stands for the same after the change. -/
def Token.Same (g : Literal → Literal) : Token → Prop
  | .string s => (g s).name = s.name
  | _ => True

variable {g h}

mutual

theorem Form.value_map : ∀ form : Form, (∀ token ∈ form.tokens, token.Same g) →
    (form.map g h).value = form.value
  | .word _ _ _, _ => by rw [Form.map]
  | .number _, _ => by rw [Form.map]
  | .string s, hsame => by
    have hname : (g s).name = s.name := hsame (.string s) (List.mem_singleton_self _)
    rw [Form.map, Form.value, Form.value, hname]
  | .emptyArray _, _ => by rw [Form.map]
  | .array elements, hsame => by
    rw [Form.map, Form.value, Form.value, Elements.values_map elements hsame]
  | .emptyObject _, _ => by rw [Form.map]
  | .object members, hsame => by
    rw [Form.map, Form.value, Form.value,
      Members.pairs_map members fun token htoken => hsame token (List.mem_cons_of_mem _ htoken)]

theorem Elements.values_map : ∀ elements : Elements, (∀ token ∈ elements.tokens, token.Same g) →
    (elements.map g h).values = elements.values
  | .last _ form _, hsame => by
    rw [Elements.map, Elements.values, Elements.values,
      Form.value_map form fun token htoken => hsame token (List.mem_append_left _ htoken)]
  | .more _ form _ rest, hsame => by
    rw [Elements.map, Elements.values, Elements.values,
      Form.value_map form fun token htoken => hsame token (List.mem_append_left _ htoken),
      Elements.values_map rest fun token htoken => hsame token (List.mem_append_right _ htoken)]

theorem Members.pairs_map : ∀ members : Members, (∀ token ∈ members.tokens, token.Same g) →
    (members.map g h).pairs = members.pairs
  | .last label form _, hsame => by
    have hname : (g label.name).name = label.name.name := hsame _ List.mem_cons_self
    have hform := Form.value_map form fun token htoken =>
      hsame token (List.mem_cons_of_mem _ (List.mem_append_left _ htoken))
    rw [Members.map, Members.pairs, Members.pairs, hform]
    dsimp only
    rw [hname]
  | .more label form _ rest, hsame => by
    have hname : (g label.name).name = label.name.name := hsame _ List.mem_cons_self
    have hform := Form.value_map form fun token htoken =>
      hsame token (List.mem_cons_of_mem _ (List.mem_append_left _ htoken))
    have hrest := Members.pairs_map rest fun token htoken =>
      hsame token (List.mem_cons_of_mem _ (List.mem_append_right _ htoken))
    rw [Members.map, Members.pairs, Members.pairs, hform, hrest]
    dsimp only
    rw [hname]

end

/-- Objects with names of their own are the same only if their members are. -/
theorem Members.pairs_eq_of_value {members : Members} (hdistinct : (members.labels.map
    Literal.name).Nodup) (heq : enterAll (members.map g h).pairs [] = enterAll members.pairs []) :
    (members.map g h).pairs = members.pairs := by
  have hmembers : enterAll members.pairs [] = members.pairs :=
    enterAll_of_nodup (by rwa [List.nil_append, members.map_fst_pairs])
  have hlength : (members.map g h).pairs.length = members.pairs.length := by
    have hfirst := congrArg List.length (members.map g h).map_fst_pairs
    have hsecond := congrArg List.length members.map_fst_pairs
    rw [labels_map] at hfirst
    simp only [List.length_map] at hfirst hsecond
    exact hfirst.trans hsecond.symm
  have hmapped : enterAll (members.map g h).pairs [] = (members.map g h).pairs :=
    enterAll_of_length (by
      rw [heq, hmembers, hlength]
      exact (Nat.zero_add _).symm)
  rw [← hmapped, heq, hmembers]

theorem toValue_injective {n m : Name} (h : n.toValue = m.toValue) : n = m := by
  cases n <;> cases m <;> cases h <;> rfl

mutual

/-- Where no name comes twice, the value is the same only if every string stands for the same. -/
theorem Form.same_of_value : ∀ form : Form, (∀ token ∈ form.tokens, token.Distinct) →
    (form.map g h).value = form.value → ∀ token ∈ form.tokens, token.Same g
  | .word _ _ _, _, _ => List.forall_mem_nil _
  | .number _, _, _ => by
    simp [Form.tokens, Token.Same]
  | .string s, _, heq => by
    rw [Form.map, Form.value, Form.value] at heq
    intro token htoken
    rw [List.mem_singleton.mp htoken]
    exact toValue_injective heq
  | .emptyArray _, _, _ => List.forall_mem_nil _
  | .array elements, hdistinct, heq => by
    rw [Form.map, Form.value, Form.value] at heq
    exact Elements.same_of_values elements hdistinct (Value.arr.inj heq)
  | .emptyObject _, _, _ => List.forall_mem_nil _
  | .object members, hdistinct, heq => by
    rw [Form.map, Form.value, Form.value] at heq
    obtain ⟨hnames, hmore⟩ := List.forall_mem_cons.mp hdistinct
    have hpairs := Members.pairs_eq_of_value hnames (Value.obj.inj heq)
    exact List.forall_mem_cons.mpr ⟨trivial, Members.same_of_pairs members hmore hpairs⟩

theorem Elements.same_of_values : ∀ elements : Elements,
    (∀ token ∈ elements.tokens, token.Distinct) →
      (elements.map g h).values = elements.values → ∀ token ∈ elements.tokens, token.Same g
  | .last _ form _, hdistinct, heq => by
    rw [Elements.map, Elements.values, Elements.values] at heq
    have hform := Form.same_of_value form
      (fun token htoken => hdistinct token (List.mem_append_left _ htoken)) (List.cons.inj heq).1
    exact List.forall_mem_append.mpr ⟨hform, List.forall_mem_singleton.mpr trivial⟩
  | .more _ form _ rest, hdistinct, heq => by
    rw [Elements.map, Elements.values, Elements.values] at heq
    have hform := Form.same_of_value form
      (fun token htoken => hdistinct token (List.mem_append_left _ htoken)) (List.cons.inj heq).1
    have hrest := Elements.same_of_values rest
      (fun token htoken => hdistinct token (List.mem_append_right _ htoken)) (List.cons.inj heq).2
    exact List.forall_mem_append.mpr ⟨hform, hrest⟩

theorem Members.same_of_pairs : ∀ members : Members,
    (∀ token ∈ members.tokens, token.Distinct) →
      (members.map g h).pairs = members.pairs → ∀ token ∈ members.tokens, token.Same g
  | .last _ form _, hdistinct, heq => by
    rw [Members.map, Members.pairs, Members.pairs] at heq
    obtain ⟨hname, hvalue⟩ := Prod.mk.inj (List.cons.inj heq).1
    have hform := Form.same_of_value form (fun token htoken =>
      hdistinct token (List.mem_cons_of_mem _ (List.mem_append_left _ htoken))) hvalue
    exact List.forall_mem_cons.mpr ⟨hname, List.forall_mem_append.mpr
      ⟨hform, List.forall_mem_singleton.mpr trivial⟩⟩
  | .more _ form _ rest, hdistinct, heq => by
    rw [Members.map, Members.pairs, Members.pairs] at heq
    obtain ⟨hname, hvalue⟩ := Prod.mk.inj (List.cons.inj heq).1
    have hform := Form.same_of_value form (fun token htoken =>
      hdistinct token (List.mem_cons_of_mem _ (List.mem_append_left _ htoken))) hvalue
    have hrest := Members.same_of_pairs rest (fun token htoken =>
      hdistinct token (List.mem_cons_of_mem _ (List.mem_append_right _ htoken)))
      (List.cons.inj heq).2
    exact List.forall_mem_cons.mpr ⟨hname, List.forall_mem_append.mpr ⟨hform, hrest⟩⟩

end

/-! ## Documents -/

/-- A form with space around it. -/
structure Document where
  before : Space
  form : Form
  behind : Space

/-- The text of a document. -/
def Document.text (d : Document) : Text := d.before.text ++ (d.form.text ++ d.behind.text)

end Json

end GhostEdit
