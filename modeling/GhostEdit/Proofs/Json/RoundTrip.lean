import GhostEdit.Proofs.Json.Numbers
import GhostEdit.Proofs.Json.Strings

/-!
# A value is read as it was written

The reader takes the text behind a value along, so what is shown for a value is that it is read
back whatever follows, as long as a number could not go on there. With that, arrays and objects are
read element by element and member by member, and every two steps of the reader take a character.

## Main definitions

* `Value.IsJson`: a value that JSON can tell
* `Json.ReadBack`: a value is read from what is written, whatever follows
* `Json.Plain`: printable characters of the seven-bit code

## Main results

* `Json.readBack_render`, `Json.decode_render`: decoding undoes writing
* `Json.plain_render`: what is written is plain
-/

namespace GhostEdit

/-- A value that JSON can tell: no date or time, no pair of halves, no name twice, no integer with
more digits than are read, and of the numbers that are no number the usual one. -/
inductive Value.IsJson : Value → Prop
  | null : IsJson .null
  | bool (b : Bool) : IsJson (.bool b)
  | int {n : Int} (h : (Nat.toDigits 10 n.natAbs).length ≤ Json.digitLimit) : IsJson (.int n)
  | float {x : Binary64} (h : x.isNaN = true → x = Binary64.nan) : IsJson (.float x)
  | str (t : Text) : IsJson (.str t)
  | codes {points : List Nat} (h : (Name.codes points).IsJson) : IsJson (.codes points)
  | arr {elements : List Value} (h : ∀ v ∈ elements, IsJson v) : IsJson (.arr elements)
  | obj {members : Members} (hdistinct : (members.map Prod.fst).Nodup)
    (hnames : ∀ m ∈ members, m.1.IsJson) (h : ∀ m ∈ members, IsJson m.2) : IsJson (.obj members)

/-- Where no name comes twice, the next member has a new one. -/
theorem Value.not_mem_of_nodup {done rest : Members} {m : Name × Value}
    (h : ((done ++ m :: rest).map Prod.fst).Nodup) : m.1 ∉ done.map Prod.fst := by
  rw [List.map_append, List.map_cons, List.nodup_middle] at h
  exact fun hm => (List.nodup_cons.mp h).1 (List.mem_append_left _ hm)

/-- A member with a new name comes last. -/
theorem Value.setMember_new {name : Name} {v : Value} {members : Members}
    (h : name ∉ members.map Prod.fst) : setMember name v members = members ++ [(name, v)] := by
  induction members with
  | nil => rfl
  | cons m rest ih =>
    simp only [List.map_cons, List.mem_cons, not_or] at h
    rw [setMember, if_neg (Ne.symm h.1), ih h.2]
    rfl

namespace Json

/-- The value of what is written is read, whatever follows. -/
def ReadBack (written : Text) (v : Value) : Prop :=
  ∀ fuel rest, Stops rest → 2 * written.length ≤ fuel →
    readValue fuel (written ++ rest) = .ok (v, rest)

/-- What a value starts with. -/
structure Opens (c : Char) : Prop where
  space : isSpace c = false
  bracket : c ≠ ']'
  mark : c ≠ '\ufeff'

theorem opens_of_readValue {fuel : Nat} {t rest : Text} {v : Value}
    (h : readValue fuel t = .ok (v, rest)) : ∃ c more, t = c :: more ∧ Opens c := by
  cases fuel with
  | zero => cases h
  | succ fuel =>
    cases t with
    | nil => cases h
    | cons c more =>
      refine ⟨c, more, rfl, ?_, ?_, ?_⟩
      · by_contra hspace
        simp only [isSpace, Bool.not_eq_false, Bool.or_eq_true, decide_eq_true_eq] at hspace
        rcases hspace with ((rfl | rfl) | rfl) | rfl <;> cases h
      · rintro rfl
        cases h
      · rintro rfl
        cases h

theorem skipSpace_cons {c : Char} (h : isSpace c = false) (t : Text) :
    skipSpace (c :: t) = c :: t := List.dropWhile_cons_of_neg (by simp [h])

theorem ReadBack.opens {written : Text} {v : Value} (h : ReadBack written v) :
    ∃ c more, written = c :: more ∧ Opens c := by
  have hread := h _ [] stops_nil le_rfl
  rw [List.append_nil] at hread
  exact opens_of_readValue hread

/-! ## Arrays and objects -/

theorem stops_comma (t : Text) : Stops (',' :: t) := stops_cons (by decide)

theorem stops_bracket (t : Text) : Stops (']' :: t) := stops_cons (by decide)

theorem stops_brace (t : Text) : Stops ('\x7d' :: t) := stops_cons (by decide)

theorem renderElements_cons (v w : Value) (rest : List Value) :
    renderElements (v :: w :: rest) = render v ++ ',' :: ' ' :: renderElements (w :: rest) := by
  rw [renderElements]
  exact List.cons_ne_nil w rest

theorem renderElements_opens {v : Value} (h : ReadBack (render v) v) (rest : List Value) :
    ∃ c more, renderElements (v :: rest) = c :: more ∧ Opens c := by
  obtain ⟨c, more, hrender, hopens⟩ := h.opens
  cases rest with
  | nil => exact ⟨c, more, hrender, hopens⟩
  | cons w rest => exact ⟨c, _, by rw [renderElements_cons, hrender]; rfl, hopens⟩

/-- **Elements are read as they were written**, up to the bracket behind them. -/
theorem readElements_render {v : Value} {rest : List Value}
    (h : ∀ w ∈ v :: rest, ReadBack (render w) w) {fuel : Nat}
    (hfuel : 2 * (renderElements (v :: rest)).length + 1 ≤ fuel) (done : List Value) (tail : Text) :
    readElements fuel done (renderElements (v :: rest) ++ ']' :: tail)
      = .ok (.arr (done.reverse ++ v :: rest), tail) := by
  obtain ⟨fuel, rfl⟩ := Nat.exists_eq_add_one_of_ne_zero (show fuel ≠ 0 by omega)
  induction rest generalizing v fuel done with
  | nil =>
    have hread := h v List.mem_cons_self fuel (']' :: tail) (stops_bracket tail)
      (by rw [renderElements] at hfuel; omega)
    rw [renderElements, readElements, hread]
    simp [skipSpace_cons (show isSpace ']' = false from rfl), bind, Except.bind]
  | cons w rest ih =>
    have hlength : (renderElements (v :: w :: rest)).length
        = (render v).length + 2 + (renderElements (w :: rest)).length := by
      rw [renderElements_cons, List.length_append, List.length_cons, List.length_cons]
      omega
    rw [hlength] at hfuel
    obtain ⟨fuel, rfl⟩ := Nat.exists_eq_add_one_of_ne_zero (show fuel ≠ 0 by omega)
    have hread := h v List.mem_cons_self (fuel + 1)
      (',' :: ' ' :: (renderElements (w :: rest) ++ ']' :: tail)) (stops_comma _) (by omega)
    have hmore := ih (fun u hu => h u (List.mem_cons_of_mem v hu)) (v :: done) fuel (by omega)
    obtain ⟨c, more, hw, hopens⟩ :=
      renderElements_opens (h w (List.mem_cons_of_mem v List.mem_cons_self)) rest
    have hskip : skipSpace (' ' :: (renderElements (w :: rest) ++ ']' :: tail))
        = renderElements (w :: rest) ++ ']' :: tail := by
      rw [hw]
      exact skipSpace_cons hopens.space _
    have hwritten : renderElements (v :: w :: rest) ++ ']' :: tail
        = render v ++ ',' :: ' ' :: (renderElements (w :: rest) ++ ']' :: tail) := by
      rw [renderElements_cons, List.append_assoc]
      rfl
    rw [hwritten, readElements, hread]
    simp only [bind, Except.bind, skipSpace_cons (show isSpace ',' = false from rfl)]
    rw [hskip, hmore, List.reverse_cons, List.append_assoc]
    rfl

theorem readBack_arr {elements : List Value} (h : ∀ v ∈ elements, ReadBack (render v) v) :
    ReadBack (render (.arr elements)) (.arr elements) := by
  intro fuel rest hrest hfuel
  have hlength : (render (.arr elements)).length = (renderElements elements).length + 2 := by
    rw [render, List.cons_append, List.length_cons, List.length_append, List.length_singleton]
  have hwritten : render (.arr elements) ++ rest
      = '[' :: (renderElements elements ++ ']' :: rest) := by
    rw [render, List.cons_append, List.cons_append, List.append_assoc]
    rfl
  obtain ⟨fuel, rfl⟩ := Nat.exists_eq_add_one_of_ne_zero (show fuel ≠ 0 by omega)
  rw [hwritten]
  cases elements with
  | nil => rfl
  | cons v more =>
    have hread := readElements_render h (show _ ≤ fuel by omega) [] rest
    obtain ⟨c, t, hv, hopens⟩ := renderElements_opens (h v List.mem_cons_self) more
    rw [hv] at hread ⊢
    rw [readValue, List.cons_append, skipSpace_cons hopens.space]
    split
    · next heq =>
      cases heq
      exact absurd rfl hopens.bracket
    · exact hread

/-- One member is read as it was written, and what follows it decides how it goes on. -/
theorem readMembers_member {name : Name} {v : Value} (hname : name.IsJson)
    (h : ReadBack (render v) v) {fuel : Nat} (hfuel : 2 * (render v).length ≤ fuel)
    (done : Value.Members) {tail : Text} (htail : Stops tail) :
    readMembers (fuel + 1) done (renderName name ++ ':' :: ' ' :: (render v ++ tail))
      = match skipSpace tail with
        | '\x7d' :: after => .ok (.obj (Value.setMember name v done), after)
        | ',' :: after => readMembers fuel (Value.setMember name v done) (skipSpace after)
        | other => .error (.flawed .comma other) := by
  obtain ⟨body, hbody, hread⟩ := exists_renderName hname
  obtain ⟨c, more, hv, hopens⟩ := h.opens
  have hskip : skipSpace (' ' :: (render v ++ tail)) = render v ++ tail := by
    rw [hv]
    exact skipSpace_cons hopens.space _
  rw [hbody, List.cons_append, readMembers, hread]
  simp only [bind, Except.bind, skipSpace_cons (show isSpace ':' = false from rfl)]
  rewrite [hskip, h fuel tail htail hfuel]
  -- what is left distinguishes the same cases on both sides
  rfl

theorem renderMembers_singleton (m : Name × Value) (tail : Text) :
    renderMembers [m] ++ tail = renderName m.1 ++ ':' :: ' ' :: (render m.2 ++ tail) := by
  simp [renderMembers]

theorem renderMembers_cons (m n : Name × Value) (rest : List (Name × Value)) (tail : Text) :
    renderMembers (m :: n :: rest) ++ tail
      = renderName m.1 ++ ':' :: ' ' :: (render m.2
        ++ ',' :: ' ' :: (renderMembers (n :: rest) ++ tail)) := by
  obtain ⟨name, v⟩ := m
  simp [renderMembers]

theorem exists_renderMembers {m : Name × Value} (hname : m.1.IsJson)
    (rest : List (Name × Value)) (tail : Text) :
    ∃ more, renderMembers (m :: rest) ++ tail = '"' :: more := by
  obtain ⟨body, hbody, -⟩ := exists_renderName hname
  cases rest with
  | nil =>
    rw [renderMembers_singleton, hbody]
    exact ⟨_, rfl⟩
  | cons n rest =>
    rw [renderMembers_cons, hbody]
    exact ⟨_, rfl⟩

/-- **Members are read as they were written**, up to the brace behind them. -/
theorem readMembers_render {m : Name × Value} {rest : List (Name × Value)}
    (hnames : ∀ n ∈ m :: rest, n.1.IsJson) (h : ∀ n ∈ m :: rest, ReadBack (render n.2) n.2)
    {fuel : Nat} (hfuel : 2 * (renderMembers (m :: rest)).length + 1 ≤ fuel)
    (done : Value.Members) (hdistinct : ((done ++ m :: rest).map Prod.fst).Nodup) (tail : Text) :
    readMembers fuel done (renderMembers (m :: rest) ++ '\x7d' :: tail)
      = .ok (.obj (done ++ m :: rest), tail) := by
  obtain ⟨fuel, rfl⟩ := Nat.exists_eq_add_one_of_ne_zero (show fuel ≠ 0 by omega)
  induction rest generalizing m fuel done with
  | nil =>
    have hlength := congrArg List.length (renderMembers_singleton m [])
    simp only [List.append_nil, List.length_append, List.length_cons] at hlength
    have hnew := Value.not_mem_of_nodup hdistinct
    rw [renderMembers_singleton, readMembers_member (hnames m List.mem_cons_self)
      (h m List.mem_cons_self) (by omega) done (stops_brace tail), Value.setMember_new hnew]
    rfl
  | cons n rest ih =>
    have hlength := congrArg List.length (renderMembers_cons m n rest [])
    simp only [List.append_nil, List.length_append, List.length_cons] at hlength
    have hnew := Value.not_mem_of_nodup hdistinct
    obtain ⟨fuel, rfl⟩ := Nat.exists_eq_add_one_of_ne_zero (show fuel ≠ 0 by omega)
    have hmore := ih (fun o ho => hnames o (List.mem_cons_of_mem m ho))
      (fun o ho => h o (List.mem_cons_of_mem m ho)) (done ++ [m])
      (by rwa [List.append_assoc]) fuel (by omega)
    obtain ⟨more, hopen⟩ := exists_renderMembers
      (hnames n (List.mem_cons_of_mem m List.mem_cons_self)) rest ('\x7d' :: tail)
    have hskip : skipSpace (' ' :: (renderMembers (n :: rest) ++ '\x7d' :: tail))
        = renderMembers (n :: rest) ++ '\x7d' :: tail := by
      rw [hopen]
      exact skipSpace_cons (show isSpace '"' = false from rfl) _
    rw [renderMembers_cons, readMembers_member (hnames m List.mem_cons_self)
      (h m List.mem_cons_self) (by omega) done (stops_comma _), Value.setMember_new hnew,
      skipSpace_cons (show isSpace ',' = false from rfl)]
    show readMembers _ _ (skipSpace (' ' :: _)) = _
    rw [hskip, hmore, List.append_assoc]
    rfl

theorem readBack_obj {members : Value.Members} (hdistinct : (members.map Prod.fst).Nodup)
    (hnames : ∀ m ∈ members, m.1.IsJson) (h : ∀ m ∈ members, ReadBack (render m.2) m.2) :
    ReadBack (render (.obj members)) (.obj members) := by
  intro fuel rest hrest hfuel
  have hlength : (render (.obj members)).length = (renderMembers members).length + 2 := by
    rw [render, List.cons_append, List.length_cons, List.length_append, List.length_singleton]
  have hwritten : render (.obj members) ++ rest
      = '\x7b' :: (renderMembers members ++ '\x7d' :: rest) := by
    rw [render, List.cons_append, List.cons_append, List.append_assoc]
    rfl
  obtain ⟨fuel, rfl⟩ := Nat.exists_eq_add_one_of_ne_zero (show fuel ≠ 0 by omega)
  rw [hwritten]
  cases members with
  | nil => rfl
  | cons m more =>
    have hread := readMembers_render hnames h (show _ ≤ fuel by omega) [] hdistinct rest
    obtain ⟨t, hopen⟩ := exists_renderMembers (hnames m List.mem_cons_self) more ('\x7d' :: rest)
    rw [hopen] at hread ⊢
    exact hread

/-! ## Values -/

theorem readBack_of_succ {written : Text} {v : Value}
    (h : ∀ fuel rest, Stops rest → readValue (fuel + 1) (written ++ rest) = .ok (v, rest)) :
    ReadBack written v := by
  intro fuel rest hrest hfuel
  obtain ⟨c, more, hwritten, -⟩ := opens_of_readValue (h 0 [] stops_nil)
  rw [List.append_nil] at hwritten
  rw [hwritten, List.length_cons] at hfuel
  obtain ⟨fuel, rfl⟩ := Nat.exists_eq_add_one_of_ne_zero (show fuel ≠ 0 by omega)
  exact h fuel rest hrest

theorem readBack_name {name : Name} (h : name.IsJson) :
    ReadBack (renderName name) name.toValue := by
  refine readBack_of_succ fun fuel rest _ => ?_
  obtain ⟨body, hbody, hread⟩ := exists_renderName h
  rw [hbody, List.cons_append, readValue, hread]
  rfl

/-- **A value is read as it was written**, whatever follows. -/
theorem readBack_render {v : Value} (h : v.IsJson) : ReadBack (render v) v := by
  induction h with
  | null => exact readBack_of_succ fun _ _ _ => rfl
  | bool b => cases b <;> exact readBack_of_succ fun _ _ _ => rfl
  | int h => exact readBack_of_succ fun fuel _ hrest => readValue_int h hrest fuel
  | float h => exact readBack_of_succ fun fuel _ hrest => readValue_float h hrest fuel
  | str t =>
    have hname : (Name.text t).IsJson := trivial
    exact readBack_name hname
  | codes h => exact readBack_name h
  | arr _ ih => exact readBack_arr ih
  | obj hdistinct hnames _ ih => exact readBack_obj hdistinct hnames ih

/-- **Decoding undoes writing.** -/
theorem decode_render {v : Value} (h : v.IsJson) : decode (render v) = .ok v := by
  have hback := readBack_render h
  have hread := hback (2 * (render v).length + 2) [] stops_nil (by omega)
  obtain ⟨c, more, hv, hopens⟩ := hback.opens
  rw [List.append_nil] at hread
  rw [hv] at hread ⊢
  rw [decode.eq_def]
  split
  · next heq =>
    cases heq
    exact absurd rfl hopens.mark
  · rw [skipSpace_cons hopens.space, hread]
    rfl

/-! ## Characters -/

/-- A text of printable characters of the seven-bit code. -/
def Plain (t : Text) : Prop := ∀ c ∈ t, 32 ≤ c.toNat ∧ c.toNat < 127

instance (t : Text) : Decidable (Plain t) :=
  List.decidableBAll _ t

theorem plain_nil : Plain [] := fun _ hc => nomatch hc

theorem plain_cons {c : Char} {t : Text} :
    Plain (c :: t) ↔ (32 ≤ c.toNat ∧ c.toNat < 127) ∧ Plain t := List.forall_mem_cons

theorem plain_append {t t' : Text} : Plain (t ++ t') ↔ Plain t ∧ Plain t' :=
  List.forall_mem_append

theorem Plain.flatMap {α : Type} {f : α → Text} {l : List α} (h : ∀ a ∈ l, Plain (f a)) :
    Plain (l.flatMap f) := by
  intro c hc
  obtain ⟨a, ha, hca⟩ := List.mem_flatMap.mp hc
  exact h a ha c hca

theorem Numerals.plain {t : Text} (h : Numerals t) : Plain t := by
  intro c hc
  have hnumeral := h c hc
  rw [isNumeral, Bool.and_eq_true, decide_eq_true_eq, decide_eq_true_eq] at hnumeral
  have hlow : '0'.toNat ≤ c.toNat := hnumeral.1
  have hhigh : c.toNat ≤ '9'.toNat := hnumeral.2
  have h0 : '0'.toNat = 48 := rfl
  have h9 : '9'.toNat = 57 := rfl
  omega

theorem plain_signed {t : Text} (h : Plain t) (negative : Bool) : Plain (signed negative t) := by
  cases negative with
  | false => exact h
  | true => exact plain_cons.mpr ⟨by decide, h⟩

theorem States.plain {t : Text} {d : Binary64.Decimal} (h : States t d) : Plain t := by
  obtain ⟨whole, fraction, power, e, rfl, hwhole, hfraction, hpower, -, -⟩ := h
  have hpointed : Plain (pointed fraction) := by
    rw [pointed]
    split
    · exact plain_nil
    · exact plain_cons.mpr ⟨by decide, hfraction.plain⟩
  have hpower : Plain power := by
    cases hpower with
    | none => exact plain_nil
    | some negative _ hall =>
      refine plain_cons.mpr ⟨by decide, plain_cons.mpr ⟨?_, hall.plain⟩⟩
      cases negative <;> decide
  exact plain_append.mpr ⟨hwhole.numerals.plain, plain_append.mpr ⟨hpointed, hpower⟩⟩

theorem plain_renderFloat (x : Binary64) : Plain (renderFloat x) := by
  rw [renderFloat]
  split
  · decide
  · split
    · next hfinite =>
      rw [toList_render hfinite]
      refine plain_signed ?_ _
      split
      · decide
      · next hne =>
        obtain ⟨m, s, hscaled⟩ := x.exists_scaled
        exact (states_render (Binary64.holds_shortest hscaled (Nat.pos_of_ne_zero hne)).2).plain
    · split <;> decide

theorem plain_digitChar :
    ∀ d < 16, 32 ≤ (Nat.digitChar d).toNat ∧ (Nat.digitChar d).toNat < 127 := by decide

theorem plain_codeEscape {n : Nat} (h : n < 0x10000) : Plain (codeEscape n) := by
  rw [codeEscape_eq h]
  simp only [plain_cons]
  refine ⟨by decide, by decide, ?_, ?_, ?_, ?_, plain_nil⟩ <;>
    exact plain_digitChar _ (by omega)

theorem plain_escapeChar (c : Char) : Plain (escapeChar c) := by
  have hvalid : c.toNat < 0xd800 ∨ 0xdfff < c.toNat ∧ c.toNat < 0x110000 := c.valid
  rw [escapeChar.eq_def]
  split
  all_goals try decide
  dsimp only
  split
  · next h => exact plain_cons.mpr ⟨⟨h.1, h.2⟩, plain_nil⟩
  · split
    · next h => exact plain_codeEscape h
    · exact plain_append.mpr ⟨plain_codeEscape (by omega), plain_codeEscape (by omega)⟩

theorem plain_quoted {t : Text} (h : Plain t) : Plain ('"' :: t ++ ['"']) :=
  plain_cons.mpr ⟨by decide, plain_append.mpr ⟨h, by decide⟩⟩

theorem plain_renderName {name : Name} (h : name.IsJson) : Plain (renderName name) := by
  cases name with
  | text t => exact plain_quoted (.flatMap fun c _ => plain_escapeChar c)
  | codes points =>
    refine plain_quoted (.flatMap fun n hn => ?_)
    have hrange := h.1 n hn
    split
    · exact plain_escapeChar _
    · next hhalf =>
      have hhalf : ¬ (n < 0xd800 ∨ 0xdfff < n ∧ n < 0x110000) := hhalf
      exact plain_codeEscape (by omega)

theorem plain_renderElements {elements : List Value} (h : ∀ v ∈ elements, Plain (render v)) :
    Plain (renderElements elements) := by
  induction elements with
  | nil => exact plain_nil
  | cons v rest ih =>
    have hrest := ih fun w hw => h w (List.mem_cons_of_mem v hw)
    have hv := h v List.mem_cons_self
    cases rest with
    | nil => exact hv
    | cons w rest =>
      rw [renderElements_cons]
      exact plain_append.mpr ⟨hv, plain_cons.mpr ⟨by decide, plain_cons.mpr ⟨by decide, hrest⟩⟩⟩

theorem plain_renderMembers {members : Value.Members} (hnames : ∀ m ∈ members, m.1.IsJson)
    (h : ∀ m ∈ members, Plain (render m.2)) : Plain (renderMembers members) := by
  induction members with
  | nil => exact plain_nil
  | cons m rest ih =>
    have hrest := ih (fun n hn => hnames n (List.mem_cons_of_mem m hn))
      fun n hn => h n (List.mem_cons_of_mem m hn)
    have hname := plain_renderName (hnames m List.mem_cons_self)
    have hv := h m List.mem_cons_self
    cases rest with
    | nil =>
      have hwritten := renderMembers_singleton m []
      rw [List.append_nil, List.append_nil] at hwritten
      rw [hwritten]
      exact plain_append.mpr ⟨hname, plain_cons.mpr ⟨by decide, plain_cons.mpr ⟨by decide, hv⟩⟩⟩
    | cons n rest =>
      have hwritten := renderMembers_cons m n rest []
      rw [List.append_nil, List.append_nil] at hwritten
      rw [hwritten]
      exact plain_append.mpr ⟨hname, plain_cons.mpr ⟨by decide, plain_cons.mpr ⟨by decide,
        plain_append.mpr ⟨hv, plain_cons.mpr ⟨by decide, plain_cons.mpr ⟨by decide, hrest⟩⟩⟩⟩⟩⟩

/-- **What is written is plain**: no line feed is among it, whatever the strings hold. -/
theorem plain_render {v : Value} (h : v.IsJson) : Plain (render v) := by
  induction h with
  | null => decide
  | bool b => cases b <;> decide
  | @int n _ =>
    rw [render, renderInt_eq]
    exact plain_signed (numerals_toDigits n.natAbs).plain _
  | @float x _ => exact plain_renderFloat x
  | str t => exact plain_quoted (.flatMap fun c _ => plain_escapeChar c)
  | codes h => exact plain_renderName h
  | arr _ ih =>
    exact plain_cons.mpr ⟨by decide, plain_append.mpr ⟨plain_renderElements ih, by decide⟩⟩
  | obj _ hnames _ ih =>
    exact plain_cons.mpr ⟨by decide, plain_append.mpr ⟨plain_renderMembers hnames ih, by decide⟩⟩

end Json

end GhostEdit
