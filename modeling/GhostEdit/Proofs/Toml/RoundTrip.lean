import GhostEdit.Proofs.Toml.Tables
import GhostEdit.Proofs.Toml.Values

/-!
# A TOML document is read as it was written

A table is written as a section: its head, a line for each plain member, and then the sections of
its tables, which have longer keys. Reading takes one statement after the other from one state to
the next (`Runs`), so the pieces of a document compose. What a section does to the members is one
change under its key; besides, the reader remembers which keys were opened and which hold arrays,
and what it remembers while it reads a section lies at or below the key of that section (`Grows`).
That keeps sections with different keys out of each other's way.

## Main definitions

* `Toml.IsTable`: a table that can be written in sections
* `Toml.Runs`: statements that take the reader from one state to another

## Main results

* `Toml.runs_table`: the sections of a table are read as they were written
* `Toml.read?_render`: a document is read as it was written
-/

namespace GhostEdit

namespace Toml

/-- A table as an entry under its name. -/
def tableEntry (m : Text × List (Text × Value)) : Text × Value := (m.1, .obj (named m.2))

/-- A table that can be written in sections: its plain members come before its tables, and no name
comes twice. -/
inductive IsTable : List (Text × Value) → Prop
  | mk {plain : List (Text × Value)} {tables : List (Text × List (Text × Value))}
    (hplain : ∀ m ∈ plain, m.2.IsToml) (htables : ∀ m ∈ tables, IsTable m.2)
    (hdistinct : ((plain.map Prod.fst) ++ tables.map Prod.fst).Nodup) :
    IsTable (plain ++ tables.map tableEntry)

/-- Entries with one kind of what is no number. -/
def settled (entries : List (Text × Value)) : List (Text × Value) :=
  entries.map fun m => (m.1, settle m.2)

theorem settleMembers_named (entries : List (Text × Value)) :
    settleMembers (named entries) = named (settled entries) := by
  rw [settleMembers_eq_map, named, named, settled, List.map_map, List.map_map]
  rfl

theorem settled_append (entries more : List (Text × Value)) :
    settled (entries ++ more) = settled entries ++ settled more := List.map_append

/-- A settled table is the table of what is settled. -/
theorem settled_tables (tables : List (Text × List (Text × Value))) :
    settled (tables.map tableEntry) = tables.map fun m => tableEntry (m.1, settled m.2) := by
  rw [settled, List.map_map]
  refine List.map_congr_left fun m _ => ?_
  simp only [Function.comp, tableEntry, settle, settleMembers_named]

/-! ## Statements -/

/-- Statements without a carriage return take the reader from one state to another, whatever
follows them. -/
def Runs (written : Text) (s s' : State) : Prop :=
  '\r' ∉ written ∧ ∃ n ≤ written.length, ∀ fuel rest,
    statements? (fuel + n) s (written ++ rest) = statements? fuel s' rest

theorem Runs.refl (s : State) : Runs [] s s := ⟨nofun, 0, Nat.le_refl _, fun _ _ => rfl⟩

theorem Runs.append {w w' : Text} {s s' s'' : State} (h : Runs w s s') (h' : Runs w' s' s'') :
    Runs (w ++ w') s s'' := by
  obtain ⟨hreturn, n, hn, hrun⟩ := h
  obtain ⟨hreturn', n', hn', hrun'⟩ := h'
  refine ⟨by simp [hreturn, hreturn'], n' + n, ?_, fun fuel rest => ?_⟩
  · rw [List.length_append]
    omega
  · rw [List.append_assoc, ← Nat.add_assoc, hrun, hrun']

theorem runs_blank (s : State) : Runs ['\n'] s s := by
  refine ⟨by decide, 1, Nat.le_refl _, fun fuel rest => ?_⟩
  rw [List.cons_append, List.nil_append, statements?,
    skipBlank_cons (by decide) (by decide)]
  rfl

/-- Parts that take the reader from one state to another, one after the other. -/
inductive RunsAll : List Text → State → State → Prop
  | nil (s : State) : RunsAll [] s s
  | cons {part : Text} {parts : List Text} {s s' s'' : State} (h : Runs part s s')
    (hparts : RunsAll parts s' s'') : RunsAll (part :: parts) s s''

theorem RunsAll.append {parts more : List Text} {s s' s'' : State} (h : RunsAll parts s s')
    (h' : RunsAll more s' s'') : RunsAll (parts ++ more) s s'' := by
  induction h with
  | nil => exact h'
  | cons h _ ih => exact .cons h (ih h')

/-- Parts may stand apart by empty lines. -/
theorem RunsAll.join {parts : List Text} {s s' : State} (h : RunsAll parts s s') :
    Runs (Text.join ['\n'] parts) s s' := by
  induction h with
  | nil s => exact .refl s
  | cons h hparts ih =>
    cases hparts with
    | nil => exact h
    | cons =>
      rw [Text.join_cons_cons]
      exact (h.append (runs_blank _)).append ih

/-- One statement with the end of its line. -/
theorem runs_statement {c : Char} {more : Text} {s s' : State}
    (hc : c ≠ ' ' ∧ c ≠ '\t' ∧ c ≠ '\n') (hreturn : '\r' ∉ c :: more)
    (h : ∀ rest, statement? s (c :: (more ++ '\n' :: rest)) = some (s', '\n' :: rest)) :
    Runs (c :: (more ++ ['\n'])) s s' := by
  refine ⟨?_, 1, Nat.succ_pos _, fun fuel rest => ?_⟩
  · simpa using hreturn
  · rw [List.cons_append, List.append_assoc, List.cons_append, List.nil_append, statements?,
      skipBlank_cons hc.1 hc.2.1]
    split
    · next heq => cases heq
    · next heq => exact absurd (List.cons.inj heq).1 hc.2.2
    · next heq =>
      have hend : skipComment? (skipBlank ('\n' :: rest)) = some ('\n' :: rest) := rfl
      simp only [h rest, bind, Option.bind_some, hend]

/-! ## What is written has no carriage return -/

theorem noReturn_of_plain {t : Text} (h : Json.Plain t) : '\r' ∉ t := by
  intro hmem
  have hrange := h _ hmem
  exact absurd hrange.1 (by decide)

theorem noReturn_escapedChar (c : Char) : '\r' ∉ escapedChar c := by
  rw [escapedChar.eq_def]
  split
  case h_7 hreturn _ _ =>
    split
    · next hnumber =>
      have hsmall : c.toNat < 128 := by
        simp only [Bool.or_eq_true, Bool.and_eq_true, decide_eq_true_eq] at hnumber
        omega
      have hdigits : ∀ d < 16, Nat.digitChar d ≠ '\r' := by decide
      rw [hexPadded_small _ hsmall]
      have hhigh := hdigits (c.toNat / 16) (by omega)
      have hlow := hdigits (c.toNat % 16) (by omega)
      simp [hhigh.symm, hlow.symm]
    · simpa using Ne.symm hreturn
  all_goals decide

theorem noReturn_renderString (t : Text) : '\r' ∉ renderString t := by
  have hbody : '\r' ∉ t.flatMap escapedChar := by
    intro hmem
    obtain ⟨c, -, hc⟩ := List.mem_flatMap.mp hmem
    exact noReturn_escapedChar c hc
  simp [renderString, hbody]

theorem noReturn_renderKey (part : Text) : '\r' ∉ renderKey (.text part) := by
  obtain ⟨hrender, -, hbare⟩ | hrender := renderKey_text part
  · rw [hrender]
    exact fun hmem => absurd (List.all_eq_true.mp hbare _ hmem) (by decide)
  · rw [hrender]
    exact noReturn_renderString part

theorem noReturn_dotted (key : Key) : '\r' ∉ dotted key := by
  induction key with
  | nil => exact List.not_mem_nil
  | cons part more ih =>
    cases more with
    | nil => exact noReturn_renderKey part
    | cons next more =>
      rw [dotted_cons_cons]
      simp [noReturn_renderKey part, ih]

theorem plain_render (x : Binary64) : Json.Plain x.render.toList := by
  by_cases hfinite : x.isFinite = true
  · obtain ⟨t, d, hrender, hstates, -⟩ := Json.exists_states hfinite
    rw [hrender]
    exact Json.plain_signed hstates.plain _
  · by_cases hnan : x.isNaN = true
    · rw [Binary64.render, if_pos hnan]
      decide
    · rw [render_infinite (by simpa using hnan) (by simpa using hfinite)]
      cases x.isNegative <;> decide

theorem noReturn_renderElements {depth : Nat} {elements : List Value}
    (h : ∀ v ∈ elements, '\r' ∉ renderValue depth v) : '\r' ∉ renderElements depth elements := by
  have hindent : '\r' ∉ indent depth := fun hmem =>
    absurd (List.eq_of_mem_replicate hmem) (by decide)
  induction elements with
  | nil => exact List.not_mem_nil
  | cons v rest ih =>
    have hv := h v List.mem_cons_self
    have hrest := ih fun w hw => h w (List.mem_cons_of_mem v hw)
    simp [renderElements, hindent, hv, hrest]

theorem noReturn_renderValue {v : Value} (h : v.IsToml) (depth : Nat) :
    '\r' ∉ renderValue depth v := by
  induction h generalizing depth with
  | bool b => cases b <;> rw [renderValue] <;> decide
  | @int n _ =>
    have hplain := Json.plain_signed (Json.numerals_toDigits n.natAbs).plain (n < 0)
    rw [← Json.renderInt_eq] at hplain
    exact noReturn_of_plain hplain
  | float x => exact noReturn_of_plain (plain_render x)
  | str t => exact noReturn_renderString t
  | @arr elements _ ih =>
    have hindent : '\r' ∉ indent depth :=
      fun hmem => absurd (List.eq_of_mem_replicate hmem) (by decide)
    cases elements with
    | nil =>
      rw [renderValue]
      decide
    | cons v rest =>
      have hrest := noReturn_renderElements fun w hw => ih w hw (depth + 1)
      simp [renderValue, hindent, hrest]

/-! ## What the reader remembers -/

/-- Nothing is remembered about a key, or about what lies below it, and no array stands above it. -/
structure Fresh (s : State) (key : Key) : Prop where
  opened : ∀ k ∈ s.opened, ¬ key <+: k
  closed : ∀ k ∈ s.closed, ¬ k <+: key ∧ ¬ key <+: k
  pending : s.pending = []

/-- What is remembered about a table that is being read lies under the names used so far. -/
structure Clear (s : State) (key : Key) (used : List Text) : Prop where
  opened : ∀ k ∈ s.opened, key <+: k → k = key ∨ ∃ name ∈ used, key ++ [name] <+: k
  closed : ∀ k ∈ s.closed, k <+: key ∨ key <+: k → ∃ name ∈ used, key ++ [name] <+: k
  pending : s.pending = []

/-- From one state to another, what is new lies at or below a key. -/
structure Grows (s s' : State) (key : Key) : Prop where
  opened : ∀ k ∈ s'.opened, k ∈ s.opened ∨ key <+: k
  closed : ∀ k ∈ s'.closed, k ∈ s.closed ∨ key <+: k
  pending : s'.pending = []

variable {s s' s'' : State} {key : Key} {name : Text} {used : List Text}

theorem Grows.refl (h : s.pending = []) (key : Key) : Grows s s key :=
  ⟨fun _ hk => .inl hk, fun _ hk => .inl hk, h⟩

theorem Grows.trans (h : Grows s s' key) (h' : Grows s' s'' key) : Grows s s'' key :=
  ⟨fun k hk => (h'.opened k hk).elim (h.opened k) .inr,
    fun k hk => (h'.closed k hk).elim (h.closed k) .inr, h'.pending⟩

theorem Grows.of_below (h : Grows s s' (key ++ [name])) : Grows s s' key :=
  ⟨fun k hk => (h.opened k hk).imp_right (List.prefix_append key [name]).trans,
    fun k hk => (h.closed k hk).imp_right (List.prefix_append key [name]).trans, h.pending⟩

theorem Clear.mono {more : List Text} (h : Clear s key used) (hsub : used ⊆ more) :
    Clear s key more :=
  ⟨fun k hk hkey => (h.opened k hk hkey).imp_right fun ⟨n, hn, hbelow⟩ => ⟨n, hsub hn, hbelow⟩,
    fun k hk hkey =>
      have ⟨n, hn, hbelow⟩ := h.closed k hk hkey
      ⟨n, hsub hn, hbelow⟩,
    h.pending⟩

/-- A key is no start of the key above it. -/
theorem not_below {k : Key} (h : key ++ [name] <+: k) : ¬ k <+: key := by
  intro habove
  have hlength := h.length_le
  have hlength' := habove.length_le
  rw [List.length_append, List.length_singleton] at hlength
  omega

/-- Two names under one key, with something below both, are one. -/
theorem eq_of_below {name' : Text} {k : Key} (h : key ++ [name] <+: k)
    (h' : key ++ [name'] <+: k) : name = name' := by
  have hprefix := List.prefix_of_prefix_length_le h h' (by simp)
  have heq := hprefix.eq_of_length (by simp)
  simpa using heq

/-- A name that was not used leads to a fresh key. -/
theorem Clear.fresh (h : Clear s key used) (hname : name ∉ used) : Fresh s (key ++ [name]) := by
  have hbelow : ∀ k, key ++ [name] <+: k → ¬ ∃ n ∈ used, key ++ [n] <+: k := by
    rintro k hk ⟨n, hn, hkn⟩
    exact hname (eq_of_below hk hkn ▸ hn)
  refine ⟨fun k hk hkey => ?_, fun k hk => ⟨fun habove => ?_, fun hkey => ?_⟩, h.pending⟩
  · rcases h.opened k hk ((List.prefix_append key [name]).trans hkey) with rfl | hused
    · exact not_below hkey (List.prefix_refl k)
    · exact hbelow k hkey hused
  · rcases List.prefix_concat_iff.mp habove with rfl | habove
    · exact hbelow _ (List.prefix_refl _)
        (h.closed _ hk (.inr (List.prefix_append key [name])))
    · obtain ⟨n, -, hkn⟩ := h.closed k hk (.inl habove)
      exact not_below hkn habove
  · exact hbelow k hkey (h.closed k hk (.inr ((List.prefix_append key [name]).trans hkey)))

/-- What grows below a name is clear once the name is used. -/
theorem Clear.of_grows (h : Clear s key used) (hgrows : Grows s s' (key ++ [name])) :
    Clear s' key (name :: used) := by
  refine ⟨fun k hk hkey => ?_, fun k hk hkey => ?_, hgrows.pending⟩
  · rcases hgrows.opened k hk with hold | hnew
    · exact (h.opened k hold hkey).imp_right
        fun ⟨n, hn, hbelow⟩ => ⟨n, List.mem_cons_of_mem name hn, hbelow⟩
    · exact .inr ⟨name, List.mem_cons_self, hnew⟩
  · rcases hgrows.closed k hk with hold | hnew
    · obtain ⟨n, hn, hbelow⟩ := h.closed k hold hkey
      exact ⟨n, List.mem_cons_of_mem name hn, hbelow⟩
    · exact ⟨name, List.mem_cons_self, hnew⟩

theorem Fresh.clear (h : Fresh s key) : Clear s key [] :=
  ⟨fun k hk hkey => absurd hkey (h.opened k hk),
    fun k hk hkey => (hkey.elim (h.closed k hk).1 (h.closed k hk).2).elim, h.pending⟩

theorem isClosed_eq_false {k : Key} (h : ∀ c ∈ s.closed, ¬ c <+: k) : s.isClosed k = false := by
  rw [State.isClosed, List.any_eq_false]
  intro c hc
  rw [Key.starts, List.isPrefixOf_iff_prefix]
  exact h c hc

/-- The table under a key is there. -/
def Holds (members : Members) (key : Key) : Prop := enter? true some key members = some members

/-- Where something was changed, there is a table. -/
theorem holds_of_enter? {f : Members → Option Members} {members changed : Members}
    (h : enter? true f key members = some changed) : Holds changed key := by
  have hboth := enter?_bind true f some key members
  have hsame : (fun held => (f held).bind some) = f := by
    funext held
    cases f held <;> rfl
  rw [h, Option.bind_some, hsame, h] at hboth
  exact hboth

/-! ## Heads and members -/

theorem statement?_head {part : Text} {more : Key} {next : State}
    (hopen : s.endSection.openTable? (part :: more) = some next) (rest : Text) :
    statement? s ('[' :: (dotted (part :: more) ++ ']' :: '\n' :: rest))
      = some (next, '\n' :: rest) := by
  obtain ⟨tail, htail⟩ := exists_dotted part more
  obtain ⟨c, start, hrender, hc⟩ := exists_renderKey part
  have hskip : skipBlank (dotted (part :: more) ++ ']' :: '\n' :: rest)
      = dotted (part :: more) ++ ']' :: '\n' :: rest := by
    rw [htail, List.append_assoc]
    exact skipBlank_renderKey part _
  have hafter : skipBlank (']' :: '\n' :: rest) = ']' :: '\n' :: rest :=
    skipBlank_cons (by decide) (by decide) _
  have hlength := length_le_dotted (part :: more)
  have hfuel : more.length < (dotted (part :: more) ++ ']' :: '\n' :: rest).length := by
    rw [List.length_append]
    rw [List.length_cons] at hlength
    omega
  have hkey := key?_dotted part more (noBare_cons rfl) (by rw [hafter]; nofun) hfuel
  rw [hafter] at hkey
  unfold statement?
  split
  · next heq =>
    -- a key does not start with a bracket
    rw [htail, hrender] at heq
    exact absurd (List.cons.inj (List.cons.inj heq).2).1 (ne_of_isBare hc (by decide) rfl)
  · next heq =>
    obtain ⟨-, rfl⟩ := List.cons.inj heq
    simp only [hskip, hkey, hopen, bind, Option.bind_some, expect?, if_true]
    rfl
  · next heq => exact absurd (List.cons.inj heq).1 (by decide)
  · next hhead _ => exact (hhead _ rfl).elim

/-- **A head** opens its table. -/
theorem runs_head (hne : key ≠ []) (hfresh : Fresh s key) {members : Members}
    (henter : enter? true some key s.members = some members) :
    ∃ s', Runs (renderHead (dotted key) false) s s' ∧ s'.members = members ∧ s'.header = key ∧
      Clear s' key [] ∧ Grows s s' key := by
  have hopened : s.endSection.opened = s.opened := by
    rw [State.endSection, hfresh.pending, List.append_nil]
  have hnew : s.opened.contains key = false := by
    simpa using fun hmem => hfresh.opened key hmem (List.prefix_refl key)
  have hclosed : s.endSection.isClosed key = false :=
    isClosed_eq_false fun k hk => (hfresh.closed k hk).1
  let next := { s.endSection with members, header := key, opened := key :: s.opened }
  have hopen : s.endSection.openTable? key = some next := by
    rw [State.openTable?, hopened, hnew, hclosed]
    simp only [show s.endSection.members = s.members from rfl, henter]
    rfl
  refine ⟨next, ?_, rfl, rfl, ⟨?_, ?_, rfl⟩, ⟨?_, fun k hk => .inl hk, rfl⟩⟩
  · obtain ⟨part, more, rfl⟩ := List.exists_cons_of_ne_nil hne
    have hwritten : renderHead (dotted (part :: more)) false
        = '[' :: (dotted (part :: more) ++ [']'] ++ ['\n']) := by simp [renderHead]
    rw [hwritten]
    refine runs_statement (by decide) (by simp [noReturn_dotted]) fun rest => ?_
    rw [List.append_assoc]
    exact statement?_head hopen rest
  · intro k hk hkey
    rcases List.mem_cons.mp hk with rfl | hold
    · exact .inl rfl
    · exact absurd hkey (hfresh.opened k hold)
  · intro k hk hkey
    exact (hkey.elim (hfresh.closed k hk).1 (hfresh.closed k hk).2).elim
  · intro k hk
    rcases List.mem_cons.mp hk with rfl | hold
    · exact .inr (List.prefix_refl k)
    · exact .inl hold

theorem statement?_member {v : Value} {next : State} (hv : v.IsToml)
    (hassign : s.assign? [name] (settle v) = some next) (rest : Text) :
    statement? s (renderKey (.text name) ++ ' ' :: '=' :: ' ' :: (renderValue 0 v ++ '\n' :: rest))
      = some (next, '\n' :: rest) := by
  obtain ⟨c, start, hrender, hc⟩ := exists_renderKey name
  obtain ⟨d, more, hvalue, hopens, -⟩ := (readBack_render hv 0).opens
  have hskip : skipBlank (' ' :: (renderValue 0 v ++ '\n' :: rest))
      = renderValue 0 v ++ '\n' :: rest := by
    rw [hvalue]
    exact skipBlank_cons hopens.blank hopens.tab _
  have hequals : skipBlank (' ' :: '=' :: ' ' :: (renderValue 0 v ++ '\n' :: rest))
      = '=' :: ' ' :: (renderValue 0 v ++ '\n' :: rest) := rfl
  generalize hline : renderKey (.text name)
    ++ ' ' :: '=' :: ' ' :: (renderValue 0 v ++ '\n' :: rest) = line
  have hlength := congrArg List.length hline
  simp only [hrender, List.length_append, List.length_cons] at hlength
  have hfuel : ([] : Key).length < line.length := by
    rw [List.length_nil]
    omega
  have hkey := key?_dotted name []
    (noBare_cons (t := '=' :: ' ' :: (renderValue 0 v ++ '\n' :: rest))
      (show isBare ' ' = false from rfl))
    (by rw [hequals]; nofun) hfuel
  have hwritten : dotted [name] ++ ' ' :: '=' :: ' ' :: (renderValue 0 v ++ '\n' :: rest) = line :=
    hline
  have hread := readBack_render hv 0 (2 * line.length + 2) ('\n' :: rest) (ends_line rest)
    (by omega)
  rw [hwritten, hequals] at hkey
  rw [hrender, List.cons_append] at hline
  unfold statement?
  split
  · exact absurd (List.cons.inj hline).1 (ne_of_isBare hc (by decide) rfl)
  · exact absurd (List.cons.inj hline).1 (ne_of_isBare hc (by decide) rfl)
  · exact absurd (List.cons.inj hline).1 (ne_of_isBare hc (by decide) rfl)
  · simp only [hkey, bind, Option.bind_some, expect?, if_true, hskip, hread, hassign]
    rfl

/-- The line of a member is one statement. -/
theorem runs_line {v : Value} {next : State} (hv : v.IsToml)
    (hassign : s.assign? [name] (settle v) = some next) :
    Runs (renderMember (.text name, v)) s next := by
  obtain ⟨c, start, hrender, hc⟩ := exists_renderKey name
  have hwritten : renderMember (.text name, v)
      = c :: (start ++ ' ' :: '=' :: ' ' :: renderValue 0 v ++ ['\n']) := by
    simp [renderMember, hrender]
  have hreturn : '\r' ∉ c :: start := hrender ▸ noReturn_renderKey name
  rw [hwritten]
  refine runs_statement ⟨ne_of_isBare hc (by decide) rfl, ne_of_isBare hc (by decide) rfl,
    ne_of_isBare hc (by decide) rfl⟩ ?_ fun rest => ?_
  · simp only [List.mem_cons, not_or] at hreturn
    simp [hreturn.1, hreturn.2, noReturn_renderValue hv 0]
  · have hstatement := statement?_member hv hassign rest
    rw [hrender] at hstatement
    simpa using hstatement

/-- A member is assigned in the table that is being read, unless that is closed. -/
theorem assign?_name {v : Value} {members : Members} (hclosed : s.isClosed s.header = false)
    (henter : enter? true (addMember? name v) s.header s.members = some members) :
    s.assign? [name] v = some { s with
      members
      closed := if isContainer v then (s.header ++ [name]) :: s.closed else s.closed } := by
  have htable : s.header ++ [name].dropLast = s.header := List.append_nil s.header
  have hthrough : passed s.header [name] = [] := rfl
  have hpending : s.pending ++ [] = s.pending := List.append_nil s.pending
  unfold State.assign?
  simp only [htable, hthrough, hclosed, hpending, List.any_nil, Bool.or_self]
  rw [show [name].getLastD [] = name from rfl, henter]
  rfl

/-- **A member** is added to the table that is being read. -/
theorem runs_member {v : Value} {members : Members} (hv : v.IsToml) (hclear : Clear s key used)
    (hheader : s.header = key)
    (henter : enter? true (addMember? name (settle v)) key s.members = some members) :
    ∃ s', Runs (renderMember (.text name, v)) s s' ∧ s'.members = members ∧ s'.header = key ∧
      Clear s' key (name :: used) ∧ Grows s s' key := by
  subst hheader
  have hclosed : s.isClosed s.header = false := isClosed_eq_false fun k hk habove => by
    obtain ⟨n, -, hbelow⟩ := hclear.closed k hk (.inl habove)
    exact not_below hbelow habove
  have hmem : ∀ k ∈ (if isContainer (settle v) then (s.header ++ [name]) :: s.closed
      else s.closed), k ∈ s.closed ∨ k = s.header ++ [name] := by
    intro k hk
    split at hk
    · exact (List.mem_cons.mp hk).symm
    · exact .inl hk
  refine ⟨_, runs_line hv (assign?_name hclosed henter), rfl, rfl, ⟨?_, ?_, hclear.pending⟩,
    ⟨fun k hk => .inl hk, ?_, hclear.pending⟩⟩
  · exact fun k hk hkey => (hclear.opened k hk hkey).imp_right
      fun ⟨n, hn, hbelow⟩ => ⟨n, List.mem_cons_of_mem name hn, hbelow⟩
  · intro k hk hkey
    rcases hmem k hk with hold | rfl
    · obtain ⟨n, hn, hbelow⟩ := hclear.closed k hold hkey
      exact ⟨n, List.mem_cons_of_mem name hn, hbelow⟩
    · exact ⟨name, List.mem_cons_self, List.prefix_refl _⟩
  · intro k hk
    rcases hmem k hk with hold | rfl
    · exact .inl hold
    · exact .inr (List.prefix_append _ _)

/-- The lines of plain members add them to the table that is being read. -/
theorem runs_members {plain : List (Text × Value)} (hplain : ∀ m ∈ plain, m.2.IsToml)
    (hclear : Clear s key used) (hheader : s.header = key) (hholds : Holds s.members key)
    {members : Members}
    (henter : enter? true (addAll? (settled plain)) key s.members = some members) :
    ∃ s', Runs ((named plain).flatMap renderMember) s s' ∧ s'.members = members ∧
      Clear s' key (plain.map Prod.fst ++ used) ∧ Grows s s' key := by
  induction plain generalizing s used with
  | nil =>
    have hsame : s.members = members := Option.some.inj (hholds.symm.trans henter)
    exact ⟨s, .refl s, hsame, hclear, .refl hclear.pending key⟩
  | cons m rest ih =>
    have hboth :=
      enter?_bind true (addMember? m.1 (settle m.2)) (addAll? (settled rest)) key s.members
    obtain ⟨first, hfirst, hrest⟩ := Option.bind_eq_some_iff.mp (hboth.trans henter)
    obtain ⟨s₁, hrun, rfl, hheader₁, hclear₁, hgrows₁⟩ :=
      runs_member (hplain m List.mem_cons_self) hclear hheader hfirst
    obtain ⟨s₂, hrun₂, hmembers, hclear₂, hgrows₂⟩ :=
      ih (fun n hn => hplain n (List.mem_cons_of_mem m hn)) hclear₁ hheader₁
        (holds_of_enter? hfirst) hrest
    exact ⟨s₂, hrun.append hrun₂, hmembers, hclear₂.mono (by simp), hgrows₁.trans hgrows₂⟩

/-! ## Tables -/

/-- The sections of a table, under any key that is fresh, are read and add its members there. -/
def Readable (entries : List (Text × Value)) : Prop :=
  ∀ {key : Key} {s : State} {members : Members} {fuel : Nat},
    depthMembers (named entries) < fuel → Fresh s key → (key = [] → s.header = []) →
    enter? true (addAll? (settled entries)) key s.members = some members →
    ∃ s', RunsAll (renderParts fuel (dotted key) false (named entries)) s s' ∧
      s'.members = members ∧ Grows s s' key

theorem IsTable.nodup {entries : List (Text × Value)} (h : IsTable entries) :
    (entries.map Prod.fst).Nodup := by
  cases h with
  | mk _ _ hdistinct =>
    rw [List.map_append, List.map_map]
    exact hdistinct

theorem IsTable.nodup_settled {entries : List (Text × Value)} (h : IsTable entries) :
    ((settled entries).map Prod.fst).Nodup := by
  rw [settled, List.map_map]
  exact h.nodup

/-- **The sections of tables** with different names are read one after the other. -/
theorem runs_tables {tables : List (Text × List (Text × Value))}
    (hread : ∀ m ∈ tables, Readable m.2) (htables : ∀ m ∈ tables, IsTable m.2) {fuel : Nat}
    (hfuel : ∀ m ∈ tables, depthMembers (named m.2) < fuel)
    (hdistinct : (tables.map Prod.fst).Nodup) (hnew : ∀ m ∈ tables, m.1 ∉ used)
    (hclear : Clear s key used) (hholds : tables = [] → Holds s.members key) {members : Members}
    (henter : enter? true (addAll? (settled (tables.map tableEntry))) key s.members
      = some members) :
    ∃ s', RunsAll (tables.flatMap fun m =>
        renderParts fuel (dotted (key ++ [m.1])) false (named m.2)) s s' ∧
      s'.members = members ∧ Grows s s' key := by
  induction tables generalizing s used with
  | nil =>
    have hsame : s.members = members := Option.some.inj ((hholds rfl).symm.trans henter)
    exact ⟨s, .nil s, hsame, .refl hclear.pending key⟩
  | cons m rest ih =>
    rw [List.map_cons, List.nodup_cons] at hdistinct
    rw [settled_tables, List.map_cons, ← settled_tables] at henter
    have hboth := enter?_bind true (addMember? m.1 (.obj (named (settled m.2))))
      (addAll? (settled (rest.map tableEntry))) key s.members
    obtain ⟨first, hfirst, hrest⟩ := Option.bind_eq_some_iff.mp (hboth.trans henter)
    have hinner := enter?_of_imp
      (fun _ _ => enter?_member (htables m List.mem_cons_self).nodup_settled) hfirst
    rw [← enter?_append] at hinner
    obtain ⟨s₁, hrun, rfl, hgrows₁⟩ := hread m List.mem_cons_self (hfuel m List.mem_cons_self)
      (hclear.fresh (hnew m List.mem_cons_self)) (fun hnil => by simp at hnil) hinner
    have hnew₁ : ∀ n ∈ rest, n.1 ∉ m.1 :: used := by
      intro n hn hmem
      rcases List.mem_cons.mp hmem with heq | hused
      · exact hdistinct.1 (heq ▸ List.mem_map_of_mem hn)
      · exact hnew n (List.mem_cons_of_mem m hn) hused
    obtain ⟨s₂, hrun₂, hmembers, hgrows₂⟩ := ih (fun n hn => hread n (List.mem_cons_of_mem m hn))
      (fun n hn => htables n (List.mem_cons_of_mem m hn))
      (fun n hn => hfuel n (List.mem_cons_of_mem m hn)) hdistinct.2 hnew₁
      (hclear.of_grows hgrows₁) (fun _ => holds_of_enter? hfirst) hrest
    exact ⟨s₂, hrun.append hrun₂, hmembers, hgrows₁.of_below.trans hgrows₂⟩

/-! ## Sections as they are written -/

theorem sectionsOf_of_isToml {name : Name} {v : Value} (h : v.IsToml) :
    sectionsOf (name, v) = [] := by
  cases h with
  | @arr elements h =>
    cases elements with
    | nil => rfl
    | cons v rest =>
      have hv : isTable v = false := by
        cases h v List.mem_cons_self <;> rfl
      rw [sectionsOf, if_neg (by simp [hv])]
  | _ => rfl

theorem named_append (entries more : List (Text × Value)) :
    named (entries ++ more) = named entries ++ named more := List.map_append

theorem flatMap_sectionsOf {plain : List (Text × Value)}
    {tables : List (Text × List (Text × Value))} (h : ∀ m ∈ plain, m.2.IsToml) :
    (named (plain ++ tables.map tableEntry)).flatMap sectionsOf
      = tables.map fun m => ⟨.text m.1, false, named m.2⟩ := by
  have hplain : (named plain).flatMap sectionsOf = [] := by
    rw [List.flatMap_eq_nil_iff]
    intro m hm
    obtain ⟨entry, hentry, rfl⟩ := List.mem_map.mp hm
    exact sectionsOf_of_isToml (h entry hentry)
  have htables : (named (tables.map tableEntry)).flatMap sectionsOf
      = tables.map fun m => ⟨.text m.1, false, named m.2⟩ := by
    rw [named, List.map_map, List.flatMap_map]
    induction tables with
    | nil => rfl
    | cons m rest ih =>
      rw [List.flatMap_cons, ih]
      rfl
  rw [named_append, List.flatMap_append, hplain, htables, List.nil_append]

theorem filter_isPlain {plain : List (Text × Value)}
    {tables : List (Text × List (Text × Value))} (h : ∀ m ∈ plain, m.2.IsToml) :
    (named (plain ++ tables.map tableEntry)).filter isPlain = named plain := by
  have hplain : (named plain).filter isPlain = named plain := by
    rw [List.filter_eq_self]
    intro m hm
    obtain ⟨entry, hentry, rfl⟩ := List.mem_map.mp hm
    rw [isPlain, sectionsOf_of_isToml (h entry hentry), List.isEmpty_nil]
  have htables : (named (tables.map tableEntry)).filter isPlain = [] := by
    rw [List.filter_eq_nil_iff]
    intro m hm
    obtain ⟨entry, hentry, rfl⟩ := List.mem_map.mp hm
    obtain ⟨table, -, rfl⟩ := List.mem_map.mp hentry
    exact Bool.false_ne_true
  rw [named_append, List.filter_append, hplain, htables, List.append_nil]

/-- The sections of a table: its own, if it has one, and those of its tables. -/
theorem renderParts_eq {plain : List (Text × Value)}
    {tables : List (Text × List (Text × Value))} (h : ∀ m ∈ plain, m.2.IsToml) (fuel : Nat)
    (key : Key) :
    renderParts (fuel + 1) (dotted key) false (named (plain ++ tables.map tableEntry))
      = (if key ≠ [] ∧ (plain ≠ [] ∨ tables = []) then
          [renderHead (dotted key) false ++ (named plain).flatMap renderMember]
        else if plain ≠ [] then [(named plain).flatMap renderMember]
        else [])
        ++ tables.flatMap fun m =>
          renderParts fuel (dotted (key ++ [m.1])) false (named m.2) := by
  have hname : (dotted key).isEmpty = decide (key = []) := by
    by_cases hkey : key = []
    · rw [hkey]
      rfl
    · simpa [hkey] using dotted_ne_nil hkey
  have hkeys : ∀ m : Text × List (Text × Value),
      (if (dotted key).isEmpty then renderKey (.text m.1)
        else dotted key ++ '.' :: renderKey (.text m.1)) = dotted (key ++ [m.1]) := by
    intro m
    by_cases hkey : key = []
    · rw [hkey]
      rfl
    · rw [hname, if_neg (by simpa using hkey), dotted_snoc hkey]
  have hlines : ((named plain).flatMap renderMember).isEmpty = decide (plain = []) := by
    cases plain <;> simp [named, renderMember]
  have hhead : (!(dotted key).isEmpty && (!(named plain).isEmpty || tables.isEmpty))
      = decide (key ≠ [] ∧ (plain ≠ [] ∨ tables = [])) := by
    rw [hname]
    cases plain <;> cases tables <;> simp [named]
  rw [renderParts, filter_isPlain h, flatMap_sectionsOf h]
  simp only [List.flatMap_map, List.isEmpty_map, hkeys, Bool.false_or, hhead, decide_eq_true_eq]
  by_cases hopen : key ≠ [] ∧ (plain ≠ [] ∨ tables = [])
  · rw [if_pos hopen, if_pos hopen, if_neg (by simp [renderHead])]
    rfl
  · rw [if_neg hopen, if_neg hopen, List.nil_append, hlines]
    by_cases hnone : plain = []
    · rw [if_pos (by simpa using hnone), if_neg (by simpa using hnone), List.nil_append]
    · rw [if_neg (by simpa using hnone), if_pos hnone]
      rfl

theorem depth_lt {entries : List (Text × Value)} {m : Text × List (Text × Value)} {fuel : Nat}
    (hm : tableEntry m ∈ entries) (hfuel : depthMembers (named entries) < fuel + 1) :
    depthMembers (named m.2) < fuel := by
  have hle : depth (.obj (named m.2)) ≤ depthMembers (named entries) := by
    clear hfuel
    induction entries with
    | nil => cases hm
    | cons n rest ih =>
      rw [show named (n :: rest) = (.text n.1, n.2) :: named rest from rfl, depthMembers]
      rcases List.mem_cons.mp hm with rfl | hrest
      · exact Nat.le_max_left _ _
      · exact Nat.le_trans (ih hrest) (Nat.le_max_right _ _)
  rw [depth] at hle
  omega

/-- Entries that are added under a key are added one part after the other. -/
theorem exists_of_enter?_append {entries more : List (Text × Value)} {held members : Members}
    (h : enter? true (addAll? (settled (entries ++ more))) key held = some members) :
    ∃ first, enter? true (addAll? (settled entries)) key held = some first ∧
      enter? true (addAll? (settled more)) key first = some members := by
  have hboth : (fun held => (addAll? (settled entries) held).bind (addAll? (settled more)))
      = addAll? (settled (entries ++ more)) := by
    funext held
    rw [settled_append]
    exact (addAll?_append ..).symm
  rw [← hboth, ← enter?_bind] at h
  exact Option.bind_eq_some_iff.mp h

/-- **The sections of a table are read as they were written.** -/
theorem runs_table {entries : List (Text × Value)} (h : IsTable entries) : Readable entries := by
  induction h with
  | @mk plain tables hplain htables hdistinct ih =>
    intro key s members fuel hfuel hfresh hheader henter
    obtain ⟨fuel, rfl⟩ := Nat.exists_eq_add_one_of_ne_zero (Nat.ne_zero_of_lt hfuel)
    obtain ⟨-, hnames, hdisjoint⟩ := List.nodup_append.mp hdistinct
    have hdepth : ∀ m ∈ tables, depthMembers (named m.2) < fuel := fun m hm =>
      depth_lt (List.mem_append_right plain (List.mem_map_of_mem hm)) hfuel
    have hnew : ∀ m ∈ tables, m.1 ∉ plain.map Prod.fst := fun m hm hmem =>
      hdisjoint m.1 hmem m.1 (List.mem_map_of_mem hm) rfl
    rw [renderParts_eq hplain]
    split
    · next hhead =>
      have hopen := enter?_bind true some (addAll? (settled (plain ++ tables.map tableEntry))) key
        s.members
      obtain ⟨opened, hopened, hrest⟩ := Option.bind_eq_some_iff.mp (hopen.trans henter)
      obtain ⟨first, hfirst, hrest⟩ := exists_of_enter?_append hrest
      obtain ⟨s₁, hrun₁, rfl, hheader₁, hclear₁, hgrows₁⟩ := runs_head hhead.1 hfresh hopened
      obtain ⟨s₂, hrun₂, rfl, hclear₂, hgrows₂⟩ :=
        runs_members hplain hclear₁ hheader₁ (holds_of_enter? hopened) hfirst
      rw [List.append_nil] at hclear₂
      obtain ⟨s₃, hrun₃, hmembers, hgrows₃⟩ := runs_tables ih htables hdepth hnames hnew hclear₂
        (fun _ => holds_of_enter? hfirst) hrest
      exact ⟨s₃, .cons (hrun₁.append hrun₂) hrun₃, hmembers,
        (hgrows₁.trans hgrows₂).trans hgrows₃⟩
    · next hhead =>
      have hclear := hfresh.clear
      split
      · next hsome =>
        -- without a head the members stand in the top table
        have hkey : key = [] := by
          by_contra hne
          exact hhead ⟨hne, .inl hsome⟩
        have hholds : Holds s.members key := by rw [hkey]; rfl
        obtain ⟨first, hfirst, hrest⟩ := exists_of_enter?_append henter
        obtain ⟨s₂, hrun₂, rfl, hclear₂, hgrows₂⟩ :=
          runs_members hplain hclear ((hheader hkey).trans hkey.symm) hholds hfirst
        rw [List.append_nil] at hclear₂
        obtain ⟨s₃, hrun₃, hmembers, hgrows₃⟩ := runs_tables ih htables hdepth hnames hnew hclear₂
          (fun _ => holds_of_enter? hfirst) hrest
        exact ⟨s₃, .cons hrun₂ hrun₃, hmembers, hgrows₂.trans hgrows₃⟩
      · next hnone =>
        obtain rfl : plain = [] := by simpa using hnone
        have hholds : tables = [] → Holds s.members key := by
          intro htables
          have hkey : key = [] := by
            by_contra hne
            exact hhead ⟨hne, .inr htables⟩
          rw [hkey]
          rfl
        obtain ⟨s₃, hrun₃, hmembers, hgrows₃⟩ :=
          runs_tables ih htables hdepth hnames hnew hclear hholds henter
        exact ⟨s₃, hrun₃, hmembers, hgrows₃⟩

/-! ## Documents -/

theorem joinLineEnds_of_noReturn {t : Text} (h : '\r' ∉ t) : joinLineEnds t = t := by
  induction t with
  | nil => rfl
  | cons c t ih =>
    rw [List.mem_cons, not_or] at h
    rw [joinLineEnds, ih h.2]
    rintro rest rfl
    exact absurd rfl h.1

/-- **A document is read as it was written**, and what is no number as the usual one. -/
theorem read?_render {entries : List (Text × Value)} (h : IsTable entries) {t : Text}
    (hrender : render (named entries) = .ok t) :
    read? t = some (settleMembers (named entries)) := by
  have hall : enter? true (addAll? (settled entries)) [] [] = some (named (settled entries)) :=
    addAll?_eq_some h.nodup_settled fun _ _ => rfl
  have hfresh : Fresh {} [] := ⟨nofun, nofun, rfl⟩
  obtain ⟨s, hrun, hmembers, -⟩ :=
    runs_table h (Nat.lt_succ_self (depthMembers (named entries))) hfresh (fun _ => rfl) hall
  obtain ⟨hreturn, n, hn, hrun⟩ := hrun.join
  have ht : t = Text.join ['\n']
      (renderParts (depthMembers (named entries) + 1) (dotted []) false (named entries)) := by
    rw [render] at hrender
    split at hrender
    · cases hrender
    · exact (Except.ok.inj hrender).symm
  rw [← ht] at hreturn hn hrun
  have hread := hrun (t.length + 1 - n) []
  have hdone : statements? (t.length + 1 - n) s [] = some s := by
    obtain ⟨fuel, hfuel⟩ := Nat.exists_eq_add_one_of_ne_zero (show t.length + 1 - n ≠ 0 by omega)
    rw [hfuel]
    rfl
  rw [List.append_nil, Nat.sub_add_cancel (by omega), hdone] at hread
  rw [read?, joinLineEnds_of_noReturn hreturn, hread, Option.map_some, hmembers,
    settleMembers_named]

end Toml

end GhostEdit
