import GhostEdit.Proofs.Json.RoundTrip
import GhostEdit.Proofs.Toml.Numbers
import GhostEdit.Proofs.Toml.Strings

/-!
# A value of a TOML document is read as it was written

What stands on the right of an equals sign is read back whatever follows it on its line. The
elements of an array stand on lines of their own, each with a comma, and the reader skips the space
between them; it takes a step for every element and a step for every value. Tables are not written
here, as they have sections of their own.

There are many binary64 values that are no number, and one word for all of them. A document does not
tell them apart, so it is the usual one that is read back (`Toml.settle`).

## Main definitions

* `Value.IsToml`: a value that a line can hold
* `Toml.settle`: a value with one kind of what is no number
* `Toml.ReadBack`: a value is read from what is written, whatever follows

## Main results

* `Toml.array?_render`: elements are read as they were written
* `Toml.readBack_render`: a value is read as it was written
-/

namespace GhostEdit

/-- A value that a line can hold: a truth value, a number, a string, or a list of such values. An
integer has no more digits than are read. -/
inductive Value.IsToml : Value → Prop
  | bool (b : Bool) : IsToml (.bool b)
  | int {n : Int} (h : (Nat.toDigits 10 n.natAbs).length ≤ Json.digitLimit) : IsToml (.int n)
  | float (x : Binary64) : IsToml (.float x)
  | str (t : Text) : IsToml (.str t)
  | arr {elements : List Value} (h : ∀ v ∈ elements, IsToml v) : IsToml (.arr elements)

namespace Toml

mutual

/-- A value in which the usual one stands for everything that is no number. -/
def settle : Value → Value
  | .float x => .float (if x.isNaN then Binary64.nan else x)
  | .arr elements => .arr (settleElements elements)
  | .obj members => .obj (settleMembers members)
  | v => v

/-- Elements with one kind of what is no number. -/
def settleElements : List Value → List Value
  | [] => []
  | v :: rest => settle v :: settleElements rest

/-- Members with one kind of what is no number. -/
def settleMembers : List (Name × Value) → List (Name × Value)
  | [] => []
  | (name, v) :: rest => (name, settle v) :: settleMembers rest

end

theorem settleElements_eq_map (elements : List Value) :
    settleElements elements = elements.map settle := by
  induction elements with
  | nil => rfl
  | cons v rest ih => rw [settleElements, ih, List.map_cons]

theorem settleMembers_eq_map (members : Members) :
    settleMembers members = members.map fun m => (m.1, settle m.2) := by
  induction members with
  | nil => rfl
  | cons m rest ih => rw [settleMembers, ih, List.map_cons]

/-- The value of what is written is read, whatever follows. -/
def ReadBack (written : Text) (v : Value) : Prop :=
  ∀ fuel rest, Ends rest → 2 * written.length ≤ fuel →
    value? fuel (written ++ rest) = some (v, rest)

/-! ## Space between elements -/

/-- What is neither space nor a comment. -/
structure Opens (c : Char) : Prop where
  blank : c ≠ ' '
  tab : c ≠ '\t'
  line : c ≠ '\n'
  comment : c ≠ '#'

theorem ends_nil : Ends [] := nofun

theorem ends_comma (t : Text) : Ends (',' :: t) := by
  rintro c ⟨⟩
  exact .inl rfl

theorem ends_line (t : Text) : Ends ('\n' :: t) := by
  rintro c ⟨⟩
  exact .inr rfl

/-- What starts a value is no space, no comment and no closing bracket. -/
theorem opens_of_value? {fuel : Nat} {t : Text} {r : Value × Text} (h : value? fuel t = some r) :
    ∃ c more, t = c :: more ∧ Opens c ∧ c ≠ ']' := by
  cases fuel with
  | zero => cases h
  | succ fuel =>
    cases t with
    | nil => cases h
    | cons c more =>
      refine ⟨c, more, rfl, ⟨?_, ?_, ?_, ?_⟩, ?_⟩ <;>
        · rintro rfl
          cases h

theorem ReadBack.opens {written : Text} {v : Value} (h : ReadBack written v) :
    ∃ c more, written = c :: more ∧ Opens c ∧ c ≠ ']' := by
  have hread := h _ [] ends_nil (Nat.le_refl _)
  rw [List.append_nil] at hread
  exact opens_of_value? hread

/-- Blanks and line ends are skipped up to the first other character. -/
theorem skipLines?_space {space : Text} (hspace : ∀ c ∈ space, c = ' ' ∨ c = '\n') {c : Char}
    (hc : Opens c) (more : Text) {fuel : Nat} (hfuel : 0 < fuel) :
    skipLines? fuel (space ++ c :: more) = some (c :: more) := by
  obtain ⟨fuel, rfl⟩ := Nat.exists_eq_add_one_of_ne_zero hfuel.ne'
  have hskip : (space ++ c :: more).dropWhile (fun c => c = ' ' || c = '\t' || c = '\n')
      = c :: more := by
    refine Text.dropWhile_run (fun d hd => ?_) ?_
    · rcases hspace d hd with rfl | rfl <;> rfl
    · rintro d ⟨⟩
      simp [hc.blank, hc.tab, hc.line]
  rw [skipLines?, hskip]
  split
  · next heq => exact absurd (List.cons.inj heq).1 hc.comment
  · rfl

theorem space_indent (depth : Nat) : ∀ c ∈ indent depth, c = ' ' ∨ c = '\n' :=
  fun _ hc => .inl (List.eq_of_mem_replicate hc)

theorem space_line {space : Text} (h : ∀ c ∈ space, c = ' ' ∨ c = '\n') :
    ∀ c ∈ '\n' :: space, c = ' ' ∨ c = '\n' :=
  List.forall_mem_cons.mpr ⟨.inr rfl, h⟩

/-! ## Arrays -/

/-- **Elements are read as they were written**, up to the bracket behind them. The space in front
of the first of them is skipped before. -/
theorem array?_render {inner : Nat} (outer : Nat) {elements : List Value}
    (h : ∀ v ∈ elements, ReadBack (renderValue inner v) (settle v)) {fuel : Nat}
    (hfuel : 2 * (renderElements inner elements).length + 1 ≤ fuel) (done : List Value)
    (tail : Text) :
    ∃ start, (∀ n, 0 < n → skipLines? n ('\n' :: (renderElements inner elements
        ++ (indent outer ++ ']' :: tail))) = some start) ∧
      array? fuel done start = some (.arr (done.reverse ++ elements.map settle), tail) := by
  have hbracket : Opens ']' := ⟨by decide, by decide, by decide, by decide⟩
  have hcomma : Opens ',' := ⟨by decide, by decide, by decide, by decide⟩
  induction elements generalizing fuel done with
  | nil =>
    obtain ⟨fuel, rfl⟩ := Nat.exists_eq_add_one_of_ne_zero (show fuel ≠ 0 by omega)
    refine ⟨']' :: tail, fun n hn =>
      skipLines?_space (space_line (space_indent outer)) hbracket tail hn, ?_⟩
    rw [array?, List.map_nil, List.append_nil]
  | cons v rest ih =>
    have hlength : (renderElements inner (v :: rest)).length
        = (indent inner).length + (renderValue inner v).length + 2
          + (renderElements inner rest).length := by
      rw [renderElements, List.length_append, List.length_append, List.length_cons,
        List.length_cons]
      omega
    rw [hlength] at hfuel
    obtain ⟨fuel, rfl⟩ := Nat.exists_eq_add_one_of_ne_zero (show fuel ≠ 0 by omega)
    have hless : 2 * (renderElements inner rest).length + 1 ≤ fuel := by omega
    obtain ⟨next, hnext, hrest⟩ :=
      ih (fun w hw => h w (List.mem_cons_of_mem v hw)) hless (settle v :: done)
    have hv := h v List.mem_cons_self
    obtain ⟨c, more, hwritten, hopens, hclose⟩ := hv.opens
    generalize hbehind : renderElements inner rest ++ (indent outer ++ ']' :: tail) = behind
      at hnext
    have hread := hv fuel (',' :: '\n' :: behind) (ends_comma _) (by omega)
    refine ⟨renderValue inner v ++ ',' :: '\n' :: behind, fun n hn => ?_, ?_⟩
    · have hspace := skipLines?_space (space_line (space_indent inner)) hopens
        (more ++ ',' :: '\n' :: behind) hn
      rw [renderElements, hwritten]
      simp only [List.append_assoc, List.cons_append, hbehind] at hspace ⊢
      exact hspace
    · have hnone : ∀ c ∈ ([] : Text), c = ' ' ∨ c = '\n' := nofun
      have hafter := skipLines?_space hnone hcomma ('\n' :: behind)
        (show 0 < (',' :: '\n' :: behind).length from Nat.succ_pos _)
      rw [List.nil_append] at hafter
      rw [array?.eq_def]
      dsimp only
      split
      · next heq =>
        rw [hwritten] at heq
        exact absurd (List.cons.inj heq).1 hclose
      · simp only [hread, hafter, bind, Option.bind_some,
          hnext _ (show 0 < ('\n' :: behind).length from Nat.succ_pos _), hrest]
        rw [List.reverse_cons, List.append_assoc]
        rfl

theorem readBack_arr {elements : List Value}
    (h : ∀ depth, ∀ v ∈ elements, ReadBack (renderValue depth v) (settle v)) (depth : Nat) :
    ReadBack (renderValue depth (.arr elements)) (settle (.arr elements)) := by
  intro fuel rest hrest hfuel
  cases elements with
  | nil =>
    obtain ⟨fuel, rfl⟩ := Nat.exists_eq_add_of_le hfuel
    rw [Nat.add_comm]
    rfl
  | cons v more =>
    have hlength : (renderValue depth (.arr (v :: more))).length
        = (renderElements (depth + 1) (v :: more)).length + (indent depth).length + 3 := by
      rw [renderValue]
      simp only [List.cons_append, List.length_cons, List.length_append, List.length_nil]
    rw [hlength] at hfuel
    obtain ⟨fuel, rfl⟩ := Nat.exists_eq_add_one_of_ne_zero (show fuel ≠ 0 by omega)
    have hless : 2 * (renderElements (depth + 1) (v :: more)).length + 1 ≤ fuel := by omega
    obtain ⟨start, hstart, hread⟩ := array?_render depth (h (depth + 1)) hless [] rest
    rw [renderValue]
    simp only [List.cons_append, List.append_assoc, List.nil_append]
    rw [value?, hstart _ (List.length_pos_iff.mpr (List.cons_ne_nil _ _)), settle,
      settleElements_eq_map]
    exact hread

/-! ## Values -/

theorem readBack_of_succ {written : Text} {v : Value}
    (h : ∀ fuel rest, Ends rest → value? (fuel + 1) (written ++ rest) = some (v, rest)) :
    ReadBack written v := by
  intro fuel rest hrest hfuel
  obtain ⟨c, more, hwritten, -⟩ := opens_of_value? (h 0 [] ends_nil)
  rw [List.append_nil] at hwritten
  rw [hwritten, List.length_cons] at hfuel
  obtain ⟨fuel, rfl⟩ := Nat.exists_eq_add_one_of_ne_zero (show fuel ≠ 0 by omega)
  exact h fuel rest hrest

/-- No quote stands inside a string but behind a backslash. -/
theorem head?_escapedChar (c : Char) (more : Text) : (escapedChar c ++ more).head? ≠ some '"' := by
  have hslash : ∀ more : Text, ('\\' :: more).head? ≠ some '"' := fun _ h =>
    absurd (Option.some.inj h) (by decide)
  rw [escapedChar.eq_def]
  split
  case h_7 hquote _ =>
    split
    · exact hslash _
    · simpa using hquote
  all_goals exact hslash _

theorem readBack_str (t : Text) : ReadBack (renderString t) (.str t) := by
  refine readBack_of_succ fun fuel rest hrest => ?_
  have hread := basicString?_render t rest
    (show t.length < (t.flatMap escapedChar ++ '"' :: rest).length + 1 by
      have hlength := length_le_flatMap t
      rw [List.length_append]
      omega)
  -- two quotes and a third would open a string of several lines
  have hthird : ∀ more, t.flatMap escapedChar ++ '"' :: rest ≠ '"' :: '"' :: more := by
    intro more heq
    cases t with
    | nil =>
      obtain ⟨-, rfl⟩ := List.cons.inj heq
      rcases hrest '"' rfl with h | h <;> cases h
    | cons c t =>
      rw [List.flatMap_cons, List.append_assoc] at heq
      exact head?_escapedChar c _ (by rw [heq]; rfl)
  rw [renderString_append, value?.eq_def]
  dsimp only
  split
  · next heq => exact absurd (List.cons.inj heq).2 (hthird _)
  · next heq =>
    obtain ⟨-, rfl⟩ := List.cons.inj heq
    rw [hread]
    rfl
  · next heq => exact absurd (List.cons.inj heq).1 (by decide)
  · next heq => exact absurd (List.cons.inj heq).1 (by decide)
  · next heq => exact absurd (List.cons.inj heq).1 (by decide)
  · next heq => exact absurd (List.cons.inj heq).1 (by decide)
  · next hstring _ _ _ _ => exact (hstring _ rfl).elim

/-- **A value is read as it was written**, whatever follows. -/
theorem readBack_render {v : Value} (h : v.IsToml) (depth : Nat) :
    ReadBack (renderValue depth v) (settle v) := by
  induction h generalizing depth with
  | bool b => cases b <;> exact readBack_of_succ fun _ _ _ => rfl
  | int h => exact readBack_of_succ fun fuel _ hrest => value?_int h hrest fuel
  | float x => exact readBack_of_succ fun fuel _ hrest => value?_float x hrest fuel
  | str t => exact readBack_str t
  | arr _ ih => exact readBack_arr (fun depth v hv => ih v hv depth) depth

end Toml

end GhostEdit
