import GhostEdit.Proofs.Json.Numbers
import GhostEdit.Toml.Read
import GhostEdit.Toml.Write

/-!
# Numbers of a TOML document

A number is written as in JSON, with words of its own for what is no number and for infinities. The
reader allows more: low lines between digits, other bases, and dates and times, which start with
digits too. So a number is read back if what follows is neither a digit nor any of the marks that
would make something else of it; behind a value stands a comma or the end of the line.

## Main definitions

* `Toml.Ends`: what follows a value
* `Toml.Behind`: what follows a run of digits

## Main results

* `Toml.moment?_eq_none`: what is no date and no time
* `Toml.decimal?_int`, `Toml.decimal?_float`: numbers by their parts
* `Toml.value?_int`, `Toml.value?_float`: numbers are read as they were written
-/

namespace GhostEdit

namespace Toml

open Json (Numerals IsWhole IsPower NoNumeral pointed powerSign signed ofNumerals isNumeral)

/-- What follows a value: a comma, or the end of the line. -/
def Ends (t : Text) : Prop := ∀ c ∈ t.head?, c = ',' ∨ c = '\n'

/-- What follows a run of digits: the next part of the number, or the end of the value. -/
def Behind (t : Text) : Prop := ∀ c ∈ t.head?, c = '.' ∨ c = 'e' ∨ c = ',' ∨ c = '\n'

variable {t rest whole fraction power : Text} {e : Int}

theorem Ends.behind (h : Ends t) : Behind t := fun c hc => .inr (.inr (h c hc))

theorem Behind.noNumeral (h : Behind t) : NoNumeral t := by
  intro c hc
  rcases h c hc with rfl | rfl | rfl | rfl <;> rfl

/-- No low line joins a run of digits to more. -/
theorem Behind.ne_join (h : Behind t) : ∀ c ∈ t.head?, c ≠ '_' := by
  intro c hc
  rcases h c hc with rfl | rfl | rfl | rfl <;> decide

theorem behind_power (h : IsPower power e) (hrest : Ends rest) : Behind (power ++ rest) := by
  cases h with
  | none => exact hrest.behind
  | some =>
    rintro d ⟨⟩
    exact .inr (.inl rfl)

theorem behind_pointed (h : Behind rest) : Behind (pointed fraction ++ rest) := by
  rw [pointed]
  split
  · exact h
  · rintro d ⟨⟩
    exact .inl rfl

/-! ## Digits -/

theorem digitRun_stop (h : Behind t) : digitRun isNumeral t = ([], t) := by
  rw [digitRun.eq_def]
  split
  · rfl
  · exact absurd rfl (h.ne_join _ rfl)
  · rw [if_neg (by simp [h.noNumeral _ rfl])]

theorem digitRun_append {ds : Text} (h : Numerals ds) (hrest : Behind rest) :
    digitRun isNumeral (ds ++ rest) = (ds, rest) := by
  induction ds with
  | nil => exact digitRun_stop hrest
  | cons d ds ih =>
    have hd : isNumeral d = true := h d List.mem_cons_self
    have hmore := ih fun c hc => h c (List.mem_cons_of_mem d hc)
    rw [List.cons_append, digitRun.eq_def]
    split
    · next heq => cases heq
    · next heq =>
      obtain ⟨rfl, -⟩ := List.cons.inj heq
      cases hd
    · next heq =>
      obtain ⟨rfl, rfl⟩ := List.cons.inj heq
      rw [if_pos hd, hmore]

theorem digits?_append {ds : Text} (hne : ds ≠ []) (h : Numerals ds) (hrest : Behind rest) :
    digits? isNumeral (ds ++ rest) = some (ds, rest) := by
  have hrun := digitRun_append h hrest
  obtain ⟨d, ds, rfl⟩ := List.exists_cons_of_ne_nil hne
  rw [List.cons_append] at hrun ⊢
  rw [digits?, if_pos (h d List.mem_cons_self), hrun]

/-! ## The parts of a number -/

theorem wholePart?_append (h : IsWhole whole) (hrest : Behind rest) :
    wholePart? (whole ++ rest) = some (whole, rest) := by
  cases h with
  | zero => rfl
  | digits hne hhead hall =>
    have hdigits := digits?_append hne hall hrest
    obtain ⟨d, ds, rfl⟩ := List.exists_cons_of_ne_nil hne
    have hd : d ≠ '0' := by
      rintro rfl
      exact hhead rfl
    rw [List.cons_append] at hdigits ⊢
    rw [wholePart?, hdigits]
    exact fun _ heq => hd (List.cons.inj heq).1

theorem fractionPart?_append (h : Numerals fraction) (hrest : Behind rest)
    (hpoint : rest.head? ≠ some '.') :
    fractionPart? (pointed fraction ++ rest)
      = if fraction.isEmpty then none else some (fraction, rest) := by
  rw [pointed]
  split
  · cases rest with
    | nil => rfl
    | cons c rest =>
      rw [List.nil_append, fractionPart?]
      rintro more heq
      cases heq
      exact hpoint rfl
  · next hsome =>
    exact digits?_append (by simpa using hsome) h hrest

theorem exponentPart?_append (h : IsPower power e) (hrest : Ends rest) :
    exponentPart? (power ++ rest) = if power.isEmpty then none else some (e, rest) := by
  cases h with
  | none =>
    cases rest with
    | nil => rfl
    | cons c rest => rcases hrest c rfl with rfl | rfl <;> rfl
  | some negative hne hall =>
    have hdigits := digits?_append hne hall hrest.behind
    cases negative <;> simp [exponentPart?, powerSign, hdigits]

theorem head?_power_ne (h : IsPower power e) (hrest : Ends rest) :
    (power ++ rest).head? ≠ some '.' := by
  cases h with
  | none =>
    intro hhead
    rcases hrest _ hhead with h | h <;> cases h
  | some => nofun

/-! ## Numbers -/

/-- The sign is told from the number. -/
theorem split_signed (h : IsWhole whole) (negative : Bool) (t : Text) :
    (match signed negative (whole ++ t) with
      | '-' :: r => (true, r)
      | '+' :: r => (false, r)
      | r => (false, r)) = (negative, whole ++ t) := by
  obtain ⟨c, more, rfl, hc⟩ := h.head
  cases negative with
  | true => rfl
  | false =>
    rw [signed, if_neg (by decide), List.cons_append]
    split
    · next heq =>
      cases heq
      cases hc
    · next heq =>
      cases heq
      cases hc
    · rfl

/-- **An integer** by its sign and its digits. -/
theorem decimal?_int (h : IsWhole whole) (hlimit : whole.length ≤ Json.digitLimit)
    (hrest : Ends rest) (negative : Bool) :
    decimal? (signed negative (whole ++ rest))
      = some (.int (if negative then -(ofNumerals whole : Int) else ofNumerals whole), rest) := by
  have hfraction : fractionPart? rest = none :=
    fractionPart?_append (Json.numerals_replicate 0) hrest.behind (head?_power_ne .none hrest)
  have hpower : exponentPart? rest = none := exponentPart?_append .none hrest
  unfold decimal?
  split
  next sign t heq =>
    cases (split_signed h negative rest).symm.trans heq
    simp only [wholePart?_append h hrest.behind, bind, Option.bind_some, hfraction, hpower,
      Option.map_none, Option.getD_none, Option.isNone_none, Bool.and_true, if_true]
    rw [if_neg (by omega)]
    rfl

/-- **A number with a point or a power** by its parts. -/
theorem decimal?_float (h : IsWhole whole) (hfraction : Numerals fraction)
    (hpower : IsPower power e) (hparts : fraction ≠ [] ∨ power ≠ []) (hrest : Ends rest)
    (negative : Bool) :
    decimal? (signed negative (whole ++ (pointed fraction ++ (power ++ rest))))
      = some (.float (Binary64.ofDecimal negative (ofNumerals (whole ++ fraction))
          (e - fraction.length)), rest) := by
  have hbehind := behind_power hpower hrest
  unfold decimal?
  split
  next sign t heq =>
    cases (split_signed h negative _).symm.trans heq
    simp only [wholePart?_append h (behind_pointed hbehind), bind, Option.bind_some,
      fractionPart?_append hfraction hbehind (head?_power_ne hpower hrest)]
    cases fraction with
    | nil =>
      cases power with
      | nil => simp at hparts
      | cons c power =>
        have hexponent := exponentPart?_append hpower hrest
        simp only [pointed, List.isEmpty_nil, if_true, List.nil_append, Option.map_none,
          Option.getD_none, hexponent, List.isEmpty_cons]
        rfl
    | cons d fraction =>
      have hexponent := exponentPart?_append hpower hrest
      simp only [List.isEmpty_cons, Bool.false_eq_true, if_false, Option.map_some,
        Option.getD_some, hexponent]
      cases power with
      | nil =>
        cases hpower
        rfl
      | cons c power => rfl

/-! ## What is no date and no time -/

theorem fixedDigits?_eq_some {n : Nat} {ds after : Text}
    (h : fixedDigits? n t = some (ds, after)) : t = ds ++ after ∧ Numerals ds ∧ ds.length = n := by
  induction n generalizing t ds with
  | zero =>
    cases h
    exact ⟨rfl, nofun, rfl⟩
  | succ n ih =>
    cases t with
    | nil => cases h
    | cons c t =>
      rw [fixedDigits?] at h
      split at h
      · next hc =>
        obtain ⟨⟨more, left⟩, hmore, heq⟩ := Option.map_eq_some_iff.mp h
        cases heq
        obtain ⟨rfl, hall, rfl⟩ := ih hmore
        exact ⟨rfl, List.forall_mem_cons.mpr ⟨hc, hall⟩, rfl⟩
      · cases h

theorem expect?_eq_some {c : Char} {after : Text} (h : expect? c t = some after) :
    t = c :: after := by
  cases t with
  | nil => cases h
  | cons d t =>
    rw [expect?] at h
    split at h
    · next hd =>
      cases h
      rw [hd]
    · cases h

/-- A day starts with digits and a hyphen. -/
theorem date?_eq_some {r : Day × Text} (h : date? t = some r) :
    ∃ ds after, t = ds ++ '-' :: after ∧ ds ≠ [] ∧ Numerals ds := by
  obtain ⟨⟨ds, left⟩, hdigits, h⟩ := Option.bind_eq_some_iff.mp h
  obtain ⟨after, hafter, -⟩ := Option.bind_eq_some_iff.mp h
  obtain ⟨rfl, hall, hlength⟩ := fixedDigits?_eq_some hdigits
  refine ⟨ds, after, by rw [expect?_eq_some hafter], ?_, hall⟩
  rintro rfl
  cases hlength

theorem twoDigits?_eq_some {bound n : Nat} {after : Text}
    (h : twoDigits? bound t = some (n, after)) : ∃ ds, t = ds ++ after ∧ ds ≠ [] ∧ Numerals ds := by
  obtain ⟨⟨ds, left⟩, hdigits, hbound⟩ := Option.bind_eq_some_iff.mp h
  obtain ⟨rfl, hall, hlength⟩ := fixedDigits?_eq_some hdigits
  have hbound : (if ofNumerals ds ≤ bound then some (ofNumerals ds, left) else none)
      = some (n, after) := hbound
  split at hbound
  · cases hbound
    refine ⟨ds, rfl, ?_, hall⟩
    rintro rfl
    cases hlength
  · cases hbound

/-- A time starts with digits and a colon. -/
theorem time?_eq_some {r : DayTime × Text} (h : time? t = some r) :
    ∃ ds after, t = ds ++ ':' :: after ∧ ds ≠ [] ∧ Numerals ds := by
  obtain ⟨⟨hour, left⟩, hhour, h⟩ := Option.bind_eq_some_iff.mp h
  obtain ⟨after, hafter, -⟩ := Option.bind_eq_some_iff.mp h
  obtain ⟨ds, rfl, hne, hall⟩ := twoDigits?_eq_some hhour
  exact ⟨ds, after, by rw [expect?_eq_some hafter], hne, hall⟩

/-- **What is no date and no time**: no run of digits at its start ends with a hyphen or a
colon. -/
theorem moment?_eq_none
    (h : ∀ ds c after, t = ds ++ c :: after → ds ≠ [] → Numerals ds → c ≠ '-' ∧ c ≠ ':') :
    moment? t = none := by
  rw [moment?]
  split
  · next d rest hdate =>
    obtain ⟨ds, after, ht, hne, hall⟩ := date?_eq_some hdate
    exact absurd rfl (h ds _ after ht hne hall).1
  · rw [Option.map_eq_none_iff, Option.eq_none_iff_forall_ne_some]
    intro r htime
    obtain ⟨ds, after, ht, hne, hall⟩ := time?_eq_some htime
    exact absurd rfl (h ds _ after ht hne hall).2

theorem moment?_of_head (h : NoNumeral t) : moment? t = none := by
  refine moment?_eq_none fun ds c after ht hne hall => ?_
  obtain ⟨d, ds, rfl⟩ := List.exists_cons_of_ne_nil hne
  have hd := hall d List.mem_cons_self
  rw [h d (by rw [ht]; rfl)] at hd
  cases hd

/-- A number is no date and no time. -/
theorem moment?_number (h : IsWhole whole) (hrest : Behind rest) (negative : Bool) :
    moment? (signed negative (whole ++ rest)) = none := by
  cases negative with
  | true => exact moment?_of_head (Json.noNumeral_cons (c := '-') rfl)
  | false =>
    refine moment?_eq_none fun ds c after ht _ hall => ?_
    by_cases hc : isNumeral c = true
    · constructor <;> rintro rfl <;> cases hc
    · have hstop : NoNumeral (c :: after) := Json.noNumeral_cons (by simpa using hc)
      have hleft := h.numerals.dropWhile hrest.noNumeral
      have ht : whole ++ rest = ds ++ c :: after := ht
      rw [ht, hall.dropWhile hstop] at hleft
      rcases hrest c (by rw [← hleft]; rfl) with rfl | rfl | rfl | rfl <;> decide

/-! ## As values -/

/-- What starts with a zero and goes on is a zero. -/
theorem eq_of_zero (h : IsWhole whole) {negative : Bool} {c : Char} {more : Text}
    (heq : signed negative (whole ++ rest) = '0' :: c :: more) : rest = c :: more := by
  cases negative with
  | true => cases heq
  | false =>
    cases h with
    | zero => exact (List.cons.inj heq).2
    | digits hne hhead _ =>
      obtain ⟨d, ds, rfl⟩ := List.exists_cons_of_ne_nil hne
      exact absurd (congrArg some (List.cons.inj heq).1) hhead

/-- What starts like a decimal number is no number in another base. -/
theorem number?_eq (h : IsWhole whole) (hrest : Behind rest) (negative : Bool) :
    number? (signed negative (whole ++ rest)) = decimal? (signed negative (whole ++ rest)) := by
  have hbase : ∀ c ∈ rest.head?, c ≠ 'x' ∧ c ≠ 'b' ∧ c ≠ 'o' := by
    intro c hc
    rcases hrest c hc with rfl | rfl | rfl | rfl <;> decide
  unfold number?
  split
  · next heq => exact absurd rfl (hbase _ (by rw [eq_of_zero h heq]; rfl)).1
  · next heq => exact absurd rfl (hbase _ (by rw [eq_of_zero h heq]; rfl)).2.1
  · next heq => exact absurd rfl (hbase _ (by rw [eq_of_zero h heq]; rfl)).2.2
  · rfl

/-- A character that starts no string, array, table or truth value. -/
def StartsNumber (c : Char) : Prop :=
  c ≠ '"' ∧ c ≠ '\'' ∧ c ≠ '[' ∧ c ≠ '\x7b' ∧ c ≠ 't' ∧ c ≠ 'f'

/-- What starts like a number is read as one. -/
theorem value?_number {c : Char} (hc : StartsNumber c) (hmoment : moment? (c :: t) = none)
    (fuel : Nat) :
    value? (fuel + 1) (c :: t) = (number? (c :: t) <|> namedNumber? (c :: t)) := by
  obtain ⟨hquote, hliteral, hbracket, hbrace, ht, hf⟩ := hc
  have htrue : Text.dropStart? "true".toList (c :: t) = none := by
    simp [Text.dropStart?, Ne.symm ht]
  have hfalse : Text.dropStart? "false".toList (c :: t) = none := by
    simp [Text.dropStart?, Ne.symm hf]
  rw [value?.eq_def]
  simp only [htrue, hfalse, hmoment]
  split
  · next heq => exact absurd (List.cons.inj heq).1 hquote
  · next heq => exact absurd (List.cons.inj heq).1 hquote
  · next heq => exact absurd (List.cons.inj heq).1 hliteral
  · next heq => exact absurd (List.cons.inj heq).1 hliteral
  · next heq => exact absurd (List.cons.inj heq).1 hbracket
  · next heq => exact absurd (List.cons.inj heq).1 hbrace
  · rfl

theorem startsNumber_of_isNumeral {c : Char} (h : isNumeral c = true) : StartsNumber c := by
  refine ⟨?_, ?_, ?_, ?_, ?_, ?_⟩ <;> exact (Json.ne_of_isNumeral h rfl).symm

theorem value?_decimal (h : IsWhole whole) (hrest : Behind rest) (negative : Bool)
    {r : Value × Text} (hread : decimal? (signed negative (whole ++ rest)) = some r) (fuel : Nat) :
    value? (fuel + 1) (signed negative (whole ++ rest)) = some r := by
  have hmoment := moment?_number h hrest negative
  have hnumber := (number?_eq h hrest negative).trans hread
  obtain ⟨c, more, rfl, hc⟩ := h.head
  cases negative with
  | true =>
    rw [signed, if_pos rfl] at hmoment hnumber ⊢
    rw [value?_number (by unfold StartsNumber; decide) hmoment, hnumber]
    rfl
  | false =>
    rw [signed, if_neg (by decide), List.cons_append] at hmoment hnumber ⊢
    rw [value?_number (startsNumber_of_isNumeral hc) hmoment, hnumber]
    rfl

/-- **An integer is read as it was written**, if it has no more digits than are read. -/
theorem value?_int {n : Int} (h : (Nat.toDigits 10 n.natAbs).length ≤ Json.digitLimit)
    (hrest : Ends rest) (fuel : Nat) :
    value? (fuel + 1) ((toString n).toList ++ rest) = some (.int n, rest) := by
  have hwhole := Json.isWhole_toDigits n.natAbs
  have hread := decimal?_int hwhole h hrest (n < 0)
  have hn : (if decide (n < 0) = true then -(n.natAbs : Int) else n.natAbs) = n := by
    simp only [decide_eq_true_eq]
    split <;> omega
  rw [Json.ofNumerals_toDigits, hn] at hread
  rw [show (toString n).toList = _ from Json.renderInt_eq n, Json.signed_append]
  exact value?_decimal hwhole hrest.behind _ hread fuel

/-- A finite number is read as it was written. -/
theorem value?_finite {x : Binary64} (h : x.isFinite = true) (hrest : Ends rest) (fuel : Nat) :
    value? (fuel + 1) (x.render.toList ++ rest) = some (.float x, rest) := by
  obtain ⟨t, d, hrender, hstates, hback⟩ := Json.exists_states h
  obtain ⟨whole, fraction, power, e, rfl, hwhole, hfraction, hpower, hparts, hvalue⟩ := hstates
  have hread := decimal?_float hwhole hfraction hpower hparts hrest x.isNegative
  rw [hback _ hvalue] at hread
  rw [hrender, Json.signed_append, List.append_assoc, List.append_assoc]
  exact value?_decimal hwhole (behind_pointed (behind_power hpower hrest)) _ hread fuel

/-- How a number that is not finite is written. -/
theorem render_infinite {x : Binary64} (hnan : x.isNaN = false) (h : x.isFinite = false) :
    x.render = if x.isNegative then "-inf" else "inf" := by
  rw [Binary64.render, if_neg (by simp [hnan])]
  dsimp only
  rw [if_pos (by simp [h])]
  cases x.isNegative <;> rfl

/-- **A binary64 number is read as it was written**, and what is no number as the usual one. -/
theorem value?_float (x : Binary64) (hrest : Ends rest) (fuel : Nat) :
    value? (fuel + 1) (x.render.toList ++ rest)
      = some (.float (if x.isNaN then Binary64.nan else x), rest) := by
  have hword : ∀ c more, StartsNumber c → isNumeral c = false →
      value? (fuel + 1) (c :: more) = (number? (c :: more) <|> namedNumber? (c :: more)) :=
    fun c more hc hdigit => value?_number hc (moment?_of_head (Json.noNumeral_cons hdigit)) fuel
  split
  · next hnan =>
    rw [Binary64.render, if_pos hnan]
    exact hword 'n' _ (by unfold StartsNumber; decide) rfl
  · next hnan =>
    by_cases hfinite : x.isFinite = true
    · exact value?_finite hfinite hrest fuel
    have hx := Binary64.eq_infinity (by simpa using hnan) (by simpa using hfinite)
    rw [render_infinite (by simpa using hnan) (by simpa using hfinite)]
    cases hsign : x.isNegative with
    | true =>
      rw [hx, hsign]
      exact hword '-' _ (by unfold StartsNumber; decide) rfl
    | false =>
      rw [hx, hsign]
      exact hword 'i' _ (by unfold StartsNumber; decide) rfl

end Toml

end GhostEdit
