import GhostEdit.Json.Decode
import GhostEdit.Json.Print
import GhostEdit.Proofs.Binary64.Shortest

/-!
# A number is read as it was written

A number has digits, perhaps a point and digits behind it, and perhaps a power of ten. The reader
takes each part as far as it goes, so a part is read back if what follows cannot be taken for more
of it; inside an array or an object a comma, a bracket or a brace follows. An integer is its digits.
For a binary64 number the decimal that is written is laid out in one of four ways, and each states
the value of the decimal that it was made from, which is all that the rounding looks at.

## Main definitions

* `Json.Stops`: what follows a number
* `Json.IsWhole`, `Json.IsPower`, `Json.IsExponent`: the parts of a number
* `Json.States`: a text states the number that a decimal stands for

## Main results

* `Json.states_render`: a decimal is written so that it is stated
* `Json.readValue_int`, `Json.readValue_float`: numbers are read as they were written
-/

namespace GhostEdit

namespace Json

/-! ## Digits -/

/-- A run of digits. -/
def Numerals (t : Text) : Prop := ∀ c ∈ t, isNumeral c = true

/-- What follows a number: nothing that it could go on with. -/
def Stops (t : Text) : Prop :=
  ∀ c ∈ t.head?, isNumeral c = false ∧ c ≠ '.' ∧ c ≠ 'e' ∧ c ≠ 'E'

/-- What follows a run of digits. -/
def NoNumeral (t : Text) : Prop := ∀ c ∈ t.head?, isNumeral c = false

theorem stops_nil : Stops [] := by
  rintro c ⟨⟩

theorem stops_cons {c : Char} {t : Text}
    (h : isNumeral c = false ∧ c ≠ '.' ∧ c ≠ 'e' ∧ c ≠ 'E') : Stops (c :: t) := by
  rintro d ⟨⟩
  exact h

theorem Stops.noNumeral {t : Text} (h : Stops t) : NoNumeral t := fun c hc => (h c hc).1

theorem noNumeral_cons {c : Char} {t : Text} (h : isNumeral c = false) : NoNumeral (c :: t) := by
  intro d hd
  cases hd
  exact h

theorem Numerals.append {t t' : Text} (h : Numerals t) (h' : Numerals t') : Numerals (t ++ t') := by
  intro c hc
  exact (List.mem_append.mp hc).elim (h c) (h' c)

theorem numerals_replicate (n : Nat) : Numerals (List.replicate n '0') := by
  intro c hc
  rw [List.eq_of_mem_replicate hc]
  rfl

theorem isNumeral_of_isDigit {c : Char} (h : c.isDigit = true) : isNumeral c = true := by
  rw [Char.isDigit, Bool.and_eq_true, decide_eq_true_eq, decide_eq_true_eq] at h
  rw [isNumeral, Bool.and_eq_true, decide_eq_true_eq, decide_eq_true_eq]
  exact h

theorem numerals_toDigits (n : Nat) : Numerals (Nat.toDigits 10 n) := by
  intro c hc
  exact isNumeral_of_isDigit (Nat.isDigit_of_mem_toDigits (by decide) (by decide) hc)

/-- The digits are taken up to what follows them. -/
theorem Numerals.takeWhile {ds rest : Text} (h : Numerals ds) (hrest : NoNumeral rest) :
    (ds ++ rest).takeWhile isNumeral = ds := Text.takeWhile_run h hrest

theorem Numerals.dropWhile {ds rest : Text} (h : Numerals ds) (hrest : NoNumeral rest) :
    (ds ++ rest).dropWhile isNumeral = rest := Text.dropWhile_run h hrest

theorem ofNumerals_eq (ds : Text) : ofNumerals ds = Nat.ofDigitChars 10 ds 0 := by
  rw [ofNumerals, Nat.ofDigitChars_eq_foldl]
  congr 1
  funext n d
  rw [Nat.mul_comm]

theorem ofNumerals_toDigits (n : Nat) : ofNumerals (Nat.toDigits 10 n) = n := by
  rw [ofNumerals_eq, Nat.ofDigitChars_ten_toDigits]

/-- Zeros in front change nothing. -/
theorem ofNumerals_zeros_append (n : Nat) (ds : Text) :
    ofNumerals (List.replicate n '0' ++ ds) = ofNumerals ds := by
  rw [ofNumerals_eq, ofNumerals_eq, Nat.ofDigitChars_append, Nat.ofDigitChars_replicate_zero,
    Nat.mul_zero]

/-- Zeros at the end multiply. -/
theorem ofNumerals_append_zeros (ds : Text) (n : Nat) :
    ofNumerals (ds ++ List.replicate n '0') = 10 ^ n * ofNumerals ds := by
  rw [ofNumerals_eq, ofNumerals_eq, Nat.ofDigitChars_append, Nat.ofDigitChars_replicate_zero]

/-- The digits of a number that is not zero do not start with one. -/
theorem head?_toDigits {n : Nat} (hn : n ≠ 0) : (Nat.toDigits 10 n).head? ≠ some '0' := by
  induction n using Nat.strongRecOn with
  | ind n ih =>
    rw [Nat.toDigits_eq_if (by decide)]
    split
    · next hsmall =>
      have hdigit : ∀ d < 10, d ≠ 0 → [Nat.digitChar d].head? ≠ some '0' := by decide
      exact hdigit n hsmall hn
    · next hlarge =>
      rw [List.head?_append_of_ne_nil _ Nat.toDigits_ne_nil]
      exact ih (n / 10) (by omega) (by omega)

/-! ## The parts of a number -/

/-- Digits that can stand before the point: a lone zero, or digits that do not start with one. -/
inductive IsWhole : Text → Prop
  | zero : IsWhole ['0']
  | digits {ds : Text} (hne : ds ≠ []) (hhead : ds.head? ≠ some '0') (h : Numerals ds) : IsWhole ds

/-- A point and the digits after it, if there are any. -/
def pointed (fraction : Text) : Text := if fraction.isEmpty then [] else '.' :: fraction

/-- The sign of a power of ten. -/
def powerSign (negative : Bool) : Char := if negative then '-' else '+'

/-- A number with a sign or without. -/
def signed (negative : Bool) (t : Text) : Text := if negative then '-' :: t else t

/-- A power of ten as it is written, and how large it is. -/
inductive IsPower : Text → Int → Prop
  | none : IsPower [] 0
  | some (negative : Bool) {ds : Text} (hne : ds ≠ []) (h : Numerals ds) :
    IsPower ('e' :: powerSign negative :: ds)
      (if negative then -(ofNumerals ds : Int) else ofNumerals ds)

/-- The sign of a power of ten where it may be left out. -/
def signText : Option Bool → Text
  | none => []
  | some negative => [powerSign negative]

/-- A power of ten in every way in which it can be written, and how large it is. -/
inductive IsExponent : Text → Int → Prop
  | none : IsExponent [] 0
  | some {mark : Char} (hmark : mark = 'e' ∨ mark = 'E') (sign : Option Bool) {ds : Text}
    (hne : ds ≠ []) (h : Numerals ds) :
    IsExponent (mark :: (signText sign ++ ds))
      (if sign = Option.some true then -(ofNumerals ds : Int) else ofNumerals ds)

theorem IsPower.isExponent {power : Text} {e : Int} (h : IsPower power e) :
    IsExponent power e := by
  cases h with
  | none => exact .none
  | some negative hne hall =>
    cases negative with
    | false => exact .some (.inl rfl) (Option.some false) hne hall
    | true => exact .some (.inl rfl) (Option.some true) hne hall

theorem isWhole_toDigits (n : Nat) : IsWhole (Nat.toDigits 10 n) := by
  by_cases hn : n = 0
  · rw [hn]
    exact .zero
  · exact .digits Nat.toDigits_ne_nil (head?_toDigits hn) (numerals_toDigits n)

theorem IsWhole.head {ds : Text} (h : IsWhole ds) : ∃ c t, ds = c :: t ∧ isNumeral c = true := by
  cases h with
  | zero => exact ⟨'0', [], rfl, rfl⟩
  | digits hne _ hall =>
    obtain ⟨c, t, rfl⟩ := List.exists_cons_of_ne_nil hne
    exact ⟨c, t, rfl, hall c List.mem_cons_self⟩

theorem IsWhole.numerals {ds : Text} (h : IsWhole ds) : Numerals ds := by
  cases h with
  | zero => exact numerals_replicate 1
  | digits _ _ hall => exact hall

theorem wholePart?_append {ds rest : Text} (h : IsWhole ds) (hrest : NoNumeral rest) :
    wholePart? (ds ++ rest) = some (ds, rest) := by
  cases h with
  | zero => rfl
  | digits hne hhead hall =>
    have htake := hall.takeWhile hrest
    have hdrop := hall.dropWhile hrest
    obtain ⟨c, t, rfl⟩ := List.exists_cons_of_ne_nil hne
    have hc : c ≠ '0' := by
      rintro rfl
      exact hhead rfl
    rw [List.cons_append] at htake hdrop ⊢
    rw [wholePart?, if_pos (hall c List.mem_cons_self), htake, hdrop]
    rintro rfl
    exact absurd rfl hc

theorem fractionPart_append {fraction rest : Text} (h : Numerals fraction) (hrest : NoNumeral rest)
    (hpoint : rest.head? ≠ some '.') :
    fractionPart (pointed fraction ++ rest) = (fraction, rest) := by
  rw [pointed]
  split
  · next hempty =>
    rw [List.isEmpty_iff.mp hempty, List.nil_append]
    cases rest with
    | nil => rfl
    | cons c rest =>
      rw [fractionPart]
      intro more hmore
      cases hmore
      exact hpoint rfl
  · next hsome =>
    rw [List.cons_append, fractionPart, h.takeWhile hrest, h.dropWhile hrest, if_neg hsome]

theorem Stops.exponentPart? {t : Text} (h : Stops t) : exponentPart? t = none := by
  cases t with
  | nil => rfl
  | cons c rest =>
    obtain ⟨-, -, hlower, hupper⟩ := h c rfl
    simp [Json.exponentPart?, hlower, hupper]

/-- The sign of a power of ten is told from its digits. -/
theorem split_signText {ds : Text} (hne : ds ≠ []) (h : Numerals ds) (sign : Option Bool)
    (rest : Text) :
    (match signText sign ++ ds ++ rest with
      | '-' :: r => (true, r)
      | '+' :: r => (false, r)
      | r => (false, r)) = (decide (sign = some true), ds ++ rest) := by
  obtain ⟨c, more, rfl⟩ := List.exists_cons_of_ne_nil hne
  have hc := h c List.mem_cons_self
  match sign with
  | some true => rfl
  | some false => rfl
  | none =>
    have hwritten : signText none ++ c :: more ++ rest = c :: (more ++ rest) := rfl
    rw [hwritten]
    split
    · next heq =>
      cases heq
      cases hc
    · next heq =>
      cases heq
      cases hc
    · rfl

theorem exponentPart?_append {power rest : Text} {e : Int} (h : IsExponent power e)
    (hrest : Stops rest) :
    exponentPart? (power ++ rest) = if power.isEmpty then none else some (e, rest) := by
  cases h with
  | none => exact hrest.exponentPart?
  | @some mark hmark sign ds hne hall =>
    have hsplit := split_signText hne hall sign rest
    have hletter : (mark = 'e' || mark = 'E') = true := by simpa using hmark
    unfold exponentPart?
    split
    · next heq =>
      cases heq
      rw [if_pos hletter]
      split
      next negative digits heq =>
        cases hsplit.symm.trans heq
        dsimp only
        rw [hall.takeWhile hrest.noNumeral, hall.dropWhile hrest.noNumeral,
          if_neg (by simpa using hne)]
        simp
    · next heq => cases heq

theorem IsExponent.noNumeral {power rest : Text} {e : Int} (h : IsExponent power e)
    (hrest : Stops rest) : NoNumeral (power ++ rest) := by
  cases h with
  | none => exact hrest.noNumeral
  | some hmark => rcases hmark with rfl | rfl <;> exact noNumeral_cons rfl

theorem IsExponent.head?_ne {power rest : Text} {e : Int} (h : IsExponent power e)
    (hrest : Stops rest) : (power ++ rest).head? ≠ Option.some '.' := by
  cases h with
  | none => exact fun hhead => (hrest _ hhead).2.1 rfl
  | some hmark =>
    intro hhead
    cases hhead
    rcases hmark with h | h <;> cases h

/-- What a power of ten is written with. -/
theorem IsExponent.mem_power {power : Text} {e : Int} (h : IsExponent power e) :
    ∀ c ∈ power, isNumeral c = true ∨ c ∈ "-+.eE".toList := by
  cases h with
  | none => exact List.forall_mem_nil _
  | some hmark sign _ hall =>
    have hsign : ∀ c ∈ signText sign, c ∈ "-+.eE".toList := by
      rcases sign with - | - | - <;> simp [signText, powerSign]
    refine List.forall_mem_cons.mpr ⟨.inr ?_, List.forall_mem_append.mpr
      ⟨fun c hc => .inr (hsign c hc), fun c hc => .inl (hall c hc)⟩⟩
    rcases hmark with rfl | rfl <;> decide

theorem noNumeral_pointed {fraction rest : Text} (hrest : NoNumeral rest) :
    NoNumeral (pointed fraction ++ rest) := by
  rw [pointed]
  split
  · exact hrest
  · exact noNumeral_cons rfl

/-! ## Numbers -/

/-- The sign is told from the number. -/
theorem IsWhole.split_signed {whole : Text} (h : IsWhole whole) (negative : Bool) (t : Text) :
    (match signed negative (whole ++ t) with
      | '-' :: r => (true, r)
      | r => (false, r)) = (negative, whole ++ t) := by
  obtain ⟨c, more, rfl, hc⟩ := h.head
  cases negative with
  | true => rfl
  | false =>
    have hsigned : signed false (c :: more ++ t) = c :: (more ++ t) := rfl
    rw [hsigned]
    split
    · next heq =>
      cases heq
      cases hc
    · rfl

/-- **An integer** is read, or refused for the number of its digits. -/
theorem readNumber_whole {whole rest : Text} (h : IsWhole whole) (hrest : Stops rest)
    (negative : Bool) :
    readNumber (signed negative (whole ++ rest))
      = if digitLimit < whole.length then .error (.oversized whole.length)
        else .ok (.int (if negative then -(ofNumerals whole : Int) else ofNumerals whole),
          rest) := by
  have hfraction : fractionPart rest = ([], rest) :=
    fractionPart_append (numerals_replicate 0) hrest.noNumeral (IsExponent.none.head?_ne hrest)
  unfold readNumber
  split
  next sign t heq =>
    cases (h.split_signed negative rest).symm.trans heq
    rw [wholePart?_append h hrest.noNumeral]
    dsimp only
    rw [hfraction]
    dsimp only
    rw [hrest.exponentPart?]
    rfl

theorem readNumber_int {whole rest : Text} (h : IsWhole whole) (hlimit : whole.length ≤ digitLimit)
    (hrest : Stops rest) (negative : Bool) :
    readNumber (signed negative (whole ++ rest))
      = .ok (.int (if negative then -(ofNumerals whole : Int) else ofNumerals whole), rest) := by
  rw [readNumber_whole h hrest, if_neg (by omega)]

/-- **A number with a point or a power** is read as the decimal it states. -/
theorem readNumber_float {whole fraction power rest : Text} {e : Int} (h : IsWhole whole)
    (hfraction : Numerals fraction) (hpower : IsExponent power e)
    (hparts : fraction ≠ [] ∨ power ≠ []) (hrest : Stops rest) (negative : Bool) :
    readNumber (signed negative (whole ++ (pointed fraction ++ (power ++ rest))))
      = .ok (.float (Binary64.ofDecimal negative (ofNumerals (whole ++ fraction))
          (e - fraction.length)), rest) := by
  have hbehind := hpower.noNumeral hrest
  unfold readNumber
  split
  next sign t heq =>
    cases (h.split_signed negative _).symm.trans heq
    rw [wholePart?_append h (noNumeral_pointed hbehind)]
    dsimp only
    rw [fractionPart_append hfraction hbehind (hpower.head?_ne hrest)]
    dsimp only
    rw [exponentPart?_append hpower hrest]
    cases power with
    | nil =>
      cases fraction with
      | nil => simp at hparts
      | cons c fraction =>
        cases hpower
        rfl
    | cons c power => cases fraction <;> rfl

/-! ## Decimals -/

/-- Without the zeros at its end a run of digits is as it was, and some digit is left if one is no
zero. -/
theorem exists_trimZeros {ds : Text} (h : Numerals ds) (hhead : ds.head? ≠ some '0')
    (hne : ds ≠ []) :
    ∃ kept dropped, Binary64.trimZeros ds = (kept, dropped) ∧
      ds = kept ++ List.replicate dropped '0' ∧ kept ≠ [] ∧ kept.head? ≠ some '0' ∧
      Numerals kept := by
  have hsplit : ds = (ds.reverse.dropWhile (· = '0')).reverse
      ++ (ds.reverse.takeWhile (· = '0')).reverse := by
    rw [← List.reverse_append, List.takeWhile_append_dropWhile, List.reverse_reverse]
  have hzeros : (ds.reverse.takeWhile (· = '0')).reverse
      = List.replicate (ds.length - (ds.reverse.dropWhile (· = '0')).reverse.length) '0' := by
    refine List.eq_replicate_iff.mpr ⟨?_, ?_⟩
    · have hlength := congrArg List.length hsplit
      rw [List.length_append] at hlength
      omega
    · intro c hc
      simpa using List.all_eq_true.mp List.all_takeWhile c (List.mem_reverse.mp hc)
  rw [hzeros] at hsplit
  have hkept : (ds.reverse.dropWhile (· = '0')).reverse ≠ [] := by
    intro hnone
    rw [hnone, List.nil_append] at hsplit
    cases ds with
    | nil => exact hne rfl
    | cons c t => exact hhead (congrArg List.head? hsplit)
  refine ⟨_, _, rfl, hsplit, hkept, ?_, ?_⟩
  · rw [hsplit, List.head?_append_of_ne_nil _ hkept] at hhead
    exact hhead
  · intro c hc
    exact h c (hsplit ▸ List.mem_append_left _ hc)

/-- The first digits of a run that does not start with a zero. -/
theorem isWhole_take {ds : Text} (h : Numerals ds) (hhead : ds.head? ≠ some '0') (hne : ds ≠ [])
    {n : Nat} (hn : 0 < n) : IsWhole (ds.take n) := by
  obtain ⟨c, t, rfl⟩ := List.exists_cons_of_ne_nil hne
  obtain ⟨n, rfl⟩ := Nat.exists_eq_add_one_of_ne_zero hn.ne'
  exact .digits (List.cons_ne_nil _ _) hhead fun d hd => h d (List.mem_of_mem_take hd)

/-- Zeros at the end of the digits count as powers of ten. -/
theorem value_zeros (n m : Nat) (e : Int) :
    (⟨10 ^ n * m, e⟩ : Binary64.Decimal).value = (⟨m, n + e⟩ : Binary64.Decimal).value := by
  rw [Binary64.Decimal.value, Binary64.Decimal.value, zpow_add₀ (by norm_num), zpow_natCast]
  push_cast
  ring

/-- A text states the number that a decimal stands for, with a point or a power of ten. -/
def States (t : Text) (d : Binary64.Decimal) : Prop :=
  ∃ whole fraction power e, t = whole ++ (pointed fraction ++ power) ∧ IsWhole whole ∧
    Numerals fraction ∧ IsPower power e ∧ (fraction ≠ [] ∨ power ≠ []) ∧
    (⟨ofNumerals (whole ++ fraction), e - fraction.length⟩ : Binary64.Decimal).value = d.value

/-- The power of ten behind a decimal has at least two digits. -/
theorem isPower_padded (e : Int) :
    IsPower ('e' :: powerSign (decide (e < 0)) ::
      (List.replicate (2 - (Nat.toDigits 10 e.natAbs).length) '0' ++ Nat.toDigits 10 e.natAbs))
      e := by
  have hpower := IsPower.some (decide (e < 0))
    (List.append_ne_nil_of_right_ne_nil
      (List.replicate (2 - (Nat.toDigits 10 e.natAbs).length) '0') Nat.toDigits_ne_nil)
    ((numerals_replicate _).append (numerals_toDigits e.natAbs))
  rw [ofNumerals_zeros_append, ofNumerals_toDigits] at hpower
  convert hpower using 1
  simp only [decide_eq_true_eq]
  split <;> omega

/-- **A decimal is written so that it is stated.** -/
theorem states_render {d : Binary64.Decimal} (hd : d.digits ≠ 0) : States d.render.toList d := by
  obtain ⟨kept, dropped, htrim, hdigits, hne, hhead, hkept⟩ := exists_trimZeros
    (numerals_toDigits d.digits) (head?_toDigits hd) Nat.toDigits_ne_nil
  have hvalue : (⟨ofNumerals kept, dropped + d.exponent⟩ : Binary64.Decimal).value = d.value := by
    rw [← value_zeros, ← ofNumerals_append_zeros, ← hdigits, ofNumerals_toDigits]
  have hlength := List.length_pos_of_ne_nil hne
  rw [Binary64.Decimal.render, htrim]
  dsimp only
  generalize hpoint : (kept.length + dropped + d.exponent : Int) = point
  split
  · split
    · -- all digits stand behind the point
      refine ⟨['0'], List.replicate (-point).toNat '0' ++ kept, [], 0, ?_, .zero,
        (numerals_replicate _).append hkept, .none, .inl (List.append_ne_nil_of_right_ne_nil _ hne),
        ?_⟩
      · rw [String.toList_ofList, pointed, if_neg (by simp [hne])]
        simp
      · rw [← hvalue, show ['0'] ++ (List.replicate (-point).toNat '0' ++ kept)
          = List.replicate ((-point).toNat + 1) '0' ++ kept from rfl, ofNumerals_zeros_append,
          List.length_append, List.length_replicate]
        congr 2
        omega
    · split
      · -- all digits stand before the point, and zeros after them
        refine ⟨kept ++ List.replicate (point.toNat - kept.length) '0', ['0'], [], 0, ?_, ?_,
          numerals_replicate 1, .none, .inl (List.cons_ne_nil _ _), ?_⟩
        · rw [String.toList_ofList]
          rfl
        · refine .digits (List.append_ne_nil_of_left_ne_nil hne _) ?_
            (hkept.append (numerals_replicate _))
          rwa [List.head?_append_of_ne_nil _ hne]
        · rw [← hvalue, List.append_assoc, ← List.replicate_succ', ofNumerals_append_zeros,
            value_zeros, List.length_singleton]
          congr 2
          push_cast
          omega
      · -- the point stands among the digits
        have hsplit : kept.drop point.toNat ≠ [] := by
          rw [Ne, List.drop_eq_nil_iff]
          omega
        refine ⟨kept.take point.toNat, kept.drop point.toNat, [], 0, ?_,
          isWhole_take hkept hhead hne (by omega), fun c hc => hkept c (List.mem_of_mem_drop hc),
          .none, .inl hsplit, ?_⟩
        · rw [String.toList_ofList, pointed, if_neg (by simpa using hsplit), List.append_nil]
        · rw [← hvalue, List.take_append_drop, List.length_drop]
          congr 2
          omega
  · -- the first digit stands before the point, and the power tells its place
    refine ⟨kept.take 1, kept.drop 1, _, _, ?_, isWhole_take hkept hhead hne one_pos,
      fun c hc => hkept c (List.mem_of_mem_drop hc), isPower_padded (point - 1),
      .inr (List.cons_ne_nil _ _), ?_⟩
    · have hfraction : pointed (kept.drop 1)
          = if kept.length ≤ 1 then [] else '.' :: kept.drop 1 := by
        rw [pointed]
        exact if_congr (by rw [List.isEmpty_iff, List.drop_eq_nil_iff]) rfl rfl
      rw [String.toList_ofList, hfraction]
      simp [powerSign]
    · rw [← hvalue, List.take_append_drop, List.length_drop]
      congr 2
      omega

/-! ## As values -/

theorem ne_of_isNumeral {c letter : Char} (hc : isNumeral c = true)
    (hletter : isNumeral letter = false) : letter ≠ c := by
  rintro rfl
  rw [hletter] at hc
  cases hc

/-- What starts like a number is no word. -/
theorem readWord?_number {whole : Text} (h : IsWhole whole) (negative : Bool) (t : Text) :
    readWord? (signed negative (whole ++ t)) = none := by
  obtain ⟨c, more, rfl, hc⟩ := h.head
  have hI : 'I' ≠ c := ne_of_isNumeral hc rfl
  cases negative with
  | true => simp [readWord?, words, Text.dropStart?, signed, hI]
  | false =>
    have hn : 'n' ≠ c := ne_of_isNumeral hc rfl
    have ht : 't' ≠ c := ne_of_isNumeral hc rfl
    have hf : 'f' ≠ c := ne_of_isNumeral hc rfl
    have hN : 'N' ≠ c := ne_of_isNumeral hc rfl
    have hminus : '-' ≠ c := ne_of_isNumeral hc rfl
    simp [readWord?, words, Text.dropStart?, signed, hn, ht, hf, hN, hI, hminus]

/-- What starts like a number is read as one. -/
theorem readValue_number {whole : Text} (h : IsWhole whole) (negative : Bool) (t : Text)
    (fuel : Nat) :
    readValue (fuel + 1) (signed negative (whole ++ t))
      = readNumber (signed negative (whole ++ t)) := by
  have hword := readWord?_number h negative t
  obtain ⟨c, more, rfl, hc⟩ := h.head
  have hfirst : ∀ d ∈ (signed negative (c :: more ++ t)).head?, d ≠ '"' ∧ d ≠ '\x7b' ∧ d ≠ '[' := by
    cases negative with
    | true =>
      rintro d ⟨⟩
      decide
    | false =>
      rintro d ⟨⟩
      exact ⟨(ne_of_isNumeral hc rfl).symm, (ne_of_isNumeral hc rfl).symm,
        (ne_of_isNumeral hc rfl).symm⟩
  generalize signed negative (c :: more ++ t) = start at *
  unfold readValue
  split
  · exact absurd rfl (hfirst _ rfl).1
  · exact absurd rfl (hfirst _ rfl).2.1
  · exact absurd rfl (hfirst _ rfl).2.2
  · rw [hword]

theorem renderInt_eq (n : Int) : renderInt n = signed (n < 0) (Nat.toDigits 10 n.natAbs) := by
  rw [renderInt, Int.toString_eq_repr, Int.repr_eq_if]
  split
  · next h =>
    rw [Nat.toList_repr, signed, if_neg (by simpa using h), show n.toNat = n.natAbs by omega]
  · next h =>
    rw [signed, if_pos (by simpa using h), String.toList_append, Nat.toList_repr,
      show (-n).toNat = n.natAbs by omega]
    rfl

theorem signed_append (negative : Bool) (t t' : Text) :
    signed negative t ++ t' = signed negative (t ++ t') := by
  cases negative <;> rfl

/-- **An integer is read as it was written**, if it has no more digits than are read. -/
theorem readValue_int {n : Int} (h : (Nat.toDigits 10 n.natAbs).length ≤ digitLimit) {rest : Text}
    (hrest : Stops rest) (fuel : Nat) :
    readValue (fuel + 1) (renderInt n ++ rest) = .ok (.int n, rest) := by
  have hwhole := isWhole_toDigits n.natAbs
  rw [renderInt_eq, signed_append, readValue_number hwhole, readNumber_int hwhole h hrest,
    ofNumerals_toDigits]
  have hn : (if decide (n < 0) = true then -(n.natAbs : Int) else n.natAbs) = n := by
    simp only [decide_eq_true_eq]
    split <;> omega
  rw [hn]

/-- What states a decimal is read as the number nearest to it. -/
theorem States.readValue {t rest : Text} {d : Binary64.Decimal} (h : States t d)
    (hrest : Stops rest) (negative : Bool) (fuel : Nat) :
    ∃ d' : Binary64.Decimal, d'.value = d.value ∧
      readValue (fuel + 1) (signed negative t ++ rest)
        = .ok (.float (Binary64.ofDecimal negative d'.digits d'.exponent), rest) := by
  obtain ⟨whole, fraction, power, e, rfl, hwhole, hfraction, hpower, hparts, hvalue⟩ := h
  refine ⟨_, hvalue, ?_⟩
  rw [signed_append, List.append_assoc, List.append_assoc, readValue_number hwhole,
    readNumber_float hwhole hfraction hpower.isExponent hparts hrest]

/-- A finite number as it is written. -/
theorem toList_render {x : Binary64} (h : x.isFinite = true) :
    x.render.toList = signed x.isNegative
      (if x.magnitude = 0 then "0.0".toList
        else (Binary64.shortest x.magnitude).render.toList) := by
  have hnan : x.isNaN = false := by
    rw [Binary64.isFinite, decide_eq_true_eq] at h
    rw [Binary64.isNaN, Bool.and_eq_false_iff]
    exact .inl (decide_eq_false h)
  rw [Binary64.render, if_neg (by simp [hnan])]
  dsimp only
  rw [if_neg (by simp [h])]
  cases x.isNegative <;> split <;> simp [signed]

/-- A finite number is written so that it is stated, and it is the number nearest to what states
it. -/
theorem exists_states {x : Binary64} (h : x.isFinite = true) :
    ∃ t d, x.render.toList = signed x.isNegative t ∧ States t d ∧
      ∀ d' : Binary64.Decimal, d'.value = d.value →
        Binary64.ofDecimal x.isNegative d'.digits d'.exponent = x := by
  rw [toList_render h]
  split
  · next hzero =>
    have hstates : States "0.0".toList ⟨0, 0⟩ :=
      ⟨['0'], ['0'], [], 0, rfl, .zero, numerals_replicate 1, .none, .inl (List.cons_ne_nil _ _),
        by simp [Binary64.Decimal.value, ofNumerals]⟩
    refine ⟨_, _, rfl, hstates, fun d hd => ?_⟩
    have hpower : (10 : ℚ) ^ d.exponent ≠ 0 := by positivity
    have hdigits : d.digits = 0 := by simpa [Binary64.Decimal.value, hpower] using hd
    have hback := Binary64.ofMagnitude_magnitude h
    rw [hzero] at hback
    rw [Binary64.ofDecimal, if_pos hdigits, hback]
  · next hne =>
    obtain ⟨m, s, hscaled⟩ := x.exists_scaled
    have hdigits := (Binary64.holds_shortest hscaled (Nat.pos_of_ne_zero hne)).2
    exact ⟨_, _, rfl, states_render hdigits, fun d hd => Binary64.ofDecimal_shortest h hne hd⟩

/-- **A finite number is read as it was written.** -/
theorem readValue_finite {x : Binary64} (h : x.isFinite = true) {rest : Text}
    (hrest : Stops rest) (fuel : Nat) :
    readValue (fuel + 1) (x.render.toList ++ rest) = .ok (.float x, rest) := by
  obtain ⟨t, d, hrender, hstates, hback⟩ := exists_states h
  obtain ⟨d', hd', hread⟩ := hstates.readValue hrest x.isNegative fuel
  rw [hrender, hread, hback d' hd']

/-- **A binary64 number is read as it was written**; of those that are no number there is one. -/
theorem readValue_float {x : Binary64} (h : x.isNaN = true → x = Binary64.nan) {rest : Text}
    (hrest : Stops rest) (fuel : Nat) :
    readValue (fuel + 1) (renderFloat x ++ rest) = .ok (.float x, rest) := by
  rw [renderFloat]
  split
  · next hnan =>
    rw [h hnan]
    rfl
  · next hnan =>
    split
    · next hfinite => exact readValue_finite hfinite hrest fuel
    · next hfinite =>
      have hx := Binary64.eq_infinity (by simpa using hnan) (by simpa using hfinite)
      split
      · next hnegative =>
        rw [hx, hnegative]
        rfl
      · next hpositive =>
        rw [hx, show x.isNegative = false by simpa using hpositive]
        rfl

end Json

end GhostEdit
