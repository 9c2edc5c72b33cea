import GhostEdit.Proofs.Json.Forming
import GhostEdit.Proofs.Suggestion.Cleanup
import GhostEdit.Proofs.Suggestion.TrailingCommas

/-!
# When an answer is refused

An answer has no sets, or states some, or it is refused: because no value can be decoded from it, or
because the value is neither null nor an array. There is one way around this. The decoder fails in
two ways, by a flaw of the text and by an integer with too many digits, and only a flaw is taken for
an answer that cannot be decoded. The other failure passes through as it is; then the digits stand
in the cleaned answer, as the commas that the second attempt leaves out are not between digits.

## Main definitions

* `Answer.decoded?`: the value of a text, at the first or the second attempt
* `Answer.Refused`: a text that is no answer

## Main results

* `Answer.longRun_dropTrailingCommas`: no run of digits comes about by leaving out commas
* `Answer.parse_outcome`: when an answer is refused, and what else can happen
-/

namespace GhostEdit

namespace Answer

open Json

/-! ## Runs of digits -/

/-- Before a closer there is no digit. -/
theorem head?_of_closing {t : Text} (h : closing t = true) :
    ∀ c ∈ (dropTrailingCommas t).head?, isNumeral c = false := by
  cases t with
  | nil => exact nofun
  | cons c t =>
    have hc : isBlank c = true ∨ (c = ']' ∨ c = '\x7d') := by
      by_cases hblank : isBlank c = true
      · exact .inl hblank
      · rw [closing, Text.skipBlanks, List.dropWhile_cons_of_neg hblank] at h
        exact .inr (by simpa using h)
    have hcomma : c ≠ ',' := by
      rintro rfl
      rcases hc with h | h | h <;> cases h
    rw [dropTrailingCommas_cons, if_neg (by simp [hcomma])]
    rintro d ⟨⟩
    by_contra hd
    rw [Bool.not_eq_false] at hd
    rcases hc with hc | rfl | rfl
    · rw [isBlank_of_isNumeral hd] at hc
      cases hc
    · cases hd
    · cases hd

theorem prefix_dropTrailingCommas {digits t : Text} (hdigits : Numerals digits)
    (h : digits <+: dropTrailingCommas t) : digits <+: t := by
  induction t generalizing digits with
  | nil => exact h
  | cons c t ih =>
    cases digits with
    | nil => exact List.nil_prefix
    | cons d digits =>
      rw [dropTrailingCommas_cons] at h
      split at h
      · next hcomma =>
        rw [Bool.and_eq_true] at hcomma
        obtain ⟨more, hmore⟩ := h
        have hd := hdigits d List.mem_cons_self
        rw [head?_of_closing hcomma.2 d (by rw [← hmore]; rfl)] at hd
        cases hd
      · obtain ⟨rfl, hmore⟩ := List.cons_prefix_cons.mp h
        exact List.cons_prefix_cons.mpr
          ⟨rfl, ih (fun e he => hdigits e (List.mem_cons_of_mem d he)) hmore⟩

theorem infix_dropTrailingCommas {digits t : Text} (hdigits : Numerals digits)
    (h : digits <:+: dropTrailingCommas t) : digits <:+: t := by
  induction t with
  | nil => exact h
  | cons c t ih =>
    rw [dropTrailingCommas_cons] at h
    split at h
    · exact List.infix_cons (ih h)
    · next hkept =>
      rcases List.infix_cons_iff.mp h with hstart | hwithin
      · refine (prefix_dropTrailingCommas hdigits ?_).isInfix
        rwa [dropTrailingCommas_cons, if_neg hkept]
      · exact List.infix_cons (ih hwithin)

/-- Leaving out commas makes no number longer. -/
theorem longRun_dropTrailingCommas {n : Nat} {t : Text} (h : LongRun n (dropTrailingCommas t)) :
    LongRun n t := by
  obtain ⟨hlong, digits, hdigits, hlength, hwithin⟩ := h
  exact ⟨hlong, digits, hdigits, hlength, infix_dropTrailingCommas hdigits hwithin⟩

/-! ## Decoding -/

/-- The value that can be decoded from a text, as it is or without trailing commas. -/
def decoded? (text : Text) : Option Value :=
  (Json.decode text).toOption <|> (Json.decode (dropTrailingCommas text)).toOption

/-- What decoding a text comes to. -/
inductive DecodeOutcome (text : Text) : Except Failure Value → Prop
  | decoded {v : Value} (h : decoded? text = some v) : DecodeOutcome text (.ok v)
  | undecodable (message : String) (h : decoded? text = none) :
    DecodeOutcome text (.error (.fault { kind := .responseDecode, message, text }))
  | oversized {digits : Nat} (h : LongRun digits text) :
    DecodeOutcome text (.error (.oversized digits))

theorem decode_outcome (text : Text) : DecodeOutcome text (decode text) := by
  rw [decode]
  cases hfirst : Json.decode text with
  | ok v => exact .decoded (by rw [decoded?, hfirst]; rfl)
  | error e =>
    cases e with
    | oversized digits => exact .oversized (run_of_oversized hfirst)
    | flawed flaw rest =>
      dsimp only
      cases hsecond : Json.decode (dropTrailingCommas text) with
      | ok v => exact .decoded (by rw [decoded?, hfirst, hsecond]; rfl)
      | error e =>
        cases e with
        | oversized digits =>
          exact .oversized (longRun_dropTrailingCommas (run_of_oversized hsecond))
        | flawed flaw rest =>
          exact .undecodable _ (by rw [decoded?, hfirst, hsecond]; rfl)

/-! ## Answers -/

/-- A text that is no answer: no value can be decoded from it, or one that is neither null nor an
array. -/
def Refused (text : Text) : Prop :=
  text ≠ [] ∧ ∀ v, decoded? text = some v → v ≠ .null ∧ ∀ items, v ≠ .arr items

/-- How an answer is refused. -/
def refusal (answer : Text) (message : String) : Failure :=
  .fault { kind := .responseDecode, message, text := Cleanup.clean answer }

/-- What reading an answer comes to. -/
inductive ParseOutcome (answer : Text) : Except Failure (List SuggestionSet) → Prop
  | read (sets : List SuggestionSet) (h : ¬ Refused (Cleanup.clean answer)) :
    ParseOutcome answer (.ok sets)
  | refused (message : String) (h : Refused (Cleanup.clean answer)) :
    ParseOutcome answer (.error (refusal answer message))
  | oversized {n : Nat} (h : LongRun n (Cleanup.clean answer)) :
    ParseOutcome answer (.error (.oversized n))

theorem parse_cases (answer : Text) (current : List Text) :
    ParseOutcome answer (parse answer current) := by
  rw [parse, rawSetsOf]
  cases hempty : (Cleanup.clean answer).isEmpty with
  | true => exact .read _ fun hrefused => hrefused.1 (List.isEmpty_iff.mp hempty)
  | false =>
    have hne : Cleanup.clean answer ≠ [] := by simpa using hempty
    have houtcome := decode_outcome (Cleanup.clean answer)
    generalize decode (Cleanup.clean answer) = x at houtcome
    cases houtcome with
    | @decoded v h =>
      cases v with
      | null => exact .read _ fun hrefused => (hrefused.2 _ h).1 rfl
      | arr items => exact .read _ fun hrefused => (hrefused.2 _ h).2 items rfl
      | _ =>
        refine .refused "Expected a JSON array of suggestions" ⟨hne, fun v hv => ?_⟩
        rw [h] at hv
        cases hv
        exact ⟨nofun, nofun⟩
    | undecodable message h =>
      refine .refused message ⟨hne, fun v hv => ?_⟩
      rw [h] at hv
      cases hv
    | oversized h => exact .oversized h

/-- **An answer that is no answer is refused**, and nothing else is; there is one other way to fail,
by a number with too many digits, and then these stand in the cleaned answer. -/
theorem parse_outcome (answer : Text) (current : List Text) :
    ((∃ sets, parse answer current = .ok sets) ∨
        (∃ message, parse answer current = .error (refusal answer message)) ∨
        ∃ n, LongRun n (Cleanup.clean answer) ∧ parse answer current = .error (.oversized n)) ∧
      ((∀ n, parse answer current ≠ .error (.oversized n)) →
        ((∃ message, parse answer current = .error (refusal answer message)) ↔
          Refused (Cleanup.clean answer))) := by
  have houtcome := parse_cases answer current
  generalize parse answer current = x at houtcome
  cases houtcome with
  | read sets h =>
    refine ⟨.inl ⟨sets, rfl⟩, fun _ => iff_of_false ?_ h⟩
    rintro ⟨message, hfailed⟩
    cases hfailed
  | refused message h => exact ⟨.inr (.inl ⟨message, rfl⟩), fun _ => iff_of_true ⟨message, rfl⟩ h⟩
  | oversized h => exact ⟨.inr (.inr ⟨_, h, rfl⟩), fun hnot => absurd rfl (hnot _)⟩

/-- An answer that holds an object is refused. -/
theorem object_refused :
    (∀ n, parse "{}".toList [] ≠ .error (.oversized n)) ∧
      ∃ message, parse "{}".toList [] = .error (refusal "{}".toList message) := by
  have hnot : ∀ n, parse "{}".toList [] ≠ .error (.oversized n) := nofun
  have hrefused : Refused (Cleanup.clean "{}".toList) := by
    refine ⟨by decide, fun v hv => ?_⟩
    cases hv
    exact ⟨nofun, nofun⟩
  exact ⟨hnot, ((parse_outcome "{}".toList []).2 hnot).mpr hrefused⟩

/-! ## An integer that is too long -/

/-- An array of one integer. -/
def repunit (k : Nat) : Text := '[' :: List.replicate k '1' ++ [']']

variable {k : Nat}

theorem isWhole_ones (hk : k ≠ 0) : IsWhole (List.replicate k '1') := by
  obtain ⟨k, rfl⟩ := Nat.exists_eq_add_one_of_ne_zero hk
  refine .digits (List.cons_ne_nil _ _) nofun fun c hc => ?_
  rw [List.eq_of_mem_replicate hc]
  rfl

theorem decode_repunit (h : digitLimit < k) : Json.decode (repunit k) = .error (.oversized k) := by
  have hk : k ≠ 0 := by
    rintro rfl
    cases h
  have hnumber : ∀ fuel, readValue (fuel + 1) (List.replicate k '1' ++ [']'])
      = .error (.oversized k) := by
    intro fuel
    have hread := readValue_number (isWhole_ones hk) false [']'] fuel
    rw [readNumber_whole (isWhole_ones hk) (stops_bracket []), List.length_replicate,
      if_pos h] at hread
    exact hread
  have hskip : skipSpace (List.replicate k '1' ++ [']']) = List.replicate k '1' ++ [']'] := by
    obtain ⟨k, rfl⟩ := Nat.exists_eq_add_one_of_ne_zero hk
    exact skipSpace_cons rfl _
  have hlength : 2 * (repunit k).length + 2 = 2 * k + 3 + 1 + 1 + 1 := by
    simp [repunit]
    omega
  have hvalue : readValue (2 * (repunit k).length + 2) (repunit k) = .error (.oversized k) := by
    rw [hlength, repunit, List.cons_append, readValue, hskip]
    split
    · next heq =>
      obtain ⟨k, rfl⟩ := Nat.exists_eq_add_one_of_ne_zero hk
      cases heq
    · exact readElements_error (hnumber _) []
  have hstart : skipSpace (repunit k) = repunit k := skipSpace_cons rfl _
  rw [Json.decode.eq_def]
  split
  · next heq => cases heq
  · rw [hstart, hvalue]
    rfl

theorem not_mem_repunit {c : Char} (h : c ∉ "[1]".toList) : c ∉ repunit k := by
  intro hmem
  rcases List.mem_append.mp hmem with hmem | hmem
  · rcases List.mem_cons.mp hmem with rfl | hmem
    · exact h (by decide)
    · exact h (List.eq_of_mem_replicate hmem ▸ by decide)
  · exact h (List.mem_singleton.mp hmem ▸ by decide)

theorem clean_repunit : Cleanup.clean (repunit k) = repunit k := by
  have hangle : '<' ∉ '[' :: List.replicate k '1' ++ [']'] := not_mem_repunit (by decide)
  have hline : '\n' ∉ List.replicate k '1' := fun hmem =>
    absurd (List.eq_of_mem_replicate hmem) (by decide)
  refine (Cleanup.clean_eq_self_iff hline).mpr ⟨?_, ?_⟩
  · rintro ⟨before, _, heq, letters, -, name, inside, rfl, -⟩
    rw [heq] at hangle
    exact hangle (List.mem_append_right _ List.mem_cons_self)
  · rintro ⟨before, inside, after, heq⟩
    rw [heq] at hangle
    exact hangle (List.mem_append_right _ (List.mem_append_left _ (by decide)))

/-- An integer that is too long is no reason to refuse an answer, though none can be decoded. -/
theorem repunit_oversized (h : digitLimit < k) (current : List Text) :
    Refused (Cleanup.clean (repunit k)) ∧
      parse (repunit k) current = .error (.oversized k) := by
  have hcommas : dropTrailingCommas (repunit k) = repunit k := by
    have hcomma : ',' ∉ repunit k := not_mem_repunit (by decide)
    have hmends := mends_of_not_mem hcomma []
    rwa [List.append_nil, dropTrailingCommas, List.append_nil] at hmends
  have hnone : decoded? (repunit k) = none := by
    rw [decoded?, hcommas, decode_repunit h]
    rfl
  have hdecode : decode (repunit k) = .error (.oversized k) := by rw [decode, decode_repunit h]
  have hsome : (repunit k).isEmpty = false := rfl
  rw [clean_repunit]
  refine ⟨⟨List.cons_ne_nil _ _, fun v hv => ?_⟩, ?_⟩
  · rw [hnone] at hv
    cases hv
  · rw [parse, rawSetsOf, clean_repunit]
    simp only [hsome, hdecode]
    rfl

/-- An array with an integer of one digit more than are read. -/
theorem repunit_escapes :
    Refused (Cleanup.clean (repunit 4301)) ∧
      parse (repunit 4301) [['x']] = .error (.oversized 4301) :=
  repunit_oversized (by decide) _

end Answer

end GhostEdit
