import GhostEdit.Proofs.Json.RoundTrip
import GhostEdit.Proofs.Suggestion.Cleanup
import GhostEdit.Suggestion.Answer

/-!
# A response that needs no cleanup

A response may hold its sets of suggestions and nothing else. The cleanup does not know: it looks
for tags in the whole text, strings included. Written out, strings keep the characters of a tag as
they are, so the cleanup takes from a string what stands between two tags in it. Where no two tags
stand, it takes nothing, and the sets are built from the very values that were written.

## Main definitions

* `Cleanup.Tagged`: some reasoning stands between two tags of one name
* `Answer.written`: sets of suggestions as a response that holds nothing else

## Main results

* `Cleanup.reasoned_plain`: what the cleanup takes for reasoning in plain text
* `Answer.parse_written`: when such a response is taken as it is, and what becomes of it
-/

namespace GhostEdit

namespace Cleanup

/-! ## Tags in plain text -/

/-- Between two tags of one name some reasoning stands in a text. -/
def Tagged (t : Text) : Prop :=
  ∃ before name inside closing after,
    t = before ++ '<' :: (name ++ '>' :: (inside ++ '<' :: '/' :: (closing ++ '>' :: after))) ∧
      String.ofList (name.map Char.toLower) ∈ tagNames ∧
      closing.map Char.toLower = name.map Char.toLower

theorem foldTag_plain {c : Char} (h : c.toNat < 127) : foldTag c = c.toLower := by
  have hkelvin : c ≠ '\u212a' := by
    rintro rfl
    exact absurd h (by decide)
  have hdotted : c ≠ '\u0130' := by
    rintro rfl
    exact absurd h (by decide)
  rw [foldTag, if_neg hkelvin, if_neg hdotted]

theorem matchesLetter_plain {letter c : Char} (h : c.toNat < 127) :
    matchesLetter letter c = decide (c.toLower = letter) := by
  have hdotless : c ≠ '\u0131' := by
    rintro rfl
    exact absurd h (by decide)
  have hlong : c ≠ '\u017f' := by
    rintro rfl
    exact absurd h (by decide)
  rw [matchesLetter, foldTag_plain h]
  simp [hdotless, hlong]

theorem map_foldTag_plain {t : Text} (h : Json.Plain t) : t.map foldTag = t.map Char.toLower :=
  List.map_congr_left fun c hc => foldTag_plain (h c hc).2

theorem spelledOut_plain {letters name : Text} (h : Json.Plain name) :
    SpelledOut letters name ↔ name.map Char.toLower = letters := by
  induction name generalizing letters with
  | nil =>
    rw [List.map_nil, eq_comm]
    constructor
    · rintro ⟨⟩
      rfl
    · rintro rfl
      exact .nil
  | cons c name ih =>
    obtain ⟨hc, hname⟩ := Json.plain_cons.mp h
    rw [List.map_cons]
    constructor
    · intro hspelled
      cases hspelled with
      | cons hmatch hmore =>
        rw [matchesLetter_plain hc.2, decide_eq_true_eq] at hmatch
        rw [hmatch, (ih hname).mp hmore]
    · rintro rfl
      refine .cons ?_ ((ih hname).mpr rfl)
      rw [matchesLetter_plain hc.2, decide_eq_true_eq]

/-- In plain text a reasoning block is what stands between two tags of one name. -/
theorem reasoned_plain {t : Text} (h : Json.Plain t) : Reasoned t ↔ Tagged t := by
  constructor
  · rintro ⟨before, _, rfl, letters, hletters, name, _, rfl, hspelled, inside, closing, after, rfl,
      hclosing⟩
    simp only [Json.plain_append, Json.plain_cons] at h
    obtain ⟨-, -, hname, -, -, -, -, hclose, -⟩ := h
    rw [spelledOut_plain hname] at hspelled
    rw [map_foldTag_plain hname, map_foldTag_plain hclose] at hclosing
    refine ⟨before, name, inside, closing, after, rfl, ?_, hclosing⟩
    rwa [hspelled, String.ofList_toList]
  · rintro ⟨before, name, inside, closing, after, rfl, hname', hclosing⟩
    simp only [Json.plain_append, Json.plain_cons] at h
    obtain ⟨-, -, hname, -, -, -, -, hclose, -⟩ := h
    refine ⟨before, _, rfl, _, hname', name, _, rfl, ?_, inside, closing, after, rfl, ?_⟩
    · rw [spelledOut_plain hname, String.toList_ofList]
    · rw [map_foldTag_plain hname, map_foldTag_plain hclose, hclosing]

end Cleanup

namespace Answer

/-- Sets of suggestions as a response that holds nothing else. -/
def written (sets : List (List Value)) : Text := Json.render (.arr (sets.map .arr))

variable {sets : List (List Value)}

theorem isJson_sets (h : ∀ raws ∈ sets, ∀ raw ∈ raws, raw.IsJson) :
    (Value.arr (sets.map .arr)).IsJson := by
  refine .arr fun v hv => ?_
  obtain ⟨raws, hraws, rfl⟩ := List.mem_map.mp hv
  exact .arr (h raws hraws)

theorem clean_written (h : ∀ raws ∈ sets, ∀ raw ∈ raws, raw.IsJson) :
    Cleanup.clean (written sets) = written sets ↔
      ¬ Cleanup.Tagged (written sets) ∧ ¬ Cleanup.Blocked (written sets) := by
  have hplain : Json.Plain (written sets) := Json.plain_render (isJson_sets h)
  have hnone : '\n' ∉ Json.renderElements (sets.map .arr) := by
    intro hmem
    have hline := hplain '\n' (List.mem_append_left _ (List.mem_cons_of_mem _ hmem))
    exact absurd hline (by decide)
  rw [← Cleanup.reasoned_plain hplain]
  exact Cleanup.clean_eq_self_iff hnone

theorem rawSets_lists (hne : sets ≠ []) : rawSets (sets.map .arr) = sets.map .arr := by
  obtain ⟨raws, more, rfl⟩ := List.exists_cons_of_ne_nil hne
  rfl

/-- **A response of plain sets is taken as it is**, whatever code the items propose, exactly when no
two tags that the cleanup looks for stand in it: then every set is built from the values that were
written. -/
theorem parse_written (hne : sets ≠ []) (h : ∀ raws ∈ sets, ∀ raw ∈ raws, raw.IsJson)
    (current : List Text) :
    (Cleanup.clean (written sets) = written sets ↔
        ¬ Cleanup.Tagged (written sets) ∧ ¬ Cleanup.Blocked (written sets)) ∧
      (¬ Cleanup.Tagged (written sets) → ¬ Cleanup.Blocked (written sets) →
        parse (written sets) current
          = .ok ((sets.map fun raws => Assembly.build (.arr raws) current).filter
              (!·.isEmpty))) := by
  refine ⟨clean_written h, fun htagged hblocked => ?_⟩
  have hclean := (clean_written h).mpr ⟨htagged, hblocked⟩
  have hsome : (written sets).isEmpty = false := rfl
  have hdecode : decode (written sets) = .ok (.arr (sets.map .arr)) := by
    rw [decode, written, Json.decode_render (isJson_sets h)]
  have hraws : rawSetsOf (written sets) = .ok (sets.map .arr) := by
    rw [rawSetsOf, hclean]
    simp only [hsome, hdecode, rawSets_lists hne]
    rfl
  rw [parse, hraws]
  dsimp only
  rw [List.map_map]
  rfl

/-- One item that replaces the first row by `content`. -/
def proposal (content : String) : List (List Value) :=
  [[.obj [Value.member "content" (.ofString content), Value.member "start_row" (.int 1),
    Value.member "end_row" (.int 1)]]]

/-- The set that it states. -/
def proposed (content : String) : SuggestionSet :=
  [{ id := 1, content := content.toList, startRow := 1, endRow := 1, firstRow := 1 }]

theorem isJson_proposal (content : String) :
    ∀ raws ∈ proposal content, ∀ raw ∈ raws, raw.IsJson := by
  have hint : (Value.int 1).IsJson := .int (by decide)
  simp only [proposal, List.forall_mem_singleton]
  refine .obj ?_ ?_ ?_
  · simp [Value.member]
  · simp [Value.member, Name.IsJson]
  · simp only [List.forall_mem_cons]
    exact ⟨.str _, hint, hint, by simp⟩

/-- A proposal that looks like a wrapping, but for the tags that would close it. -/
def lookalike : String :=
  "\x60\x60\x60json\n</suggestions> [\"<Think>\", \\, ]: </reasoning><THINKING>\n\x60\x60\x60"

theorem lookalike_intact :
    proposal lookalike ≠ [] ∧ (∀ raws ∈ proposal lookalike, ∀ raw ∈ raws, raw.IsJson) ∧
      Cleanup.clean (written (proposal lookalike)) = written (proposal lookalike) ∧
      parse (written (proposal lookalike)) [['a']] = .ok [proposed lookalike] := by
  have hne : proposal lookalike ≠ [] := List.cons_ne_nil _ _
  have hjson := isJson_proposal lookalike
  have hclean : Cleanup.clean (written (proposal lookalike)) = written (proposal lookalike) := by
    decide +kernel
  obtain ⟨hiff, hparse⟩ := parse_written hne hjson [['a']]
  obtain ⟨htagged, hblocked⟩ := hiff.mp hclean
  refine ⟨hne, hjson, hclean, (hparse htagged hblocked).trans (congrArg Except.ok ?_)⟩
  decide +kernel

/-- What stands between two tags of one name is taken out of the code. -/
theorem tagged_altered :
    (parse (written (proposal "<think>x</think>y")) [['a']]).toOption = some [proposed "y"] ∧
      (proposal "<think>x</think>y").map (fun raws => Assembly.build (.arr raws) [['a']])
        = [proposed "<think>x</think>y"] := by
  constructor <;> decide +kernel

end Answer

end GhostEdit
