import GhostEdit.Proofs.Overlay.Preview

/-!
# Where ghost text starts on a row

Ghost text that continues a row is drawn behind what is typed there, and what is typed must not be
told differently by it. The column comes out of an alignment of the two texts, in which the longest
common stretch need not be the one at their start. The first step of the alignment decides: if it
leaves a start of both texts the same, ghost text starts behind it, and otherwise the row is not
continued at all.

## Main results

* `Layout.inlineSplit?_of_starting`: a row that the proposed line starts with is continued at its
  end
* `Layout.inlineSplit?_le_proposed`, `Layout.inlineSplit?_le_existing`: the column lies in both
  texts
* `Layout.inlineSplit?_eq_none_iff`: which rows are not continued
* `Layout.inlineSplit?_faithful`: all of it
-/

namespace GhostEdit

namespace Layout

variable {existing proposed : Text}

/-- A row that the proposed line starts with is continued at its end. -/
theorem inlineSplit?_of_starting (h : existing <+: proposed) :
    inlineSplit? existing proposed = some existing.length := by
  rw [inlineSplit?, if_pos (List.isPrefixOf_iff_prefix.mpr h)]

/-- Any other row has a first change, and the column is where it stands in the proposed line. -/
theorem inlineSplit?_of_departing (h : ¬ existing <+: proposed) :
    ∃ e, (Alignment.edits existing proposed).find? (!·.same) = some e ∧
      inlineSplit? existing proposed = if 0 < e.rightStart then some e.rightStart else none := by
  have hne : existing ≠ proposed := fun heq => h (heq ▸ List.prefix_refl existing)
  obtain ⟨e, he⟩ := Alignment.exists_find?_edits hne
  refine ⟨e, he, ?_⟩
  rw [inlineSplit?, if_neg (fun hprefix => h (List.isPrefixOf_iff_prefix.mp hprefix)), he]

/-- The column lies in the proposed line, at most behind its last character. -/
theorem inlineSplit?_le_proposed {c : Nat} (h : inlineSplit? existing proposed = some c) :
    c ≤ proposed.length := by
  by_cases hprefix : existing <+: proposed
  · rw [inlineSplit?_of_starting hprefix] at h
    rw [← Option.some.inj h]
    exact hprefix.length_le
  · obtain ⟨e, he, hsplit⟩ := inlineSplit?_of_departing hprefix
    rw [hsplit] at h
    split at h
    · rw [← Option.some.inj h]
      exact Alignment.rightStart_le (List.mem_of_find?_eq_some he)
    · cases h

/-- So it does in the row, as the two read the same up to there. -/
theorem inlineSplit?_le_existing {c : Nat} (h : inlineSplit? existing proposed = some c) :
    c ≤ existing.length := by
  have hlength := congrArg List.length (take_eq_take_of_inlineSplit? h)
  have hproposed := inlineSplit?_le_proposed h
  rw [List.length_take, List.length_take] at hlength
  omega

/-- **A row is not continued** when the alignment starts with a change. -/
theorem inlineSplit?_eq_none_iff (h : ¬ existing <+: proposed) :
    inlineSplit? existing proposed = none ↔ ¬ Alignment.StartsSame existing proposed := by
  obtain ⟨e, he, hsplit⟩ := inlineSplit?_of_departing h
  rw [hsplit, ← Alignment.rightStart_pos_iff he]
  split
  · next hpos => exact ⟨nofun, fun hnot => absurd hpos hnot⟩
  · next hnot => exact ⟨fun _ => hnot, fun _ => rfl⟩

/-- **Ghost text never falsifies what is typed.**

* A column where it starts lies in the row and in the proposed line, which read the same up to
  there; so what is typed and what is drawn make up the proposed line.
* A row that the proposed line starts with is continued at its end.
* For any other row the alignment has a change, and the row is not continued exactly when the first
  step of the alignment is none that leaves a start of both texts the same. -/
theorem inlineSplit?_faithful (existing proposed : Text) :
    (∀ c, inlineSplit? existing proposed = some c →
        c ≤ existing.length ∧ c ≤ proposed.length ∧ existing.take c = proposed.take c ∧
          existing.take c ++ proposed.drop c = proposed) ∧
      (existing <+: proposed → inlineSplit? existing proposed = some existing.length) ∧
      (¬ existing <+: proposed →
        (∃ e ∈ Alignment.edits existing proposed, e.same = false) ∧
          (inlineSplit? existing proposed = none ↔
            ¬ Alignment.StartsSame existing proposed)) := by
  refine ⟨fun c hc => ?_, inlineSplit?_of_starting, fun h => ⟨?_, inlineSplit?_eq_none_iff h⟩⟩
  · have hsame := take_eq_take_of_inlineSplit? hc
    refine ⟨inlineSplit?_le_existing hc, inlineSplit?_le_proposed hc, hsame, ?_⟩
    rw [hsame, List.take_append_drop]
  · obtain ⟨e, he, -⟩ := inlineSplit?_of_departing h
    have hchange := List.find?_some he
    exact ⟨e, List.mem_of_find?_eq_some he, by simpa using hchange⟩

/-- A row that departs in the middle, one that is continued at its end, and one whose longest common
stretch with the proposed line is not at its start. -/
theorem inlineSplit?_departing :
    (inlineSplit? "def fob".toList "def fib(n):".toList = some 5 ∧
        "def fob".toList.take 5 ++ "def fib(n):".toList.drop 5 = "def fib(n):".toList) ∧
      inlineSplit? "def fib".toList "def fib(n):".toList = some 7 ∧
      inlineSplit? "axyz".toList "xyzab".toList = none := by
  have hsplit : inlineSplit? "def fob".toList "def fib(n):".toList = some 5 := by decide +kernel
  refine ⟨⟨hsplit, ((inlineSplit?_faithful _ _).1 5 hsplit).2.2.2⟩, ?_, ?_⟩
  · exact (inlineSplit?_faithful "def fib".toList _).2.1 ⟨"(n):".toList, rfl⟩
  · refine ((inlineSplit?_faithful _ _).2.2 (by decide +kernel)).2.mpr ?_
    rintro ⟨first, hfirst, hsame, -⟩
    have hhead : (Alignment.edits "axyz".toList "xyzab".toList).head?
        = some ⟨false, 0, 1, 0, 0⟩ := by decide +kernel
    rw [hhead] at hfirst
    cases hfirst
    cases hsame

end Layout

end GhostEdit
