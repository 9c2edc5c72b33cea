import GhostEdit.Proofs.Ignore.Below

/-!
# Patterns that name directories

A pattern with a slash at its end is meant for directories: a file is ignored because of a directory
above it, and not because of its own name. For a pattern without another slash this is so. A pattern
that counts from the top of the project is matched without its slash, and so it also matches a file
whose path it fits as a whole (`file_taken_for_directory`).

## Main definitions

* `IgnoreRule.WithinMatched`: a path below one that a pattern matches

## Main results

* `IgnoreRule.coversAnchored_iff_within`: what a pattern with a slash inside matches
* `IgnoreRule.coversComponent_directoryOnly`: what one without matches, if it names directories
* `IgnoreRule.covers_directory_iff`: what a pattern with a slash at its end matches
-/

namespace GhostEdit

namespace IgnoreRule

variable {pattern path : Text}

/-- The path lies below a directory that the pattern matches. -/
def WithinMatched (pattern path : Text) : Prop :=
  ∃ dir rest, path = dir ++ '/' :: rest ∧ covers pattern dir = true

theorem withinMatched_iff :
    WithinMatched pattern path ↔
      ∃ dir ∈ ancestors (Text.pieces '/' path), covers pattern dir = true := by
  simp only [WithinMatched, mem_ancestors_pieces]
  constructor
  · rintro ⟨dir, rest, hpath, hcovers⟩
    exact ⟨dir, ⟨rest, hpath⟩, hcovers⟩
  · rintro ⟨dir, ⟨rest, hpath⟩, hcovers⟩
    exact ⟨dir, rest, hpath, hcovers⟩

instance : Decidable (WithinMatched pattern path) := decidable_of_iff' _ withinMatched_iff

/-! ## The slashes at the end -/

/-- A pattern without slashes at its end does not end with one. -/
theorem getLast?_bare (pattern : Text) : (bare pattern).getLast? ≠ some '/' := by
  rw [bare, Text.dropEndWhile, List.getLast?_reverse]
  intro h
  have hstop := List.head?_dropWhile_not (fun c => decide (c = '/')) pattern.reverse
  rw [h] at hstop
  exact absurd hstop (by simp)

theorem bare_of_getLast? (h : pattern.getLast? ≠ some '/') : bare pattern = pattern := by
  rw [bare, Text.dropEndWhile]
  rw [← List.head?_reverse] at h
  cases hreverse : pattern.reverse with
  | nil => rw [List.reverse_eq_nil_iff.mp hreverse]; rfl
  | cons c rest =>
    rw [hreverse, List.head?_cons] at h
    rw [List.dropWhile_cons_of_neg (by simpa using h), ← hreverse, List.reverse_reverse]

/-- A pattern without its slashes at the end, but with one inside, counts from the top. -/
theorem covers_bare_of_mem (h : '/' ∈ bare pattern) (path : Text) :
    covers (bare pattern) path = coversAnchored (bare pattern) path := by
  rw [covers, bare_of_getLast? (getLast?_bare pattern)]
  exact if_pos (List.contains_iff_mem.mpr h)

/-- Without any slash it matches every component of that name, the last one among them. -/
theorem covers_bare_of_notMem (h : '/' ∉ bare pattern) (path : Text) :
    covers (bare pattern) path = coversComponent (bare pattern) false path := by
  rw [covers, bare_of_getLast? (getLast?_bare pattern), decide_eq_false (getLast?_bare pattern)]
  exact if_neg (fun hmem => h (List.contains_iff_mem.mp hmem))

/-! ## Both kinds of patterns -/

/-- What a star takes in lies below a path that the pattern fits without it. -/
theorem coversAnchored_iff_within :
    coversAnchored pattern path = true ↔
      Glob.fits (pattern.dropWhile (· = '/')) path = true ∨
        ∃ dir rest, path = dir ++ '/' :: rest ∧
          Glob.fits (pattern.dropWhile (· = '/')) dir = true := by
  rw [coversAnchored_iff, Glob.fits_slash_star, or_self]

/-- The components before the last one are those of the directories above. -/
theorem coversComponent_directoryOnly :
    coversComponent pattern true path = true ↔
      ∃ dir rest, path = dir ++ '/' :: rest ∧ coversComponent pattern false dir = true := by
  constructor
  · intro h
    obtain ⟨part, hpart, hfits⟩ := List.any_eq_true.mp h
    rw [if_pos rfl] at hpart
    obtain ⟨before, after, hsplit⟩ := List.append_of_mem hpart
    obtain ⟨last, hlast⟩ : ∃ last, (Text.pieces '/' path).dropLast ++ [last]
        = Text.pieces '/' path := ⟨_, List.dropLast_concat_getLast (Text.pieces_ne_nil '/' path)⟩
    have hpieces : Text.pieces '/' path = (before ++ [part]) ++ (after ++ [last]) := by
      rw [← hlast, hsplit]
      simp only [List.append_assoc, List.cons_append, List.nil_append]
    -- the directory is what stands up to the component that matches
    refine ⟨Text.join ['/'] (before ++ [part]), Text.join ['/'] (after ++ [last]), ?_, ?_⟩
    · rw [← Text.join_append '/' (by simp) (by simp), ← hpieces, Text.join_pieces]
    · have hplain : ∀ piece ∈ before ++ [part], '/' ∉ piece := by
        intro piece hpiece
        refine Text.notMem_of_mem_pieces (t := path) ?_
        rw [hpieces]
        exact List.mem_append_left _ hpiece
      rw [coversComponent, Text.pieces_join (by simp) hplain, if_neg Bool.false_ne_true]
      exact List.any_eq_true.mpr ⟨part, by simp, hfits⟩
  · rintro ⟨dir, rest, rfl, h⟩
    obtain ⟨part, hpart, hfits⟩ := List.any_eq_true.mp h
    refine List.any_eq_true.mpr ⟨part, ?_, hfits⟩
    rw [if_pos rfl, Text.pieces_append_cons,
      List.dropLast_append_of_ne_nil (Text.pieces_ne_nil '/' rest)]
    exact List.mem_append_left _ hpart

/-! ## Patterns with a slash at the end -/

/-- **What a pattern with a slash at its end matches.** It matches what lies below a directory that
it matches without the slash. Beyond that it matches a path of its own name exactly when it counts
from the top of the project and fits the path as a whole; a pattern without another slash never
does. -/
theorem covers_directory_iff (pattern path : Text) (h : pattern.getLast? = some '/') :
    covers pattern path = true ↔
      WithinMatched (bare pattern) path ∨
        ('/' ∈ bare pattern ∧
          Glob.fits ((bare pattern).dropWhile (· = '/')) path = true) := by
  by_cases hslash : '/' ∈ bare pattern
  · have hcovers : covers pattern path = coversAnchored (bare pattern) path :=
      if_pos (List.contains_iff_mem.mpr hslash)
    simp only [WithinMatched, covers_bare_of_mem hslash]
    rw [hcovers]
    constructor
    · intro hanchored
      rcases coversAnchored_iff_within.mp hanchored with hwhole | ⟨dir, rest, hpath, hdir⟩
      · exact .inr ⟨hslash, hwhole⟩
      · exact .inl ⟨dir, rest, hpath, coversAnchored_iff_within.mpr (.inl hdir)⟩
    · rintro (⟨dir, rest, rfl, hdir⟩ | ⟨-, hwhole⟩)
      · exact coversAnchored_below hdir rest
      · exact coversAnchored_iff_within.mpr (.inl hwhole)
  · have hcovers : covers pattern path = coversComponent (bare pattern) true path := by
      rw [covers, h, decide_eq_true rfl]
      exact if_neg (fun hmem => hslash (List.contains_iff_mem.mp hmem))
    simp only [WithinMatched, covers_bare_of_notMem hslash]
    rw [hcovers, coversComponent_directoryOnly]
    exact ⟨.inl, fun hwithin => hwithin.resolve_right fun hwhole => hslash hwhole.1⟩

/-- A directory that is named anywhere, and what it does to a file of that name. -/
theorem build_directory_only :
    "build/".toList.getLast? = some '/' ∧
      covers "build/".toList "src/build/out.py".toList = true ∧
      covers "build/".toList "src/build".toList = false := by
  have hslash : "build/".toList.getLast? = some '/' := by decide
  refine ⟨hslash, ?_, ?_⟩
  · refine (covers_directory_iff _ _ hslash).mpr
      (.inl ⟨"src/build".toList, "out.py".toList, rfl, ?_⟩)
    decide +kernel
  · refine Bool.eq_false_iff.mpr fun hcovers => ?_
    rcases (covers_directory_iff _ _ hslash).mp hcovers with hwithin | ⟨hinner, -⟩
    · exact absurd hwithin (by decide +kernel)
    · exact absurd hinner (by decide +kernel)

/-- **A file with the path of the directory** is matched for its own name, when the pattern counts
from the top of the project. No directory above it is matched. -/
theorem file_taken_for_directory :
    covers "src/build/".toList "src/build".toList = true ∧
      ¬ WithinMatched (bare "src/build/".toList) "src/build".toList := by
  decide +kernel

end IgnoreRule

end GhostEdit
