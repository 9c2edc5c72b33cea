import GhostEdit.Ignore.Basic
import GhostEdit.Proofs.Glob

/-!
# What lies below an ignored directory

A pattern that matches a directory matches everything below it. Each of the three ways in which a
pattern with a slash can match, and both ways of one without, say so for a reason of their own: a
directory is above what lies below it, a star at the end of a pattern takes in what follows, and the
components of a directory stay components. None of this needs the components to be ordinary ones.

So a project whose rules take nothing back ignores what lies below an ignored directory.

## Two ways to be below

What lies below a directory is decided where the paths lead, once every symbolic link is followed,
and not by how they are written: a link in an ignored directory may lead to a file elsewhere, which
is not ignored. Nothing is assumed of how paths are resolved (`Path.Resolver`).

And a path is looked at as it is written relative to the project, where the project's own directory
is written as a single dot. A rule may match the dot, as `.*` does. The paths of the files do not
start with it, so that nothing follows for them. Both are in `root_alone_ignored`.

## Main definitions

* `Path.Below`: a path below another one
* `IgnoreRules.Beneath`: a file below a directory that is not the project's own
* `IgnoreRules.RuledOut`: what the rules ignore, whatever the globs do

## Main results

* `IgnoreRule.mem_ancestors_pieces`: the directories above a path
* `IgnoreRule.covers_below`: what a pattern matches
* `IgnoreRules.relative?_below`: how a path below another one is written
* `IgnoreRules.isIgnoredInside_eq`: the decision of rules that take nothing back
* `IgnoreRules.below_ignored`: ignoring a directory ignores everything below it
-/

namespace GhostEdit

namespace IgnoreRule

variable {pattern dir : Text}

/-- The directories above a path are what stands before one of its slashes. -/
theorem mem_ancestors_pieces {path : Text} :
    dir ∈ ancestors (Text.pieces '/' path) ↔ ∃ rest, path = dir ++ '/' :: rest := by
  constructor
  · intro h
    obtain ⟨i, hi, rfl⟩ := List.mem_map.mp h
    have hlt : i + 1 < (Text.pieces '/' path).length := by
      have := List.mem_range.mp hi
      omega
    refine ⟨Text.join ['/'] ((Text.pieces '/' path).drop (i + 1)), ?_⟩
    rw [← Text.join_append '/' (by simp [Text.pieces_ne_nil])
      (by rwa [Ne, List.drop_eq_nil_iff, Nat.not_le]), List.take_append_drop, Text.join_pieces]
  · rintro ⟨rest, rfl⟩
    have hdir := List.length_pos_iff.mpr (Text.pieces_ne_nil '/' dir)
    have hrest := List.length_pos_iff.mpr (Text.pieces_ne_nil '/' rest)
    rw [Text.pieces_append_cons]
    refine List.mem_map.mpr ⟨(Text.pieces '/' dir).length - 1, List.mem_range.mpr ?_, ?_⟩
    · rw [List.length_append]
      omega
    · rw [Nat.sub_add_cancel hdir, List.take_left, Text.join_pieces]

/-- A pattern that counts from the top matches a path as a whole, by what a star takes in, or by a
directory above the path. -/
theorem coversAnchored_iff {path : Text} :
    coversAnchored pattern path = true ↔
      Glob.fits (pattern.dropWhile (· = '/')) path = true ∨
        Glob.fits (pattern.dropWhile (· = '/') ++ ['/', '*']) path = true ∨
        ∃ dir rest, path = dir ++ '/' :: rest ∧
          Glob.fits (pattern.dropWhile (· = '/')) dir = true := by
  simp only [coversAnchored, Bool.or_eq_true, List.any_eq_true, mem_ancestors_pieces, or_assoc]
  refine or_congr_right (or_congr_right ⟨?_, ?_⟩)
  · rintro ⟨above, ⟨rest, hrest⟩, hfits⟩
    exact ⟨above, rest, hrest, hfits⟩
  · rintro ⟨above, rest, hrest, hfits⟩
    exact ⟨above, ⟨rest, hrest⟩, hfits⟩

theorem coversAnchored_below (h : coversAnchored pattern dir = true) (rest : Text) :
    coversAnchored pattern (dir ++ '/' :: rest) = true := by
  rw [coversAnchored_iff] at h ⊢
  rcases h with hwhole | hstar | ⟨above, between, rfl, habove⟩
  · -- the directory is now one of those above
    exact .inr (.inr ⟨dir, rest, rfl, hwhole⟩)
  · have hsplit : pattern.dropWhile (· = '/') ++ ['/', '*']
        = (pattern.dropWhile (· = '/') ++ ['/']) ++ ['*'] := by
      rw [List.append_assoc]
      rfl
    rw [hsplit] at hstar ⊢
    exact .inr (.inl (Glob.fits_append hstar _))
  · refine .inr (.inr ⟨above, between ++ '/' :: rest, ?_, habove⟩)
    rw [List.append_assoc, List.cons_append]

theorem coversComponent_below {directoryOnly : Bool}
    (h : coversComponent pattern directoryOnly dir = true) (rest : Text) :
    coversComponent pattern directoryOnly (dir ++ '/' :: rest) = true := by
  obtain ⟨part, hpart, hfits⟩ := List.any_eq_true.mp h
  refine List.any_eq_true.mpr ⟨part, ?_, hfits⟩
  rw [Text.pieces_append_cons]
  cases directoryOnly with
  | true =>
    rw [if_pos rfl] at hpart ⊢
    rw [List.dropLast_append_of_ne_nil (Text.pieces_ne_nil '/' rest)]
    exact List.mem_append_left _ (List.dropLast_subset _ hpart)
  | false =>
    rw [if_neg Bool.false_ne_true] at hpart ⊢
    exact List.mem_append_left _ hpart

/-- **A pattern that matches a directory matches everything below it.** -/
theorem covers_below (h : covers pattern dir = true) (rest : Text) :
    covers pattern (dir ++ '/' :: rest) = true := by
  unfold covers at h ⊢
  dsimp only at h ⊢
  split at h
  · next hslash =>
    rw [if_pos hslash]
    exact coversAnchored_below h rest
  · next hslash =>
    rw [if_neg hslash]
    exact coversComponent_below h rest

end IgnoreRule

/-! ## Paths below a directory -/

namespace Path

/-- A path lies below another one. -/
def Below (p base : Path) : Prop :=
  ∃ more, more ≠ [] ∧ p = { base with parts := base.parts ++ more }

theorem dropParts?_eq_some {start parts rest : List Text} :
    dropParts? start parts = some rest ↔ parts = start ++ rest := by
  induction start generalizing parts with
  | nil => exact ⟨fun h => Option.some.inj h, fun h => congrArg some h⟩
  | cons part start ih =>
    cases parts with
    | nil => exact ⟨nofun, nofun⟩
    | cons first parts =>
      rw [dropParts?, List.cons_append, List.cons.injEq]
      by_cases h : part = first
      · rw [if_pos h, ih]
        exact ⟨fun hrest => ⟨h.symm, hrest⟩, And.right⟩
      · rw [if_neg h]
        exact ⟨nofun, fun hsame => absurd hsame.1.symm h⟩

theorem relativeTo?_eq_some {p base q : Path} :
    p.relativeTo? base = some q ↔
      ∃ parts, p = { base with parts := base.parts ++ parts } ∧ q = ⟨[], parts⟩ := by
  obtain ⟨root, parts⟩ := p
  rw [relativeTo?]
  constructor
  · intro h
    split at h
    · next hroot =>
      obtain ⟨below, hbelow, rfl⟩ := Option.map_eq_some_iff.mp h
      exact ⟨below, Path.mk.injEq .. ▸ ⟨hroot, dropParts?_eq_some.mp hbelow⟩, rfl⟩
    · cases h
  · rintro ⟨below, hp, rfl⟩
    obtain ⟨rfl, rfl⟩ := Path.mk.inj hp
    rw [if_pos rfl, dropParts?_eq_some.mpr rfl]
    rfl

/-- What is written of a path with components are its components. -/
theorem toText_of_ne_nil {parts : List Text} (h : parts ≠ []) :
    (⟨[], parts⟩ : Path).toText = Text.join ['/'] parts := by
  have hempty : ¬ (([] : Text).isEmpty && parts.isEmpty) = true := by simpa using h
  rw [toText, if_neg hempty]
  rfl

end Path

namespace IgnoreRules

variable {r : IgnoreRules} {cwd : Path} {dir file inside path : Text}

/-- A file lies below a directory, which is not the one that the rules belong to. It is where the
paths lead that counts. -/
structure Beneath (r : IgnoreRules) (cwd : Path) (dir file : Text) : Prop where
  places : ∃ d f root, r.resolve (.ofText dir) cwd = .ok d ∧ r.resolve (.ofText file) cwd = .ok f ∧
    r.resolve r.root cwd = .ok root ∧ f.Below d ∧ d ≠ root
  /-- No file has a null character in its path. -/
  noNull : '\x00' ∉ file

/-- How a path that leads inside the project is found and written. -/
theorem relative?_eq_ok :
    r.relative? cwd path = .ok (some inside) ↔
      '\x00' ∉ path ∧ ∃ place root parts, r.resolve (.ofText path) cwd = .ok place ∧
        r.resolve r.root cwd = .ok root ∧ place = { root with parts := root.parts ++ parts } ∧
        inside = written ⟨[], parts⟩ := by
  rw [relative?]
  by_cases hnull : '\x00' ∈ path
  · rw [if_pos (List.contains_iff_mem.mpr hnull)]
    exact ⟨nofun, fun h => absurd hnull h.1⟩
  · rw [if_neg (fun h => hnull (List.contains_iff_mem.mp h))]
    constructor
    · intro h
      split at h
      · cases h
      · next place hplace =>
        split at h
        · cases h
        · next root hroot =>
          obtain ⟨q, hq, rfl⟩ := Option.map_eq_some_iff.mp (Except.ok.inj h)
          obtain ⟨parts, hparts, rfl⟩ := Path.relativeTo?_eq_some.mp hq
          exact ⟨hnull, place, root, parts, hplace, hroot, hparts, rfl⟩
    · rintro ⟨-, place, root, parts, hplace, hroot, hparts, rfl⟩
      rw [hplace, hroot]
      dsimp only
      rw [Path.relativeTo?_eq_some.mpr ⟨parts, hparts, rfl⟩]
      rfl

/-- **A path below a directory** is written as the directory and what lies below. -/
theorem relative?_below (hbeneath : r.Beneath cwd dir file)
    (h : r.relative? cwd dir = .ok (some inside)) :
    ∃ rest, r.relative? cwd file = .ok (some (inside ++ '/' :: rest)) := by
  obtain ⟨⟨d, f, root, hd, hf, hroot, ⟨more, hmore, hbelow⟩, hne_root⟩, hnull⟩ := hbeneath
  obtain ⟨-, d', root', parts, hd', hroot', hparts, rfl⟩ := relative?_eq_ok.mp h
  obtain rfl := Except.ok.inj (hd.symm.trans hd')
  obtain rfl := Except.ok.inj (hroot.symm.trans hroot')
  have hne : parts ≠ [] := by
    rintro rfl
    rw [List.append_nil] at hparts
    exact hne_root hparts
  refine ⟨(Text.join ['/'] more).map fun c => if c = '\\' then '/' else c,
    relative?_eq_ok.mpr ⟨hnull, f, root, parts ++ more, hf, hroot, ?_, ?_⟩⟩
  · rw [hbelow, hparts, List.append_assoc]
  · rw [written, written, Path.toText_of_ne_nil hne, Path.toText_of_ne_nil (by simp [hne]),
      Text.join_append '/' hne hmore, List.map_append, List.map_cons]
    rfl

/-! ## The decision -/

theorem isIgnored_of_inside (h : r.relative? cwd path = .ok (some inside)) :
    r.isIgnored cwd path = r.isIgnoredInside inside := by
  rw [isIgnored, h]

/-- Rules that take nothing back ignore a path when one of them matches. -/
theorem lastMatch_of_positive {rules : List IgnoreRule} (h : ∀ rule ∈ rules, rule.negated = false)
    (path : Text) (decided : Bool) :
    lastMatch path decided rules
      = (decided || rules.any fun rule => IgnoreRule.covers rule.pattern path) := by
  induction rules generalizing decided with
  | nil => exact (Bool.or_false decided).symm
  | cons rule rest ih =>
    obtain ⟨hrule, hrest⟩ := List.forall_mem_cons.mp h
    rw [lastMatch, ih hrest, List.any_cons, hrule]
    cases IgnoreRule.covers rule.pattern path <;> cases decided <;> rfl

/-- **The decision of rules that take nothing back**: the directory named `.git` first, then the
globs, then any of the rules. -/
theorem isIgnoredInside_eq (h : ∀ rule ∈ r.rules, rule.negated = false) (path : Text) :
    r.isIgnoredInside path
      = if ".git".toList ∈ Text.pieces '/' path then .ok true
        else (matchesGlobs path r.globs).map fun found =>
          found || r.rules.any fun rule => IgnoreRule.covers rule.pattern path := by
  rw [isIgnoredInside, lastMatch_of_positive h]
  simp only [List.contains_iff_mem]
  split
  · rfl
  · cases matchesGlobs path r.globs with
    | error e => rfl
    | ok found => cases found <;> rfl

/-- A path inside the project is ruled out by the rules, or by the check for the directory named
`.git`. -/
def RuledOut (rules : List IgnoreRule) (inside : Text) : Prop :=
  ".git".toList ∈ Text.pieces '/' inside ∨
    ∃ rule ∈ rules, IgnoreRule.covers rule.pattern inside = true

theorem RuledOut.below {rules : List IgnoreRule} (h : RuledOut rules inside) (rest : Text) :
    RuledOut rules (inside ++ '/' :: rest) := by
  rcases h with hgit | ⟨rule, hrule, hcovers⟩
  · rw [RuledOut, Text.pieces_append_cons]
    exact .inl (List.mem_append_left _ hgit)
  · exact .inr ⟨rule, hrule, IgnoreRule.covers_below hcovers rest⟩

/-- Without globs a path is ignored only if it is ruled out. -/
theorem ruledOut_of_isIgnored (h : ∀ rule ∈ r.rules, rule.negated = false)
    (hinside : r.relative? cwd dir = .ok (some inside))
    (hignored : ({ r with globs := [] } : IgnoreRules).isIgnored cwd dir = .ok true) :
    RuledOut r.rules inside := by
  rw [isIgnored_of_inside (r := { r with globs := [] }) hinside,
    isIgnoredInside_eq (r := { r with globs := [] }) h] at hignored
  split at hignored
  · next hgit => exact .inl hgit
  · exact .inr (List.any_eq_true.mp (Except.ok.inj hignored))

/-- **What is ruled out is ignored**, unless a glob fails before the rules are looked at. -/
theorem RuledOut.isIgnoredInside_cases (hruled : RuledOut r.rules inside)
    (h : ∀ rule ∈ r.rules, rule.negated = false) :
    r.isIgnoredInside inside = .ok true ∨
      ".git".toList ∉ Text.pieces '/' inside ∧
        ∃ e, matchesGlobs inside r.globs = .error e ∧ r.isIgnoredInside inside = .error e := by
  rw [isIgnoredInside_eq h]
  split
  · exact .inl rfl
  · next hgit =>
    have hany : (r.rules.any fun rule => IgnoreRule.covers rule.pattern inside) = true :=
      List.any_eq_true.mpr (hruled.resolve_left hgit)
    cases hglobs : matchesGlobs inside r.globs with
    | error e => exact .inr ⟨hgit, e, rfl, rfl⟩
    | ok found =>
      rw [hany]
      exact .inl (congrArg Except.ok (Bool.or_true found))

/-- A glob that fails on no path: whether it does depends on the glob alone, unless it matches. -/
theorem exists_matchesGlob {glob : Value} (h : matchesGlob inside glob = .ok false) (path : Text) :
    ∃ found, matchesGlob path glob = .ok found := by
  unfold matchesGlob at h ⊢
  cases hchars : glob.chars? with
  | none =>
    rw [hchars] at h
    cases h
  | some pattern =>
    rw [hchars] at h
    dsimp only at h ⊢
    split at h
    · cases h
    · split
      · exact ⟨true, rfl⟩
      · unfold Path.matchesGlob at h ⊢
        dsimp only at h ⊢
        split at h
        · cases h
        · next hcomponents =>
          rw [if_neg hcomponents]
          split
          · exact ⟨_, rfl⟩
          · exact ⟨_, rfl⟩

/-- Globs that let one path pass fail on no other. -/
theorem exists_matchesGlobs {globs : List Value} (h : matchesGlobs inside globs = .ok false)
    (path : Text) : ∃ found, matchesGlobs path globs = .ok found := by
  induction globs with
  | nil => exact ⟨false, rfl⟩
  | cons glob rest ih =>
    rw [matchesGlobs] at h ⊢
    split at h
    · cases h
    · cases h
    · next hpass =>
      obtain ⟨found, hfound⟩ := exists_matchesGlob hpass path
      rw [hfound]
      cases found with
      | true => exact ⟨true, rfl⟩
      | false => exact ih h

/-! ## What lies below is ignored -/

/-- **Ignoring a directory ignores everything below it.**

* A pattern that matches a directory matches every path below it, whatever the pattern and the
  names are.
* Let the rules of a project take nothing back, and let a file lead to a place below the one that a
  directory of the project leads to, other than the project's own. If the rules, or the check for
  `.git`, ignore the directory, no decision on the file is that it is not ignored; and it is decided
  that it is, unless the globs had ignored the directory before the rules were looked at. -/
theorem below_ignored :
    (∀ pattern dir rest : Text, IgnoreRule.covers pattern dir = true →
        IgnoreRule.covers pattern (dir ++ '/' :: rest) = true) ∧
      ∀ (r : IgnoreRules) (cwd : Path) (dir file inside : Text),
        (∀ rule ∈ r.rules, rule.negated = false) → r.Beneath cwd dir file →
        r.relative? cwd dir = .ok (some inside) →
        ({ r with globs := [] } : IgnoreRules).isIgnored cwd dir = .ok true →
        (∀ ignored, r.isIgnored cwd file = .ok ignored → ignored = true) ∧
        (".git".toList ∈ Text.pieces '/' inside ∨ matchesGlobs inside r.globs = .ok false →
          r.isIgnored cwd file = .ok true) := by
  refine ⟨fun pattern dir rest h => IgnoreRule.covers_below h rest, ?_⟩
  intro r cwd dir file inside hrules hbeneath hinside hignored
  obtain ⟨rest, hfile⟩ := relative?_below hbeneath hinside
  have hruled := (ruledOut_of_isIgnored hrules hinside hignored).below rest
  rw [isIgnored_of_inside hfile]
  rcases hruled.isIgnoredInside_cases hrules with htrue | ⟨hgit, e, hglobs, hfails⟩
  · rw [htrue]
    exact ⟨fun ignored h => (Except.ok.inj h).symm, fun _ => rfl⟩
  · refine ⟨fun ignored h => ?_, ?_⟩
    · rw [hfails] at h
      cases h
    · rintro (hdir | hpass)
      · rw [Text.pieces_append_cons] at hgit
        exact absurd (List.mem_append_left _ hdir) hgit
      · obtain ⟨found, hfound⟩ := exists_matchesGlobs hpass (inside ++ '/' :: rest)
        rw [hfound] at hglobs
        cases hglobs

/-- The top of the file system. -/
def top : Path := Path.ofText ['/']

/-- A tree with two links: `/put` stands for the directory `/p/src`, and `/p/dist/a.py` for the file
`/p/src/a.py`. -/
def linked : Path.Resolver := fun p cwd =>
  match (p.lexical cwd).parts with
  | ['p', 'u', 't'] :: more => .ok ⟨['/'], "p".toList :: "src".toList :: more⟩
  | parts =>
    .ok ⟨['/'], if parts = ["p".toList, "dist".toList, "a.py".toList]
      then ["p".toList, "src".toList, "a.py".toList] else parts⟩

/-- Rules that name directories, one of them with a bracket that nothing closes. -/
def directories : IgnoreRules :=
  { root := Path.ofText "/p".toList
    rules := IgnoreRule.parse "# built\n/dist\nlib[/\n".toList
    globs := [.ofString "*.lock"]
    resolve := linked }

/-- Both ways to name a directory: from the top of the project, and anywhere in it. The path of the
file goes through a link. -/
theorem directories_ignored :
    IgnoreRule.covers "/dist".toList "dist/a/b.py".toList = true ∧
      (∀ rule ∈ directories.rules, rule.negated = false) ∧
      directories.Beneath top "/p/src/lib[/old".toList "/put/x/../lib[/old/[a/b.py".toList ∧
      directories.relative? top "/p/src/lib[/old".toList = .ok (some "src/lib[/old".toList) ∧
      ({ directories with globs := [] } : IgnoreRules).isIgnored top "/p/src/lib[/old".toList
        = .ok true ∧
      directories.isIgnored top "/put/x/../lib[/old/[a/b.py".toList = .ok true := by
  have hrules : ∀ rule ∈ directories.rules, rule.negated = false := by decide +kernel
  have hbeneath : directories.Beneath top "/p/src/lib[/old".toList
      "/put/x/../lib[/old/[a/b.py".toList :=
    ⟨⟨_, _, _, rfl, rfl, rfl, ⟨["[a".toList, "b.py".toList], by decide, by decide +kernel⟩,
      by decide +kernel⟩, by decide +kernel⟩
  have hinside : directories.relative? top "/p/src/lib[/old".toList
      = .ok (some "src/lib[/old".toList) := by rfl
  have hignored : ({ directories with globs := [] } : IgnoreRules).isIgnored top
      "/p/src/lib[/old".toList = .ok true := by rfl
  have hbelow := below_ignored.2 directories top _ _ _ hrules hbeneath hinside hignored
  exact ⟨below_ignored.1 "/dist".toList "dist".toList "a/b.py".toList (by decide +kernel), hrules,
    hbeneath, hinside, hignored, hbelow.2 (.inr (by rfl))⟩

/-- **Two paths that look as if they were below another.** A rule may ignore the project's own
directory and nothing in it. And a rule that ignores a directory does not reach a file elsewhere
that a link in the directory leads to. -/
theorem root_alone_ignored :
    let hidden : IgnoreRules :=
      { root := Path.ofText "/p".toList, rules := IgnoreRule.parse ".*".toList, globs := [] }
    ((∀ rule ∈ hidden.rules, rule.negated = false) ∧
      hidden.isIgnored top "/p".toList = .ok true ∧
      hidden.isIgnored top "/p/a.py".toList = .ok false) ∧
    (∀ rule ∈ directories.rules, rule.negated = false) ∧
      directories.isIgnored top "/p/dist".toList = .ok true ∧
      directories.isIgnored top "/p/dist/a.py".toList = .ok false :=
  ⟨⟨by decide +kernel, by rfl, by rfl⟩, by decide +kernel, by rfl, by rfl⟩

end IgnoreRules

end GhostEdit
