import GhostEdit.Proofs.Ignore.Below
import GhostEdit.Proofs.Session.Changes
import GhostEdit.Settings.Basic

/-!
# The directories that the standard globs name

Unless a document says otherwise, three globs keep suggestions away from what is below `.git`,
`node_modules` and `.venv`. A glob is compared with the path as a whole, where a star takes in
slashes, and with the last components of the path one by one. In neither way do two stars and a
slash stand for no directory at all: the name has to come behind a slash. So the globs reach every
directory of that name that lies below another one, and not one that lies directly below the root of
the project (`top_level_unprotected`). For `.git` this makes no difference, as the components of a
path are asked for that name before any glob is.

## Main definitions

* `IgnoreRules.directoriesOf`: the names of the directories above a path
* `IgnoreRules.anywhere`: the glob for what is below the directories of a name
* `Session.Heeds`: a session in which the rules count for a buffer

## Main results

* `IgnoreRules.infix_iff_mem_tail`: a name between two slashes is one of the directories, and not
  the first
* `IgnoreRules.matchesGlob_anywhere`: what such a glob matches, in either way
* `IgnoreRules.standard_globs_iff`: what is ignored under the standard globs
* `Session.work_of_ignored`: a buffer of an ignored file never leads to a request
-/

namespace GhostEdit

namespace IgnoreRules

variable {name path : Text}

/-- The names of the directories above a path, from the top down. -/
def directoriesOf (path : Text) : List Text := (Text.pieces '/' path).dropLast

/-- The glob for what is below the directories of a name. -/
def anywhere (name : Text) : Text := '*' :: '*' :: ('/' :: (name ++ ['/']) ++ ['*', '*'])

/-- The names that the standard globs are made for. -/
def standardNames : List Text := [".git".toList, "node_modules".toList, ".venv".toList]

/-- A name that a directory can have, without any of the marks of a glob. -/
structure Ordinary (name : Text) : Prop where
  plain : Glob.Plain name
  noSlash : '/' ∉ name
  ne_nil : name ≠ []
  ne_dot : name ≠ ['.']

theorem ordinary_of_mem_standardNames (h : name ∈ standardNames) : Ordinary name := by
  have hall : ∀ n ∈ standardNames, Glob.Plain n ∧ '/' ∉ n ∧ n ≠ [] ∧ n ≠ ['.'] := by decide
  obtain ⟨hplain, hslash, hnil, hdot⟩ := hall name h
  exact ⟨hplain, hslash, hnil, hdot⟩

theorem standard_ignoredGlobs :
    (Setting.standard .ignoredGlobs).elements
      = .ok (standardNames.map fun n => .str (anywhere n)) := rfl

/-! ## The path as a whole -/

/-- **A name between two slashes** is the name of a directory below another one. -/
theorem infix_iff_mem_tail (h : '/' ∉ name) :
    '/' :: (name ++ ['/']) <:+: path ↔ name ∈ (directoriesOf path).tail := by
  have hname : Text.pieces '/' name = [name] := Text.pieces_of_not_mem h
  constructor
  · rintro ⟨u, v, rfl⟩
    have hpath : u ++ '/' :: (name ++ ['/']) ++ v = u ++ '/' :: (name ++ '/' :: v) := by
      simp only [List.append_assoc, List.cons_append, List.nil_append]
    rw [directoriesOf, hpath, Text.pieces_append_cons, Text.pieces_append_cons, hname,
      List.singleton_append, List.dropLast_append_of_ne_nil (List.cons_ne_nil _ _),
      List.tail_append_of_ne_nil (Text.pieces_ne_nil '/' u),
      List.dropLast_cons_of_ne_nil (Text.pieces_ne_nil '/' v)]
    exact List.mem_append_right _ List.mem_cons_self
  · intro hmem
    obtain ⟨before, after, hsplit⟩ := List.append_of_mem hmem
    obtain ⟨top, hdirs⟩ : ∃ top, directoriesOf path = top :: (before ++ name :: after) := by
      cases hcase : directoriesOf path with
      | nil => rw [hcase] at hmem; cases hmem
      | cons top rest =>
        rw [hcase, List.tail_cons] at hsplit
        exact ⟨top, congrArg (top :: ·) hsplit⟩
    obtain ⟨last, hlast⟩ : ∃ last, directoriesOf path ++ [last] = Text.pieces '/' path :=
      ⟨_, List.dropLast_concat_getLast (Text.pieces_ne_nil '/' path)⟩
    have hpieces : Text.pieces '/' path = (top :: before) ++ ([name] ++ (after ++ [last])) := by
      rw [← hlast, hdirs]
      simp only [List.append_assoc, List.cons_append, List.nil_append]
    refine ⟨Text.join ['/'] (top :: before), Text.join ['/'] (after ++ [last]), ?_⟩
    have hjoin : Text.join ['/'] ([name] ++ (after ++ [last]))
        = name ++ '/' :: Text.join ['/'] (after ++ [last]) :=
      Text.join_append '/' (List.cons_ne_nil name []) (by simp)
    rw [← Text.join_pieces '/' path, hpieces,
      Text.join_append '/' (List.cons_ne_nil top before) (by simp), hjoin]
    simp only [List.append_assoc, List.cons_append, List.nil_append]

theorem fits_anywhere (h : Ordinary name) :
    Glob.fits (anywhere name) path = true ↔ name ∈ (directoriesOf path).tail := by
  have hplain : Glob.Plain ('/' :: (name ++ ['/'])) := by
    intro c hc
    rcases List.mem_cons.mp hc with rfl | hc
    · decide
    rcases List.mem_append.mp hc with hc | hc
    · exact h.plain c hc
    · rw [List.mem_singleton.mp hc]
      decide
  rw [anywhere, Glob.fits_between_stars hplain, infix_iff_mem_tail h.noSlash]

/-! ## The last components -/

theorem ofText_anywhere (h : Ordinary name) :
    Path.ofText (anywhere name) = ⟨[], [['*', '*'], name, ['*', '*']]⟩ := by
  have hglob : anywhere name = ['*', '*'] ++ '/' :: (name ++ '/' :: ['*', '*']) := by
    simp only [anywhere, List.append_assoc, List.cons_append, List.nil_append]
  have hkeep : ([name] : List Text).filter (fun p => !p.isEmpty && p ≠ ['.']) = [name] := by
    simp [h.ne_nil, h.ne_dot]
  rw [hglob, Path.ofText, Text.pieces_append_cons, Text.pieces_append_cons,
    Text.pieces_of_not_mem h.noSlash]
  simp only [Path.mk.injEq]
  refine ⟨rfl, ?_⟩
  have hstars : Text.pieces '/' ['*', '*'] = [['*', '*']] := by decide
  rw [hstars, List.filter_append, List.filter_append, hkeep]
  rfl

/-- Three components of a path that are compared with the glob: the name is the one before last. -/
theorem partsFit_anywhere (h : Ordinary name) {components : List Text}
    (hfit : Path.partsFit [['*', '*'], name, ['*', '*']] components.reverse = true) :
    ∃ first last, [first, name, last] <:+ components := by
  rcases hrev : components.reverse with _ | ⟨last, _ | ⟨mid, _ | ⟨first, rest⟩⟩⟩
  · rw [hrev] at hfit
    cases hfit
  · simp [hrev, Path.partsFit] at hfit
  · simp [hrev, Path.partsFit] at hfit
  · rw [hrev, Path.partsFit, Path.partsFit, Bool.and_eq_true, Bool.and_eq_true,
      Glob.fits_plain h.plain] at hfit
    refine ⟨first, last, rest.reverse, ?_⟩
    rw [List.reverse_eq_iff.mp hrev, ← hfit.2.1]
    simp only [List.reverse_cons, List.append_assoc, List.cons_append, List.nil_append]

/-- What stands between two others in a list is neither the first nor the last there. -/
theorem mem_tail_dropLast {α : Type} {x y z : α} {l : List α} (h : [x, y, z].Sublist l) :
    y ∈ l.dropLast.tail := by
  have htail : [y, z].Sublist l.tail := h.tail
  have hback : [y].Sublist l.tail.reverse.tail := htail.reverse.tail
  rw [List.tail_reverse] at hback
  rw [List.tail_dropLast]
  exact List.mem_reverse.mp (hback.subset List.mem_cons_self)

theorem rootOf_eq_nil (h : path.head? ≠ some '/') : Path.rootOf path = [] := by
  unfold Path.rootOf
  split <;> simp_all

/-- The components of a path are among its pieces, in order, but for a root, in whose place an empty
piece stands. -/
theorem mem_tail_of_components {first last : Text}
    (h : [first, name, last] <:+ (Path.ofText path).components) :
    name ∈ (directoriesOf path).tail := by
  have hparts : (Path.ofText path).parts.Sublist (Text.pieces '/' path) := List.filter_sublist
  by_cases hroot : path.head? = some '/'
  · obtain ⟨rest, rfl⟩ : ∃ rest, path = '/' :: rest := by
      cases path with
      | nil => cases hroot
      | cons c rest => exact ⟨rest, congrArg (· :: rest) (Option.some.inj hroot)⟩
    have hpieces : Text.pieces '/' ('/' :: rest) = [] :: Text.pieces '/' rest := rfl
    have hafter : (Path.ofText ('/' :: rest)).parts.Sublist (Text.pieces '/' rest) := by
      change ((Text.pieces '/' rest).filter fun p => !p.isEmpty && p ≠ ['.']).Sublist _
      exact List.filter_sublist
    have hcomponents : (Path.ofText ('/' :: rest)).components.tail.Sublist
        (Text.pieces '/' rest) := by
      rw [Path.components]
      split
      · exact (List.tail_sublist _).trans hafter
      · exact hafter
    refine mem_tail_dropLast (x := []) (z := last) ?_
    rw [hpieces]
    exact (h.sublist.tail.trans hcomponents).cons_cons []
  · have hcomponents : (Path.ofText path).components = (Path.ofText path).parts := by
      rw [Path.components, show (Path.ofText path).root = [] from rootOf_eq_nil hroot]
      rfl
    rw [hcomponents] at h
    exact mem_tail_dropLast (h.sublist.trans hparts)

/-- **The glob for a name**, compared in both ways: the second one adds nothing to the first. -/
theorem matchesGlob_anywhere (h : Ordinary name) (path : Text) :
    matchesGlob path (.str (anywhere name)) = .ok (decide (name ∈ (directoriesOf path).tail)) := by
  have hchars : (Value.str (anywhere name)).chars? = some (anywhere name) := rfl
  rw [matchesGlob, hchars]
  dsimp only
  split
  · next hfits => rw [decide_eq_true ((fits_anywhere h).mp hfits)]
  · next hfits =>
    have hnot : name ∉ (directoriesOf path).tail := fun hmem => hfits ((fits_anywhere h).mpr hmem)
    rw [decide_eq_false hnot, Path.matchesGlob, ofText_anywhere h]
    refine congrArg Except.ok (Bool.eq_false_iff.mpr fun hfit => hnot ?_)
    obtain ⟨first, last, hsuffix⟩ := partsFit_anywhere h hfit
    exact mem_tail_of_components hsuffix

/-- Globs for several names match when one of them does. -/
theorem matchesGlobs_anywhere {names : List Text} (h : ∀ n ∈ names, Ordinary n) (path : Text) :
    matchesGlobs path (names.map fun n => .str (anywhere n))
      = .ok (names.any fun n => decide (n ∈ (directoriesOf path).tail)) := by
  induction names with
  | nil => rfl
  | cons n rest ih =>
    obtain ⟨hn, hrest⟩ := List.forall_mem_cons.mp h
    rw [List.map_cons, matchesGlobs, matchesGlob_anywhere hn, List.any_cons]
    cases decide (n ∈ (directoriesOf path).tail) with
    | true => rfl
    | false => exact ih hrest

end IgnoreRules

/-! ## Buffers of ignored files -/

namespace Session

variable {s : Session} {id : String} {r : IgnoreRules} {path : Text}

/-- The rules count in a session, and a buffer belongs to the file with a path. -/
structure Heeds (s : Session) (id : String) (r : IgnoreRules) (path : Text) : Prop where
  rules : s.rules = some r
  respected : s.settings.isOn .respectIgnore = true
  file : ∃ b name, s.buffers.get? id = some b ∧ b.path = some name ∧ name.toList = path

/-- Where an edit happened is known with the path of the buffer. -/
theorem path_of_inspect {b : Buffer} {place : Place} (hbuffer : s.buffers.get? id = some b)
    (h : s.inspect id = .ok (some place)) : place.path = b.path := by
  rw [inspect, Buffers.get, hbuffer] at h
  dsimp only at h
  split at h
  · split at h
    · cases h
    · cases h
      rfl
  · cases h

/-- An edit of an ignored file does not count. -/
theorem shouldTrigger_of_ignored (h : s.Heeds id r path)
    (hignored : r.isIgnored s.directory path = .ok true) :
    (s.shouldTrigger id).2 = .ok false := by
  obtain ⟨b, name, hbuffer, hname, rfl⟩ := h.file
  rw [shouldTrigger]
  split
  · rfl
  split
  · rfl
  · rfl
  · next place hplace =>
    have hpath : s.isIgnoredPath place.path = .ok true := by
      rw [path_of_inspect hbuffer hplace, hname]
      unfold isIgnoredPath
      rw [h.rules]
      dsimp only
      rw [if_pos h.respected, hignored]
    rw [hpath]

/-- **A buffer of an ignored file never leads to a request**: an edit starts no timer, and a timer
that expires queues nothing. -/
theorem work_of_ignored (h : s.Heeds id r path)
    (hignored : r.isIgnored s.directory path = .ok true) (loop : Bool) :
    (s.editSignal id).1.work = s.work ∧ (s.debounced loop id).1.work = s.work := by
  have hasked := (quiet_shouldTrigger s id).work
  have hno := shouldTrigger_of_ignored h hignored
  rw [editSignal, debounced]
  generalize s.shouldTrigger id = answer at hasked hno
  obtain ⟨t, outcome⟩ := answer
  obtain rfl : outcome = .ok false := hno
  exact ⟨hasked, hasked⟩

end Session

namespace IgnoreRules

/-! ## The decision -/

/-- **What is ignored under the standard globs**, by rules that take nothing back. It is always
decided. A path is ignored if `.git` is one of its components, if one of the standard names is that
of a directory above it which does not lie directly below the root, or if a rule matches; and only
then. No request is ever made for the buffer of such a file. -/
theorem standard_globs_iff (r : IgnoreRules) (cwd : Path) (path inside : Text)
    (hglobs : (Setting.standard .ignoredGlobs).elements = .ok r.globs)
    (hrules : ∀ rule ∈ r.rules, rule.negated = false)
    (hinside : r.relative? cwd path = .ok (some inside)) :
    (∃ ignored, r.isIgnored cwd path = .ok ignored) ∧
      (r.isIgnored cwd path = .ok true ↔
        ".git".toList ∈ Text.pieces '/' inside ∨
          (∃ name ∈ standardNames, name ∈ (directoriesOf inside).tail) ∨
          ∃ rule ∈ r.rules, IgnoreRule.covers rule.pattern inside = true) ∧
      ∀ (s : Session) id loop, s.directory = cwd → s.Heeds id r path →
        r.isIgnored cwd path = .ok true →
        (s.editSignal id).1.work = s.work ∧ (s.debounced loop id).1.work = s.work := by
  have hfound : matchesGlobs inside r.globs
      = .ok (standardNames.any fun n => decide (n ∈ (directoriesOf inside).tail)) := by
    rw [standard_ignoredGlobs] at hglobs
    rw [← Except.ok.inj hglobs]
    exact matchesGlobs_anywhere (fun _ => ordinary_of_mem_standardNames) inside
  have hdecision : r.isIgnored cwd path = .ok (decide (".git".toList ∈ Text.pieces '/' inside)
      || (standardNames.any (fun n => decide (n ∈ (directoriesOf inside).tail))
        || r.rules.any fun rule => IgnoreRule.covers rule.pattern inside)) := by
    rw [isIgnored_of_inside hinside, isIgnoredInside_eq hrules, hfound]
    split
    · next hgit => rw [decide_eq_true hgit, Bool.true_or]
    · next hgit => rw [decide_eq_false hgit, Bool.false_or]; rfl
  refine ⟨⟨_, hdecision⟩, ?_, ?_⟩
  · rw [hdecision, Except.ok.injEq, Bool.or_eq_true, Bool.or_eq_true, decide_eq_true_eq,
      List.any_eq_true, List.any_eq_true]
    simp only [decide_eq_true_eq]
  · rintro s id loop rfl hheeds hignored
    exact Session.work_of_ignored hheeds hignored loop

/-- A project with the standard globs and a rule of its own. -/
def packages : IgnoreRules :=
  { root := Path.ofText "/p".toList
    rules := IgnoreRule.parse "*.log\n".toList
    globs := standardNames.map fun n => .str (anywhere n) }

/-- A session in that project, with a file of a package. -/
def packageSession : Session :=
  { (default : Session) with
    settings := .standard
    directory := top
    rules := some packages
    buffers := ({} : Buffers).put "b"
      { path := some "/p/web/node_modules/a/b.js", mode := insertMode } }

/-- A file deep in a package, whose package directory does not lie directly below the root. -/
theorem package_ignored :
    (Setting.standard .ignoredGlobs).elements = .ok packages.globs ∧
      (∀ rule ∈ packages.rules, rule.negated = false) ∧
      packages.relative? top "/p/web/node_modules/a/b.js".toList
        = .ok (some "web/node_modules/a/b.js".toList) ∧
      packages.isIgnored top "/p/web/node_modules/a/b.js".toList = .ok true ∧
      (packageSession.editSignal "b").1.work = packageSession.work := by
  have hrules : ∀ rule ∈ packages.rules, rule.negated = false := by decide +kernel
  have hinside : packages.relative? top "/p/web/node_modules/a/b.js".toList
      = .ok (some "web/node_modules/a/b.js".toList) := by rfl
  have hheeds : packageSession.Heeds "b" packages "/p/web/node_modules/a/b.js".toList :=
    ⟨rfl, rfl, ⟨_, _, rfl, rfl, rfl⟩⟩
  obtain ⟨-, hiff, hquiet⟩ := standard_globs_iff packages top _ _ rfl hrules hinside
  have hignored := hiff.mpr (.inr (.inl ⟨"node_modules".toList, by decide, by decide +kernel⟩))
  exact ⟨rfl, hrules, hinside, hignored, (hquiet packageSession "b" true rfl hheeds hignored).1⟩

/-- **A directory directly below the root** is not protected by the glob of its name. -/
theorem top_level_unprotected :
    (Setting.standard .ignoredGlobs).elements = .ok packages.globs ∧
      (∀ rule ∈ packages.rules, rule.negated = false) ∧
      packages.relative? top "/p/node_modules/a.js".toList
        = .ok (some "node_modules/a.js".toList) ∧
      "node_modules".toList ∈ directoriesOf "node_modules/a.js".toList ∧
      packages.isIgnored top "/p/node_modules/a.js".toList = .ok false :=
  ⟨rfl, by decide +kernel, by rfl, by decide +kernel, by rfl⟩

end IgnoreRules

end GhostEdit
