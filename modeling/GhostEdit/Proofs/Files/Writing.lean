import GhostEdit.Buffer.Store
import GhostEdit.Proofs.Files.LineEnds
import GhostEdit.Proofs.Session.Moves

/-!
# Writing a file back

A buffer keeps the path of its file as it is written, and saving makes a path of it again. This file
shows that the two paths are one, that writing to a file changes what stands at its place and
nothing else, and what becomes of a file that is opened and saved as it is.

## Main definitions

* `Path.Plain`: a path such as a text names
* `Files.Replaces`: files in which one file has new bytes

## Main results

* `Path.Plain.ofText_toText`: a path can be written out and read back
* `Files.replaces_write`: writing to a file
* `Buffers.save_cases`: saving a buffer
* `Buffers.save_opened`: a file that is opened and saved as it is
-/

namespace GhostEdit

/-! ## Paths -/

/-- A path such as a text names. -/
structure Path.Plain (p : Path) : Prop where
  root : p.root = [] ∨ p.root = ['/'] ∨ p.root = ['/', '/']
  parts : ∀ part ∈ p.parts, part ≠ [] ∧ part ≠ ['.'] ∧ '/' ∉ part

theorem Path.plain_ofText (t : Text) : (ofText t).Plain := by
  refine ⟨?_, fun part hpart => ?_⟩
  · show rootOf t = [] ∨ rootOf t = ['/'] ∨ rootOf t = ['/', '/']
    fun_cases rootOf t <;> simp
  · obtain ⟨hmem, hkept⟩ := List.mem_filter.mp hpart
    simp only [Bool.and_eq_true, Bool.not_eq_true', List.isEmpty_eq_false_iff, decide_eq_true_eq,
      ne_eq] at hkept
    exact ⟨hkept.1, hkept.2, Text.notMem_of_mem_pieces hmem⟩

theorem Path.parts_cons_slash (t : Text) : (ofText ('/' :: t)).parts = (ofText t).parts := by
  have hpieces : Text.pieces '/' ('/' :: t) = [] :: Text.pieces '/' t := if_pos rfl
  rw [ofText, ofText, hpieces, List.filter_cons_of_neg (by simp)]

/-- A root adds no components. -/
theorem Path.parts_append_root {root : Text}
    (hroot : root = [] ∨ root = ['/'] ∨ root = ['/', '/']) (t : Text) :
    (ofText (root ++ t)).parts = (ofText t).parts := by
  rcases hroot with rfl | rfl | rfl
  · rfl
  · exact parts_cons_slash t
  · exact (parts_cons_slash _).trans (parts_cons_slash t)

theorem Path.parts_join {parts : List Text}
    (h : ∀ part ∈ parts, part ≠ [] ∧ part ≠ ['.'] ∧ '/' ∉ part) :
    (ofText (Text.join ['/'] parts)).parts = parts := by
  cases parts with
  | nil => rfl
  | cons part more =>
    have hpieces := Text.pieces_join (List.cons_ne_nil part more) fun x hx => (h x hx).2.2
    show List.filter _ (Text.pieces '/' (Text.join ['/'] (part :: more))) = _
    rw [hpieces]
    refine List.filter_eq_self.mpr fun x hx => ?_
    simp [(h x hx).1, (h x hx).2.1]

theorem Path.head?_join {parts : List Text}
    (h : ∀ part ∈ parts, part ≠ [] ∧ part ≠ ['.'] ∧ '/' ∉ part) :
    (Text.join ['/'] parts).head? ≠ some '/' := by
  cases parts with
  | nil => nofun
  | cons part more =>
    obtain ⟨hne, _, hnot⟩ := h part List.mem_cons_self
    obtain ⟨c, rest, rfl⟩ := List.exists_cons_of_ne_nil hne
    have hc : c ≠ '/' := fun heq => hnot (by simp [heq])
    cases more <;> simpa [Text.join] using hc

theorem Path.rootOf_append {root t : Text}
    (hroot : root = [] ∨ root = ['/'] ∨ root = ['/', '/']) (ht : t.head? ≠ some '/') :
    rootOf (root ++ t) = root := by
  cases t with
  | nil => rcases hroot with rfl | rfl | rfl <;> rfl
  | cons c rest =>
    have hc : c ≠ '/' := by simpa using ht
    rcases hroot with rfl | rfl | rfl <;> simp [rootOf, hc]

/-- **A path can be written out and read back.** -/
theorem Path.Plain.ofText_toText {p : Path} (h : p.Plain) : ofText p.toText = p := by
  obtain ⟨root, parts⟩ := p
  have hroot := rootOf_append h.root (head?_join h.parts)
  have hparts := (parts_append_root h.root _).trans (parts_join h.parts)
  rw [toText]
  split
  · next hempty =>
    simp only [Bool.and_eq_true, List.isEmpty_iff] at hempty
    obtain ⟨rfl, rfl⟩ := hempty
    rfl
  · exact congrArg₂ Path.mk hroot hparts

/-! ## Files -/

namespace Files

variable {fs fs' : Files} {cwd place : List Text} {p : Path} {old new : List UInt8}

/-- Files in which the file that a path leads to has the given bytes, and everything else is as it
was. -/
structure Replaces (fs fs' : Files) (cwd : List Text) (p : Path) (bytes : List UInt8) : Prop where
  read : fs'.read cwd p = .ok bytes
  others : ∀ place, fs.locate cwd p ≠ .ok place → fs'.at? place = fs.at? place

theorem lookup_put (fs : Files) (place other : List Text) (body : FileBody) :
    (fs.put place body).entries.lookup other
      = if other = place then some body else fs.entries.lookup other := by
  rw [put]
  dsimp only
  induction fs.entries with
  | nil =>
    by_cases h : other = place
    · simp [h]
    · have hne : (other == place) = false := by simpa using h
      simp [List.lookup_cons, hne, h]
  | cons entry rest ih =>
    obtain ⟨name, held⟩ := entry
    by_cases hname : name = place
    · rw [List.filter_cons_of_neg (by simpa using hname), ih]
      split
      · rfl
      · next hother =>
        have hne : (other == name) = false := by simpa [hname] using hother
        rw [List.lookup_cons, hne]
    · rw [List.filter_cons_of_pos (by simpa using hname), List.cons_append, List.lookup_cons,
        List.lookup_cons, ih]
      by_cases hother : other = name
      · simp [hother, hname]
      · have hne : (other == name) = false := by simpa using hother
        rw [hne]

/-- A file stands at its place by an entry of its own. -/
theorem lookup_of_at? (h : fs.at? place = some (.file old)) :
    fs.entries.lookup place = some (.file old) := by
  rw [at?] at h
  split at h
  · next hlookup => rw [hlookup, h]
  · split at h <;> cases h

/-- Writing to a file neither makes nor removes what stands above others. -/
theorem any_put {parts : List Text} (h : fs.entries.lookup place = some (.file old))
    (body : FileBody) :
    (fs.put place body).entries.any (parts.isPrefixOf ·.1)
      = fs.entries.any (parts.isPrefixOf ·.1) := by
  have hmem : ∃ entry ∈ fs.entries, entry.1 = place := by
    obtain ⟨above, below, hentries, _⟩ := List.lookup_eq_some_iff.mp h
    exact ⟨(place, .file old), by simp [hentries], rfl⟩
  rw [Bool.eq_iff_iff, List.any_eq_true, List.any_eq_true]
  constructor
  · rintro ⟨entry, hentry, hprefix⟩
    rcases List.mem_append.mp hentry with hentry | hentry
    · exact ⟨entry, (List.mem_filter.mp hentry).1, hprefix⟩
    · obtain ⟨other, hother, hplace⟩ := hmem
      rw [List.mem_singleton.mp hentry, ← hplace] at hprefix
      exact ⟨other, hother, hprefix⟩
  · rintro ⟨entry, hentry, hprefix⟩
    by_cases hplace : entry.1 = place
    · refine ⟨(place, body), List.mem_append_right _ (List.mem_singleton_self _), ?_⟩
      rw [← hplace]
      exact hprefix
    · exact ⟨entry, List.mem_append_left _ (List.mem_filter.mpr ⟨hentry, by simpa using hplace⟩),
        hprefix⟩

/-- What stands anywhere after a file was written to. -/
theorem at?_put (h : fs.at? place = some (.file old)) (other : List Text) :
    (fs.put place (.file new)).at? other
      = if other = place then some (.file new) else fs.at? other := by
  have hlookup := lookup_of_at? h
  rw [at?, lookup_put, any_put hlookup]
  split
  · next hfound =>
    split at hfound
    · next hother => rw [if_pos hother, hfound]
    · next hother => rw [if_neg hother, at?, hfound]
  · next hnone =>
    split at hnone
    · cases hnone
    · next hother => rw [if_neg hother, at?, hnone]

theorem walk_put (h : fs.at? place = some (.file old)) (here parts : List Text) :
    (fs.put place (.file new)).walk here parts = fs.walk here parts := by
  induction parts generalizing here with
  | nil => rfl
  | cons part rest ih =>
    rw [walk, walk, at?_put h]
    by_cases hhere : here = place
    · rw [if_pos hhere, hhere, h]
    · rw [if_neg hhere]
      simp only [ih]

/-- Every path leads where it led. -/
theorem locate_put (h : fs.at? place = some (.file old)) (cwd : List Text) (p : Path) :
    (fs.put place (.file new)).locate cwd p = fs.locate cwd p := by
  rw [locate, locate, walk_put h]

theorem exists_of_read (h : fs.read cwd p = .ok old) :
    ∃ place, fs.locate cwd p = .ok place ∧ fs.at? place = some (.file old) := by
  obtain ⟨body, hbody, h⟩ := bind_eq_ok h
  obtain ⟨place, hplace, hfound⟩ := bind_eq_ok hbody
  refine ⟨place, hplace, ?_⟩
  split at hfound
  · next found hat =>
    cases hfound
    split at h
    · cases h
      exact hat
    · cases h
  · cases hfound

theorem read_of_at? (hplace : fs.locate cwd p = .ok place)
    (h : fs.at? place = some (.file old)) : fs.read cwd p = .ok old := by
  simp only [read, kindOf, hplace, h, bind, Except.bind, pure, Except.pure]

/-- **Writing to a file** gives it the bytes and changes nothing else. -/
theorem replaces_write (hread : fs.read cwd p = .ok old) (h : fs.write cwd p new = .ok fs') :
    Replaces fs fs' cwd p new := by
  obtain ⟨place, hplace, hold⟩ := exists_of_read hread
  obtain ⟨found, hfound, h⟩ := bind_eq_ok h
  obtain rfl : place = found := Except.ok.inj (hplace.symm.trans hfound)
  have hput : fs' = fs.put place (.file new) := by
    split at h
    · cases h
    · cases h
      rfl
    · cases h
    · cases h
  subst hput
  refine ⟨read_of_at? ((locate_put hold cwd p).trans hplace) ?_, fun other hother => ?_⟩
  · rw [at?_put hold, if_pos rfl]
  · rw [at?_put hold, if_neg]
    rintro rfl
    exact hother hplace

/-- A directory stays one when something is put in another place. -/
theorem at?_put_directory {here : List Text} (h : fs.at? here = some .directory)
    (hne : here ≠ place) (body : FileBody) : (fs.put place body).at? here = some .directory := by
  rw [at?] at h ⊢
  rw [lookup_put, if_neg hne]
  split at h
  · exact h
  · have hany : fs.entries.any (here.isPrefixOf ·.1) = true →
        (fs.put place body).entries.any (here.isPrefixOf ·.1) = true := by
      rw [List.any_eq_true, List.any_eq_true]
      rintro ⟨entry, hentry, habove⟩
      by_cases hplace : entry.1 = place
      · exact ⟨(place, body), List.mem_append_right _ (List.mem_singleton_self _), hplace ▸ habove⟩
      · exact ⟨entry, List.mem_append_left _ (List.mem_filter.mpr ⟨hentry, by simpa using hplace⟩),
          habove⟩
    split at h
    · next habove =>
      refine if_pos ?_
      rw [Bool.or_eq_true] at habove ⊢
      exact habove.imp_right hany
    · cases h

/-- A path that leads somewhere leads there still when something is put in a place that is no
directory. -/
theorem walk_put_of_ok (hplace : fs.at? place ≠ some .directory) (body : FileBody)
    {here parts dest : List Text} (h : fs.walk here parts = .ok dest) :
    (fs.put place body).walk here parts = .ok dest := by
  induction parts generalizing here with
  | nil => exact h
  | cons part rest ih =>
    rw [walk] at h
    split at h
    · next hhere =>
      have hne : here ≠ place := by
        rintro rfl
        exact hplace hhere
      rw [walk, at?_put_directory hhere hne]
      dsimp only
      split at h
      · cases h
      · next hlength =>
        rw [if_neg hlength]
        exact ih h
    · cases h
    · cases h

/-- What a successful writing did. -/
theorem write_eq_ok (h : fs.write cwd p new = .ok fs') :
    ∃ place, fs.locate cwd p = .ok place ∧ fs.at? place ≠ some .directory ∧
      fs.at? place.dropLast = some .directory ∧ fs' = fs.put place (.file new) := by
  obtain ⟨place, hplace, h⟩ := bind_eq_ok h
  refine ⟨place, hplace, ?_⟩
  split at h
  · cases h
  · next habove hnot =>
    cases h
    exact ⟨hnot, habove, rfl⟩
  · cases h
  · cases h

/-- **What is written is read.** -/
theorem read_write (h : fs.write cwd p new = .ok fs') : fs'.read cwd p = .ok new := by
  obtain ⟨place, hplace, hnot, -, rfl⟩ := write_eq_ok h
  have hsame : (fs.put place (.file new)).locate cwd p = .ok place := by
    rw [locate] at hplace ⊢
    split at hplace
    · cases hplace
    · next hnull =>
      rw [if_neg hnull]
      split at hplace
      · cases hplace
      · next hlong =>
        rw [if_neg hlong]
        exact walk_put_of_ok hnot _ hplace
  refine read_of_at? hsame ?_
  rw [at?, lookup_put, if_pos rfl]

theorem readText_of_read {t : Text} (h : fs.read cwd p = .ok (Utf8.bytes t)) :
    fs.readText cwd p = .ok (unifyLineEnds t) := by
  simp only [readText, h, Utf8.decode_bytes, bind, Except.bind, pure, Except.pure]

/-- A text is written as its bytes. -/
theorem writeText_codesOf (fs : Files) (cwd : List Text) (p : Path) (t : Text) :
    fs.writeText cwd p (Utf8.codesOf t) = match fs.write cwd p (Utf8.bytes t) with
      | .ok fs => (fs, .ok ())
      | .error e => (fs, .error e) := by
  cases hwrite : fs.write cwd p (Utf8.bytes t) with
  | ok written => simp only [writeText, Utf8.encode_codesOf, hwrite]
  | error e => simp only [writeText, Utf8.encode_codesOf, hwrite]

end Files

/-! ## Buffers -/

/-- The rows of a buffer that are texts make one text. -/
theorem Buffer.text_of_texts {b : Buffer} {texts : List Text} (h : b.lines = texts.map Value.str) :
    b.text = .ok (Utf8.codesOf (Text.unlines texts)) := by
  rw [text, h, Value.joinRows_texts]

namespace Buffers

variable {bs bs' : Buffers} {fs fs' : Files} {cwd : List Text} {p : Path} {b : Buffer}
  {id shown : String} {t : Text}

/-- The buffer in which a text is opened. -/
def opened (p : Path) (t : Text) : Buffer :=
  { path := some (String.ofList p.toText), lines := Buffer.rowsOf t, filetype := filetypeOf p }

theorem openFile_of_read (hclosed : bs.get? (String.ofList p.toText) = none)
    (hread : fs.read cwd p = .ok (Utf8.bytes t)) :
    bs.openFile fs cwd p
      = .ok (bs.put (String.ofList p.toText) (opened p (Files.unifyLineEnds t)),
          String.ofList p.toText) := by
  rw [openFile, hclosed]
  dsimp only
  rw [Files.readText_of_read hread]
  rfl

/-- A buffer is saved to the file whose path it keeps, or nothing happens to the files. -/
theorem save_cases {texts : List Text} {old : List UInt8} {saved : Except Failure (Buffers × String)}
    (hplain : p.Plain) (hb : bs.get? id = some b) (hpath : b.path = some (String.ofList p.toText))
    (hlines : b.lines = texts.map Value.str) (hread : fs.read cwd p = .ok old)
    (h : bs.save fs cwd id = (fs', saved)) :
    (∃ e, saved = .error e) ∧ fs' = fs ∨
      (∃ bs' shown, saved = .ok (bs', shown)) ∧
        fs.Replaces fs' cwd p (Utf8.bytes (Text.unlines texts)) := by
  rw [save, get_of_get? hb] at h
  dsimp only at h
  rw [hpath, Buffer.text_of_texts hlines] at h
  dsimp only at h
  rw [String.toList_ofList, hplain.ofText_toText, Files.writeText_codesOf] at h
  cases hwrite : fs.write cwd p (Utf8.bytes (Text.unlines texts)) with
  | error e =>
    rw [hwrite] at h
    cases h
    exact .inl ⟨⟨e, rfl⟩, rfl⟩
  | ok written =>
    rw [hwrite] at h
    cases h
    exact .inr ⟨⟨_, _, rfl⟩, Files.replaces_write hread hwrite⟩

/-- **A file that is opened and saved as it is** has line feeds for all its line ends, and so it has
the same bytes just if it has no carriage return. -/
theorem save_opened (hplain : p.Plain) (hclosed : bs.get? (String.ofList p.toText) = none)
    (hread : fs.read cwd p = .ok (Utf8.bytes t)) :
    ∃ opened id, bs.openFile fs cwd p = .ok (opened, id) ∧
      ∀ bs' fs' shown, opened.save fs cwd id = (fs', .ok (bs', shown)) →
        fs.Replaces fs' cwd p (Utf8.bytes (Files.unifyLineEnds t)) ∧
        (fs'.read cwd p = fs.read cwd p ↔ '\r' ∉ t) := by
  refine ⟨_, _, openFile_of_read hclosed hread, fun bs' fs' shown hsave => ?_⟩
  obtain ⟨⟨e, he⟩, _⟩ | ⟨_, hreplaces⟩ :=
    save_cases hplain ((get?_put ..).trans (if_pos rfl)) rfl rfl hread hsave
  · cases he
  rw [Text.unlines_lines] at hreplaces
  refine ⟨hreplaces, ?_⟩
  rw [hreplaces.read, hread, ← Files.bytes_unifyLineEnds_iff, Except.ok.injEq]

end Buffers

end GhostEdit
