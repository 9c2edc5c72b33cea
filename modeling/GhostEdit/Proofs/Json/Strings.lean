import GhostEdit.Json.Decode
import GhostEdit.Json.Print
import Mathlib.Data.List.Chain

/-!
# A string is read as it was written

A string is written in plain ASCII: some characters by a backslash and a letter, others by the
numbers of one or two sixteen-bit codes. The reader turns it into characters and codes first and
puts the pairs of codes together afterwards. A string may hold halves of pairs that no character
stands for; they come back as they were unless a first half is followed by a second one, which the
reader cannot tell from a pair.

## Main definitions

* `Json.Spells`: characters as written that stand for code points
* `Name.IsJson`: a string without a pair of halves

## Main results

* `Json.assemble_of_spells`: code points are put together as they were taken apart
* `Json.exists_renderName`: a string is read as it was written
-/

namespace GhostEdit

namespace Json

/-! ## Codes -/

theorem hexDigit?_digitChar : ∀ d < 16, hexDigit? (Nat.digitChar d) = some d := by decide

/-- Hexadecimal digits with zeros in front. -/
theorem padded_succ (width n : Nat) :
    List.replicate (width + 2 - (Nat.toDigits 16 n).length) '0' ++ Nat.toDigits 16 n
      = List.replicate (width + 1 - (Nat.toDigits 16 (n / 16)).length) '0'
        ++ Nat.toDigits 16 (n / 16) ++ [Nat.digitChar (n % 16)] := by
  by_cases h : n < 16
  · rw [Nat.toDigits_of_lt_base h, Nat.div_eq_of_lt h, Nat.mod_eq_of_lt h,
      Nat.toDigits_of_lt_base (by decide)]
    simp [List.replicate_succ']
  · have hdigits : Nat.toDigits 16 n
        = Nat.toDigits 16 (n / 16) ++ [Nat.digitChar (n % 16)] := by
      rw [Nat.toDigits_eq_if (by decide), if_neg h]
    rw [hdigits, List.length_append, List.length_singleton, ← List.append_assoc,
      show width + 2 - ((Nat.toDigits 16 (n / 16)).length + 1)
        = width + 1 - (Nat.toDigits 16 (n / 16)).length by omega]

/-- A code is written with four digits. -/
theorem codeEscape_eq {n : Nat} (h : n < 0x10000) :
    codeEscape n = ['\\', 'u', Nat.digitChar (n / 16 / 16 / 16), Nat.digitChar (n / 16 / 16 % 16),
      Nat.digitChar (n / 16 % 16), Nat.digitChar (n % 16)] := by
  rw [codeEscape, padded_succ 2, padded_succ 1, padded_succ 0, Nat.toDigits_of_lt_base (by omega)]
  rfl

/-! ## Characters as written -/

/-- Characters as written that stand for a code point. -/
inductive Spelling : List Glyph → Nat → Prop
  | char (c : Char) : Spelling [.char c] c.toNat
  | code {n : Nat} (h : n < 0x10000) : Spelling [.code n] n
  | pair {hi lo : Nat} (hhi : isHighHalf hi = true) (hlo : isLowHalf lo = true) :
    Spelling [.code hi, .code lo] (0x10000 + (hi - 0xd800) * 0x400 + (lo - 0xdc00))

/-- A code point as it is written inside a string. -/
def renderPoint (n : Nat) : Text :=
  if n.isValidChar then escapeChar (Char.ofNat n) else codeEscape n

/-- Reading goes on behind some characters. -/
def ReadsAs (written : Text) (gs : List Glyph) : Prop :=
  ∀ (opening : Text) (c : Char) (rest : Text),
    readGlyphs opening .plain (written ++ c :: rest)
      = (readGlyphs opening .plain (c :: rest)).map fun (more, after) => (gs ++ more, after)

theorem readsAs_code {n : Nat} (h : n < 0x10000) : ReadsAs (codeEscape n) [.code n] := by
  intro opening c rest
  have h0 := hexDigit?_digitChar (n / 16 / 16 / 16) (by omega)
  have h1 := hexDigit?_digitChar (n / 16 / 16 % 16) (by omega)
  have h2 := hexDigit?_digitChar (n / 16 % 16) (by omega)
  have h3 := hexDigit?_digitChar (n % 16) (by omega)
  have hvalue : (((0 * 16 + n / 16 / 16 / 16) * 16 + n / 16 / 16 % 16) * 16 + n / 16 % 16) * 16
      + n % 16 = n := by omega
  rw [codeEscape_eq h]
  simp only [List.cons_append, List.nil_append, readGlyphs, h0, h1, h2, h3]
  rw [hvalue]
  rfl

theorem readsAs_escape {letter c : Char} (hletter : letter ≠ 'u')
    (h : escapeOf? letter = some c) : ReadsAs ['\\', letter] [.char c] := by
  intro opening d rest
  simp [readGlyphs, hletter, h]

theorem readsAs_plain {c : Char} (hquote : c ≠ '"') (hslash : c ≠ '\\') (h : 32 ≤ c.toNat) :
    ReadsAs [c] [.char c] := by
  intro opening d rest
  have hcontrol : ¬ c.toNat < 32 := by omega
  simp [readGlyphs, hquote, hslash, hcontrol]

theorem ReadsAs.nil : ReadsAs [] [] := by
  intro opening c rest
  rw [List.nil_append]
  cases readGlyphs opening .plain (c :: rest) <;> rfl

theorem ReadsAs.append {w w' : Text} {gs gs' : List Glyph} (h : ReadsAs w gs)
    (h' : ReadsAs w' gs') : ReadsAs (w ++ w') (gs ++ gs') := by
  intro opening c rest
  have hsecond := h' opening c rest
  obtain ⟨d, more, hmore⟩ := List.exists_cons_of_ne_nil (List.append_ne_nil_of_right_ne_nil w'
    (List.cons_ne_nil c rest))
  rw [hmore] at hsecond
  rw [List.append_assoc, hmore, h, hsecond]
  cases readGlyphs opening .plain (c :: rest) with
  | error e => rfl
  | ok result => exact congrArg (fun gs => Except.ok (gs, result.2)) (List.append_assoc ..).symm

/-- A character is read as it was written. -/
theorem exists_spelling_char (c : Char) :
    ∃ gs, Spelling gs c.toNat ∧ ReadsAs (escapeChar c) gs := by
  have hvalid : c.toNat < 0xd800 ∨ 0xdfff < c.toNat ∧ c.toNat < 0x110000 := c.valid
  rw [escapeChar.eq_def]
  split
  · exact ⟨_, .char _, readsAs_escape (by decide) rfl⟩
  · exact ⟨_, .char _, readsAs_escape (by decide) rfl⟩
  · exact ⟨_, .char _, readsAs_escape (by decide) rfl⟩
  · exact ⟨_, .char _, readsAs_escape (by decide) rfl⟩
  · exact ⟨_, .char _, readsAs_escape (by decide) rfl⟩
  · exact ⟨_, .char _, readsAs_escape (by decide) rfl⟩
  · exact ⟨_, .char _, readsAs_escape (by decide) rfl⟩
  · next hquote hslash _ _ _ _ _ =>
    dsimp only
    split
    · next h => exact ⟨_, .char c, readsAs_plain hquote hslash h.1⟩
    · split
      · next h => exact ⟨_, .code h, readsAs_code h⟩
      · next h =>
        have hhi : isHighHalf (0xd800 + (c.toNat - 0x10000) / 0x400) = true := by
          rw [isHighHalf, Bool.and_eq_true, decide_eq_true_eq, decide_eq_true_eq]
          omega
        have hlo : isLowHalf (0xdc00 + (c.toNat - 0x10000) % 0x400) = true := by
          rw [isLowHalf, Bool.and_eq_true, decide_eq_true_eq, decide_eq_true_eq]
          omega
        have hpair := Spelling.pair hhi hlo
        rw [show 0x10000 + (0xd800 + (c.toNat - 0x10000) / 0x400 - 0xd800) * 0x400
            + (0xdc00 + (c.toNat - 0x10000) % 0x400 - 0xdc00) = c.toNat by omega] at hpair
        exact ⟨_, hpair, (readsAs_code (by omega)).append (readsAs_code (by omega))⟩

/-- A code point is read as it was written. -/
theorem exists_spelling {n : Nat} (h : n < 0x110000) :
    ∃ gs, Spelling gs n ∧ ReadsAs (renderPoint n) gs := by
  rw [renderPoint]
  split
  · next hvalid =>
    have hc := exists_spelling_char (Char.ofNat n)
    rwa [show (Char.ofNat n).toNat = n by rw [Char.ofNat, dif_pos hvalid]; rfl] at hc
  · next hnot =>
    have hsmall : n < 0x10000 := by
      have hvalid : ¬ (n < 0xd800 ∨ 0xdfff < n ∧ n < 0x110000) := hnot
      omega
    exact ⟨_, .code hsmall, readsAs_code hsmall⟩

/-! ## Strings -/

/-- A high half is not followed by a low one. -/
def Unpaired (a b : Nat) : Prop := ¬ (isHighHalf a = true ∧ isLowHalf b = true)

/-- Characters as written that stand for code points. -/
inductive Spells : List Glyph → List Nat → Prop
  | nil : Spells [] []
  | cons {gs more : List Glyph} {n : Nat} {points : List Nat} (h : Spelling gs n)
    (hmore : Spells more points) : Spells (gs ++ more) (n :: points)

theorem not_isLowHalf_of_isHighHalf {n : Nat} (h : isHighHalf n = true) :
    ¬ isLowHalf n = true := by
  rw [isHighHalf, Bool.and_eq_true, decide_eq_true_eq, decide_eq_true_eq] at h
  rw [isLowHalf, Bool.and_eq_true, decide_eq_true_eq, decide_eq_true_eq]
  omega

/-- What starts with a code stands for it, or for a pair that it is the first half of. -/
theorem Spells.code_head {lo : Nat} {more : List Glyph} {points : List Nat}
    (h : Spells (.code lo :: more) points) :
    isHighHalf lo = true ∨ ∃ rest, points = lo :: rest := by
  generalize hgs : Glyph.code lo :: more = gs at h
  cases h with
  | nil => cases hgs
  | cons hfirst _ =>
    cases hfirst with
    | char c => cases hgs
    | code _ =>
      cases hgs
      exact .inr ⟨_, rfl⟩
    | pair hhi _ =>
      cases hgs
      exact .inl hhi

theorem assemble_code {n : Nat} {more : List Glyph}
    (h : ∀ lo rest, more = .code lo :: rest → ¬ (isHighHalf n && isLowHalf lo) = true) :
    assemble (.code n :: more) = n :: assemble more := by
  cases more with
  | nil => rfl
  | cons g rest =>
    cases g with
    | char c => rfl
    | code lo => rw [assemble, if_neg (h lo rest rfl)]

/-- **Code points are read as they were written**, as long as no two halves of a pair follow each
other. -/
theorem assemble_of_spells {gs : List Glyph} {points : List Nat} (h : Spells gs points)
    (hpoints : points.IsChain Unpaired) : assemble gs = points := by
  induction h with
  | nil => rfl
  | @cons first more n rest hfirst hmore ih =>
    have hrest := ih hpoints.tail
    cases hfirst with
    | char c => exact congrArg (c.toNat :: ·) hrest
    | pair hhi hlo =>
      show assemble (.code _ :: .code _ :: more) = _
      rw [assemble, if_pos (by rw [hhi, hlo]; rfl), hrest]
    | code _ =>
      show assemble (.code n :: more) = _
      rw [assemble_code, hrest]
      rintro lo others rfl hhalves
      rw [Bool.and_eq_true] at hhalves
      rcases hmore.code_head with hhi | ⟨tail, rfl⟩
      · exact not_isLowHalf_of_isHighHalf hhi hhalves.2
      · exact (List.isChain_cons_cons.mp hpoints).1 hhalves

theorem exists_spells {points : List Nat} (h : ∀ n ∈ points, n < 0x110000) :
    ∃ gs, Spells gs points ∧ ReadsAs (points.flatMap renderPoint) gs := by
  induction points with
  | nil => exact ⟨[], .nil, .nil⟩
  | cons n rest ih =>
    obtain ⟨gs, hn, hreads⟩ := exists_spelling (h n List.mem_cons_self)
    obtain ⟨more, hmore, hrest⟩ := ih fun m hm => h m (List.mem_cons_of_mem n hm)
    exact ⟨gs ++ more, .cons hn hmore, hreads.append hrest⟩

/-- What reads as some characters is their string, up to the quote behind it. -/
theorem ReadsAs.readString {written : Text} {gs : List Glyph} (h : ReadsAs written gs)
    (opening rest : Text) :
    readString opening (written ++ '"' :: rest) = .ok (stringOf (assemble gs), rest) := by
  have hread := h opening '"' rest
  have hend : readGlyphs opening .plain ('"' :: rest) = .ok ([], rest) := by
    rw [readGlyphs, if_pos rfl]
  rw [hend] at hread
  rw [Json.readString, hread]
  simp [Except.map]

/-- The string of code points that have no two halves of a pair in a row is read back. -/
theorem readString_points {points : List Nat} (h : ∀ n ∈ points, n < 0x110000)
    (hpoints : points.IsChain Unpaired) (opening rest : Text) :
    readString opening (points.flatMap renderPoint ++ '"' :: rest)
      = .ok (stringOf points, rest) := by
  obtain ⟨gs, hspells, hreads⟩ := exists_spells h
  rw [hreads.readString, assemble_of_spells hspells hpoints]

end Json

/-- A name that JSON can tell: one that is no text has a half of a pair, but no whole one. -/
def Name.IsJson : Name → Prop
  | .text _ => True
  | .codes points =>
    (∀ n ∈ points, n < 0x110000) ∧ points.IsChain Json.Unpaired ∧
      ∃ n ∈ points, (Json.isHighHalf n || Json.isLowHalf n) = true

namespace Json

theorem isHalf_toNat (c : Char) : (isHighHalf c.toNat || isLowHalf c.toNat) = false := by
  have hvalid : c.toNat < 0xd800 ∨ 0xdfff < c.toNat ∧ c.toNat < 0x110000 := c.valid
  simp only [isHighHalf, isLowHalf, Bool.or_eq_false_iff, Bool.and_eq_false_iff,
    decide_eq_false_iff_not]
  omega

theorem renderPoint_toNat (c : Char) : renderPoint c.toNat = escapeChar c := by
  have hvalid : c.toNat.isValidChar := c.valid
  rw [renderPoint, if_pos hvalid, Char.ofNat_toNat]

/-- **A name is read as it was written.** -/
theorem exists_renderName {name : Name} (h : name.IsJson) :
    ∃ body, renderName name = '"' :: body ∧
      ∀ opening rest, readString opening (body ++ rest) = .ok (name, rest) := by
  cases name with
  | text t =>
    refine ⟨t.flatMap escapeChar ++ ['"'], rfl, fun opening rest => ?_⟩
    have hwritten : t.flatMap escapeChar = (t.map Char.toNat).flatMap renderPoint := by
      rw [List.flatMap_map]
      exact List.flatMap_congr fun c _ => (renderPoint_toNat c).symm
    have hrange : ∀ n ∈ t.map Char.toNat, n < 0x110000 := by
      intro n hn
      obtain ⟨c, _, rfl⟩ := List.mem_map.mp hn
      have hvalid : c.toNat < 0xd800 ∨ 0xdfff < c.toNat ∧ c.toNat < 0x110000 := c.valid
      omega
    have hwhole : ∀ n ∈ t.map Char.toNat, (isHighHalf n || isLowHalf n) = false := by
      intro n hn
      obtain ⟨c, _, rfl⟩ := List.mem_map.mp hn
      exact isHalf_toNat c
    have hchain : (t.map Char.toNat).IsChain Unpaired := by
      refine (List.pairwise_map.mpr (List.pairwise_of_forall fun a b hhalves => ?_)).isChain
      have hnone := isHalf_toNat a
      rw [hhalves.1] at hnone
      cases hnone
    rw [hwritten, List.append_assoc, List.singleton_append, readString_points hrange hchain,
      stringOf, if_neg (by simpa using hwhole), List.map_map]
    simp [Function.comp_def]
  | codes points =>
    obtain ⟨hrange, hchain, n, hn, hhalf⟩ := h
    refine ⟨points.flatMap renderPoint ++ ['"'], rfl, fun opening rest => ?_⟩
    rw [List.append_assoc, List.singleton_append, readString_points hrange hchain, stringOf,
      if_pos (List.any_eq_true.mpr ⟨n, hn, hhalf⟩)]

end Json

end GhostEdit
