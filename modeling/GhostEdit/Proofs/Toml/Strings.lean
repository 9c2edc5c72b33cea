import GhostEdit.Toml.Read
import GhostEdit.Toml.Write

/-!
# Strings and keys of a TOML document

A string is written between quotes, with a backslash in front of what cannot stand there as it is,
and is read back character by character, whatever stands behind its closing quote. A part of a key
goes without quotes where it can. Such a part is read as far as it goes, so what follows must not
look like more of it.

## Main definitions

* `Toml.dotted`: a key as it is written
* `Toml.NoBare`: what can follow a key

## Main results

* `Toml.basicString?_render`: a string is read as it was written
* `Toml.key?_dotted`: a key is read as it was written
-/

namespace GhostEdit

namespace Toml

/-! ## Strings -/

/-- The characters that are written by number have small ones. -/
theorem hexPadded_small :
    ∀ n < 128, Text.hexPadded 4 n = ['0', '0', Nat.digitChar (n / 16), Nat.digitChar (n % 16)] := by
  decide

theorem hexDigit?_small : ∀ d < 16, Json.hexDigit? (Nat.digitChar d) = some d := by decide

theorem escape?_hexPadded {n : Nat} (h : n < 128) (rest : Text) :
    escape? ('u' :: (Text.hexPadded 4 n ++ rest)) = some (Char.ofNat n, rest) := by
  have hhigh := hexDigit?_small (n / 16) (by omega)
  have hlow := hexDigit?_small (n % 16) (by omega)
  have hzero : Json.hexDigit? '0' = some 0 := rfl
  have hn : ((0 * 16 + 0) * 16 + 0) * 16 + n / 16 = n / 16 := by omega
  have hvalue : n / 16 * 16 + n % 16 = n := by omega
  have hscalar : scalar? n = some (Char.ofNat n) := if_pos (.inl (by omega))
  rw [hexPadded_small n h]
  simp only [List.cons_append, List.nil_append, escape?, hexNumber?, hzero, hhigh, hlow,
    Option.bind_some, hn, hvalue, hscalar, bind, pure]

/-- **A character of a string** is read as it was written, in one step. -/
theorem basicString?_escapedChar (c : Char) (more : Text) (fuel : Nat) :
    basicString? (fuel + 1) (escapedChar c ++ more)
      = (basicString? fuel more).map fun (t, rest) => (c :: t, rest) := by
  have hbind : ∀ r : Option (Text × Text),
      (r.bind fun x => some (c :: x.1, x.2)) = r.map fun x => (c :: x.1, x.2) :=
    fun r => by cases r <;> rfl
  rw [escapedChar.eq_def]
  split
  all_goals try exact hbind _
  next hquote hslash =>
  split
  · next hnumber =>
    have hsmall : c.toNat < 128 := by
      simp only [Bool.or_eq_true, Bool.and_eq_true, decide_eq_true_eq] at hnumber
      omega
    have hescape := escape?_hexPadded hsmall more
    rw [Char.ofNat_toNat] at hescape
    rw [List.cons_append, List.cons_append, basicString?]
    simp only [hescape, bind, pure]
    exact hbind _
  · next hplain =>
    have hcontrol : isControl c = false := by simpa [isControl] using hplain
    rw [List.cons_append, List.nil_append, basicString?, if_neg hquote, if_neg hslash,
      if_neg (by simp [hcontrol])]
    exact hbind _

/-- **A string is read as it was written**, whatever follows it. -/
theorem basicString?_render (t rest : Text) {fuel : Nat} (hfuel : t.length < fuel) :
    basicString? fuel (t.flatMap escapedChar ++ '"' :: rest) = some (t, rest) := by
  induction t generalizing fuel with
  | nil =>
    obtain ⟨fuel, rfl⟩ := Nat.exists_eq_add_one_of_ne_zero (Nat.ne_zero_of_lt hfuel)
    rfl
  | cons c t ih =>
    obtain ⟨fuel, rfl⟩ := Nat.exists_eq_add_one_of_ne_zero (show fuel ≠ 0 by omega)
    rw [List.flatMap_cons, List.append_assoc, basicString?_escapedChar,
      ih (by rw [List.length_cons] at hfuel; omega)]
    rfl

theorem escapedChar_ne_nil (c : Char) : escapedChar c ≠ [] := by
  rw [escapedChar.eq_def]
  split
  all_goals try exact List.cons_ne_nil _ _
  split <;> exact List.cons_ne_nil _ _

/-- A string is no longer than what is written for it. -/
theorem length_le_flatMap (t : Text) : t.length ≤ (t.flatMap escapedChar).length := by
  induction t with
  | nil => exact Nat.le_refl _
  | cons c t ih =>
    have hpos := List.length_pos_iff.mpr (escapedChar_ne_nil c)
    rw [List.flatMap_cons, List.length_append, List.length_cons]
    omega

theorem renderString_append (t rest : Text) :
    renderString t ++ rest = '"' :: (t.flatMap escapedChar ++ '"' :: rest) := by
  rw [renderString, List.append_assoc, List.cons_append]
  rfl

/-! ## Keys -/

/-- What can follow a key: nothing that would go on with it. -/
def NoBare (t : Text) : Prop := ∀ c ∈ t.head?, isBare c = false

/-- A key as it is written: its parts with points between them. -/
def dotted (key : Key) : Text := Text.join ['.'] (key.map fun part => renderKey (.text part))

theorem noBare_cons {c : Char} {t : Text} (h : isBare c = false) : NoBare (c :: t) := by
  rintro d ⟨⟩
  exact h

/-- A part of a key stands without quotes, or as a string. -/
theorem renderKey_text (part : Text) :
    renderKey (.text part) = part ∧ part ≠ [] ∧ part.all isBare = true ∨
      renderKey (.text part) = renderString part := by
  by_cases h : (!part.isEmpty && part.all isBare) = true
  · have hparts := h
    rw [Bool.and_eq_true, Bool.not_eq_true', List.isEmpty_eq_false_iff] at hparts
    exact .inl ⟨if_pos h, hparts⟩
  · exact .inr (if_neg h)

theorem keyPart?_render (part : Text) {rest : Text} (hrest : NoBare rest) :
    keyPart? (renderKey (.text part) ++ rest) = some (part, rest) := by
  obtain ⟨hrender, hne, hbare⟩ | hrender := renderKey_text part
  · rw [hrender]
    have htake := Text.takeWhile_run (List.all_eq_true.mp hbare) hrest
    have hdrop := Text.dropWhile_run (List.all_eq_true.mp hbare) hrest
    obtain ⟨c, t, rfl⟩ := List.exists_cons_of_ne_nil hne
    have hc : isBare c = true := List.all_eq_true.mp hbare c List.mem_cons_self
    rw [List.cons_append] at htake hdrop ⊢
    rw [keyPart?.eq_def]
    split
    · next heq =>
      cases heq
      cases hc
    · next heq =>
      cases heq
      cases hc
    · next heq =>
      cases heq
      rw [if_pos hc, htake, hdrop]
    · next heq => cases heq
  · have hlength := length_le_flatMap part
    rw [hrender, renderString_append]
    exact basicString?_render part rest (by rw [List.length_append]; omega)

/-- What a part of a key starts with is no space and closes or opens nothing. -/
theorem exists_renderKey (part : Text) :
    ∃ c more, renderKey (.text part) = c :: more ∧ (c = '"' ∨ isBare c = true) := by
  obtain ⟨hrender, hne, hbare⟩ | hrender := renderKey_text part
  · obtain ⟨c, t, rfl⟩ := List.exists_cons_of_ne_nil hne
    exact ⟨c, t, hrender, .inr (List.all_eq_true.mp hbare c List.mem_cons_self)⟩
  · exact ⟨'"', _, hrender, .inl rfl⟩

theorem skipBlank_cons {c : Char} (hblank : c ≠ ' ') (htab : c ≠ '\t') (t : Text) :
    skipBlank (c :: t) = c :: t :=
  List.dropWhile_cons_of_neg (by simp [hblank, htab])

theorem ne_of_isBare {c d : Char} (hc : c = '"' ∨ isBare c = true) (hquote : d ≠ '"')
    (hd : isBare d = false) : c ≠ d := by
  rintro rfl
  rcases hc with rfl | hc
  · exact hquote rfl
  · rw [hd] at hc
    cases hc

theorem skipBlank_renderKey (part rest : Text) :
    skipBlank (renderKey (.text part) ++ rest) = renderKey (.text part) ++ rest := by
  obtain ⟨c, more, hrender, hc⟩ := exists_renderKey part
  rw [hrender, List.cons_append]
  exact skipBlank_cons (ne_of_isBare hc (by decide) rfl) (ne_of_isBare hc (by decide) rfl) _

theorem dotted_cons_cons (part next : Text) (more : Key) :
    dotted (part :: next :: more) = renderKey (.text part) ++ '.' :: dotted (next :: more) := by
  rw [dotted, dotted, List.map_cons, List.map_cons, Text.join_cons_cons, List.append_assoc]
  rfl

theorem exists_dotted (part : Text) (more : Key) :
    ∃ tail, dotted (part :: more) = renderKey (.text part) ++ tail := by
  cases more with
  | nil => exact ⟨[], by rw [List.append_nil]; rfl⟩
  | cons next more => exact ⟨_, dotted_cons_cons part next more⟩

theorem dotted_snoc {key : Key} (hne : key ≠ []) (part : Text) :
    dotted (key ++ [part]) = dotted key ++ '.' :: renderKey (.text part) := by
  induction key with
  | nil => exact absurd rfl hne
  | cons first key ih =>
    cases key with
    | nil => exact dotted_cons_cons first part []
    | cons next more =>
      rw [List.cons_append, List.cons_append, dotted_cons_cons, dotted_cons_cons,
        ← List.cons_append, ih (List.cons_ne_nil _ _), List.append_assoc]
      rfl

theorem dotted_ne_nil {key : Key} (hne : key ≠ []) : dotted key ≠ [] := by
  obtain ⟨part, more, rfl⟩ := List.exists_cons_of_ne_nil hne
  obtain ⟨tail, htail⟩ := exists_dotted part more
  obtain ⟨c, rest, hrender, -⟩ := exists_renderKey part
  rw [htail, hrender]
  exact List.cons_ne_nil _ _

/-- A key has no more parts than what is written for it has characters. -/
theorem length_le_dotted (key : Key) : key.length ≤ (dotted key).length := by
  induction key with
  | nil => exact Nat.le_refl _
  | cons part more ih =>
    obtain ⟨c, rest, hrender, -⟩ := exists_renderKey part
    cases more with
    | nil =>
      rw [show dotted [part] = renderKey (.text part) from rfl, hrender]
      simp
    | cons next more =>
      rw [dotted_cons_cons]
      simp only [List.length_append, List.length_cons] at ih ⊢
      omega

/-- **A key is read as it was written**, with the blanks behind it. -/
theorem key?_dotted (part : Text) (more : Key) {rest : Text} (hrest : NoBare rest)
    (hpoint : (skipBlank rest).head? ≠ some '.') {fuel : Nat} (hfuel : more.length < fuel) :
    key? fuel (dotted (part :: more) ++ rest) = some (part :: more, skipBlank rest) := by
  induction more generalizing part fuel with
  | nil =>
    obtain ⟨fuel, rfl⟩ := Nat.exists_eq_add_one_of_ne_zero (Nat.ne_zero_of_lt hfuel)
    rw [key?]
    simp only [show dotted [part] = renderKey (.text part) from rfl, keyPart?_render part hrest,
      bind, Option.bind_some]
    split
    · next heq =>
      rw [heq] at hpoint
      exact absurd rfl hpoint
    · rfl
  | cons next more ih =>
    rw [List.length_cons] at hfuel
    obtain ⟨fuel, rfl⟩ := Nat.exists_eq_add_one_of_ne_zero (show fuel ≠ 0 by omega)
    obtain ⟨tail, htail⟩ := exists_dotted next more
    have hskip : skipBlank (dotted (next :: more) ++ rest) = dotted (next :: more) ++ rest := by
      rw [htail, List.append_assoc]
      exact skipBlank_renderKey next _
    have hafter : skipBlank ('.' :: (dotted (next :: more) ++ rest))
        = '.' :: (dotted (next :: more) ++ rest) := skipBlank_cons (by decide) (by decide) _
    rw [dotted_cons_cons, List.append_assoc, List.cons_append, key?]
    simp only [keyPart?_render part (noBare_cons (show isBare '.' = false from rfl)), bind,
      Option.bind_some, hafter, hskip, ih next (show more.length < fuel by omega)]
    rfl

end Toml

end GhostEdit
