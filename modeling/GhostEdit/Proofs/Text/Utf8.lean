import GhostEdit.Value.Row
import Mathlib.Data.List.TakeWhile

/-!
# The bytes of a text decode to the text

Decoding reads one character at a time: a first byte that says how many bytes follow, and those as
far as they may. The bytes of a character are such a first byte and as many bytes as it asks for
(`Utf8.Spells`), whatever stands behind them, and so the bytes of a text are read back character by
character. And every text has bytes: what cannot be encoded are halves of pairs, which no character
is.

## Main definitions

* `Utf8.Spells`: a first byte and the bytes that follow it stand for a code point

## Main results

* `Utf8.decode_bytes`
* `Utf8.encode_codesOf`
* `Value.joinRows_texts`: rows that are texts have the code points of one
-/

namespace GhostEdit

namespace Utf8

/-! ## The bytes of one character -/

/-- A first byte and the bytes that follow it stand for a code point. -/
structure Spells (first : UInt8) (more : List UInt8) (n : Nat) : Prop where
  start : ∃ bits, startOf? first = some (more.length, bits) ∧ codeOf bits more = n
  second : ∀ b ∈ more.head?, isSecond first b = true
  others : ∀ b ∈ more.tail, isContinuation b = true

variable {first : UInt8} {more : List UInt8} {n : Nat}

/-- What follows is read to its end and no further. -/
theorem Spells.followers (h : Spells first more n) (rest : List UInt8) :
    followers first more.length (more ++ rest) = more := by
  cases more with
  | nil => rfl
  | cons b tail =>
    have hsecond : isSecond first b = true := h.second b rfl
    have hothers : ∀ x ∈ tail, isContinuation x = true := h.others
    rw [List.length_cons, List.cons_append, Utf8.followers, if_pos hsecond,
      List.take_left, List.takeWhile_eq_self_iff.2 hothers]

/-! ## Bytes as numbers -/

theorem toNat_ofNat_of_lt (h : n < 256) : (UInt8.ofNat n).toNat = n := by
  rw [UInt8.toNat_ofNat']
  exact Nat.mod_eq_of_lt h

theorem startOf?_ofNat (h : n < 256) :
    startOf? (UInt8.ofNat n) =
      if n < 0x80 then some (0, n)
      else if n < 0xc2 then none
      else if n < 0xe0 then some (1, n - 0xc0)
      else if n < 0xf0 then some (2, n - 0xe0)
      else if n < 0xf5 then some (3, n - 0xf0)
      else none := by
  simp only [startOf?, UInt8.lt_iff_toNat_lt, toNat_ofNat_of_lt h]
  rfl

theorem isContinuation_ofNat (h : n < 0x40) : isContinuation (UInt8.ofNat (0x80 + n)) = true := by
  have hn := toNat_ofNat_of_lt (show 0x80 + n < 256 by omega)
  simp only [isContinuation, UInt8.le_iff_toNat_le, UInt8.lt_iff_toNat_lt, hn, Bool.and_eq_true,
    decide_eq_true_eq]
  exact ⟨Nat.le_add_right _ _, show 0x80 + n < 0xc0 by omega⟩

/-- A second byte, by the numbers of the two bytes. -/
theorem isSecond_ofNat {m : Nat} (hm : m < 256) (hn : n < 0x40)
    (hlow : m = 0xe0 → 0x20 ≤ n) (hhalf : m = 0xed → n < 0x20) (hfour : m = 0xf0 → 0x10 ≤ n)
    (hhigh : m = 0xf4 → n < 0x10) :
    isSecond (UInt8.ofNat m) (UInt8.ofNat (0x80 + n)) = true := by
  have hsecond := toNat_ofNat_of_lt (show 0x80 + n < 256 by omega)
  have hfirst : ∀ {k : Nat}, k < 256 → (UInt8.ofNat m = UInt8.ofNat k ↔ m = k) := by
    intro k hk
    rw [← UInt8.toNat_inj, toNat_ofNat_of_lt hm, toNat_ofNat_of_lt hk]
  have hle : ∀ {k : Nat}, k < 256 →
      (UInt8.ofNat k ≤ UInt8.ofNat (0x80 + n) ↔ k ≤ 0x80 + n) := by
    intro k hk
    rw [UInt8.le_iff_toNat_le, hsecond, toNat_ofNat_of_lt hk]
  have hlt : ∀ {k : Nat}, k < 256 →
      (UInt8.ofNat (0x80 + n) < UInt8.ofNat k ↔ 0x80 + n < k) := by
    intro k hk
    rw [UInt8.lt_iff_toNat_lt, hsecond, toNat_ofNat_of_lt hk]
  rw [isSecond, isContinuation_ofNat hn, Bool.true_and]
  change (if UInt8.ofNat m = UInt8.ofNat 0xe0 then decide (UInt8.ofNat 0xa0 ≤ UInt8.ofNat (0x80 + n))
    else if UInt8.ofNat m = UInt8.ofNat 0xed then
      decide (UInt8.ofNat (0x80 + n) < UInt8.ofNat 0xa0)
    else if UInt8.ofNat m = UInt8.ofNat 0xf0 then
      decide (UInt8.ofNat 0x90 ≤ UInt8.ofNat (0x80 + n))
    else if UInt8.ofNat m = UInt8.ofNat 0xf4 then
      decide (UInt8.ofNat (0x80 + n) < UInt8.ofNat 0x90)
    else true) = true
  simp only [hfirst, hle, hlt, Nat.reduceLT]
  split
  · next h => simpa using by have := hlow h; omega
  · split
    · next h => simpa using by have := hhalf h; omega
    · split
      · next h => simpa using by have := hfour h; omega
      · split
        · next h => simpa using by have := hhigh h; omega
        · rfl

theorem codeOf_cons_ofNat (h : n < 0x40) (bits : Nat) (more : List UInt8) :
    codeOf bits (UInt8.ofNat (0x80 + n) :: more) = codeOf (bits * 0x40 + n) more := by
  rw [codeOf, List.foldl_cons, toNat_ofNat_of_lt (by omega), Nat.add_sub_cancel_left, codeOf]

/-! ## Characters -/

/-- A first byte and one to three more, by their numbers. -/
theorem spells_two {m a : Nat} (hm : 2 ≤ m) (hm' : m < 0x20) (ha : a < 0x40) :
    Spells (UInt8.ofNat (0xc0 + m)) [UInt8.ofNat (0x80 + a)] (m * 0x40 + a) := by
  refine ⟨⟨m, ?_, codeOf_cons_ofNat ha m []⟩, ?_, by simp⟩
  · rw [startOf?_ofNat (by omega), if_neg (by omega), if_neg (by omega), if_pos (by omega),
      Nat.add_sub_cancel_left]
    rfl
  · rintro _ ⟨⟩
    exact isSecond_ofNat (by omega) ha (by omega) (by omega) (by omega) (by omega)

theorem spells_three {m a b : Nat} (hm : m < 0x10) (ha : a < 0x40) (hb : b < 0x40)
    (hlow : m = 0 → 0x20 ≤ a) (hhalf : m = 0xd → a < 0x20) :
    Spells (UInt8.ofNat (0xe0 + m)) [UInt8.ofNat (0x80 + a), UInt8.ofNat (0x80 + b)]
      ((m * 0x40 + a) * 0x40 + b) := by
  refine ⟨⟨m, ?_, ?_⟩, ?_, ?_⟩
  · rw [startOf?_ofNat (by omega), if_neg (by omega), if_neg (by omega), if_neg (by omega),
      if_pos (by omega), Nat.add_sub_cancel_left]
    rfl
  · rw [codeOf_cons_ofNat ha, codeOf_cons_ofNat hb]
    rfl
  · rintro _ ⟨⟩
    exact isSecond_ofNat (by omega) ha (fun h => hlow (by omega)) (fun h => hhalf (by omega))
      (by omega) (by omega)
  · intro x hx
    rw [List.mem_singleton.mp hx]
    exact isContinuation_ofNat hb

theorem spells_four {m a b c : Nat} (hm : m < 5) (ha : a < 0x40) (hb : b < 0x40) (hc : c < 0x40)
    (hlow : m = 0 → 0x10 ≤ a) (hhigh : m = 4 → a < 0x10) :
    Spells (UInt8.ofNat (0xf0 + m))
      [UInt8.ofNat (0x80 + a), UInt8.ofNat (0x80 + b), UInt8.ofNat (0x80 + c)]
      (((m * 0x40 + a) * 0x40 + b) * 0x40 + c) := by
  refine ⟨⟨m, ?_, ?_⟩, ?_, ?_⟩
  · rw [startOf?_ofNat (by omega), if_neg (by omega), if_neg (by omega), if_neg (by omega),
      if_neg (by omega), if_pos (by omega), Nat.add_sub_cancel_left]
    rfl
  · rw [codeOf_cons_ofNat ha, codeOf_cons_ofNat hb, codeOf_cons_ofNat hc]
    rfl
  · rintro _ ⟨⟩
    exact isSecond_ofNat (by omega) ha (by omega) (by omega) (fun h => hlow (by omega))
      (fun h => hhigh (by omega))
  · intro x hx
    rcases List.mem_cons.mp hx with rfl | hx
    · exact isContinuation_ofNat hb
    · rw [List.mem_singleton.mp hx]
      exact isContinuation_ofNat hc

/-- **The bytes of a code point** that is half of no pair. -/
theorem exists_spells (hrange : n < 0x110000) (hhalf : isHalf n = false) :
    ∃ first more, bytesOf n = first :: more ∧ Spells first more n := by
  have hhalf : n < 0xd800 ∨ 0xe000 ≤ n := by
    rw [isHalf, Bool.and_eq_false_iff, decide_eq_false_iff_not, decide_eq_false_iff_not] at hhalf
    omega
  rw [bytesOf]
  split
  · refine ⟨_, _, rfl, ⟨n, ?_, rfl⟩, by simp, by simp⟩
    rw [startOf?_ofNat (by omega), if_pos (by omega)]
    rfl
  · split
    · have hspells := spells_two (m := n / 0x40) (a := n % 0x40) (by omega) (by omega) (by omega)
      rw [show n / 0x40 * 0x40 + n % 0x40 = n by omega] at hspells
      exact ⟨_, _, rfl, hspells⟩
    · split
      · have hspells := spells_three (m := n / 0x1000) (a := n / 0x40 % 0x40) (b := n % 0x40)
          (by omega) (by omega) (by omega) (by omega) (by omega)
        rw [show (n / 0x1000 * 0x40 + n / 0x40 % 0x40) * 0x40 + n % 0x40 = n by omega] at hspells
        exact ⟨_, _, rfl, hspells⟩
      · have hspells := spells_four (m := n / 0x40000) (a := n / 0x1000 % 0x40)
          (b := n / 0x40 % 0x40) (c := n % 0x40)
          (by omega) (by omega) (by omega) (by omega) (by omega) (by omega)
        rw [show ((n / 0x40000 * 0x40 + n / 0x1000 % 0x40) * 0x40 + n / 0x40 % 0x40) * 0x40
          + n % 0x40 = n by omega] at hspells
        exact ⟨_, _, rfl, hspells⟩

theorem isHalf_toNat (c : Char) : isHalf c.toNat = false := by
  have hvalid : c.toNat < 0xd800 ∨ 0xdfff < c.toNat ∧ c.toNat < 0x110000 := c.valid
  rw [isHalf, Bool.and_eq_false_iff, decide_eq_false_iff_not, decide_eq_false_iff_not]
  omega

/-- The next character is read. -/
theorem decodeFrom_cons (c : Char) (fuel position : Nat) (done : Text) (rest : List UInt8) :
    ∃ next, decodeFrom (fuel + 1) position done (bytesOf c.toNat ++ rest)
      = decodeFrom fuel next (c :: done) rest := by
  have hvalid : c.toNat < 0xd800 ∨ 0xdfff < c.toNat ∧ c.toNat < 0x110000 := c.valid
  obtain ⟨first, more, hbytes, hspells⟩ := exists_spells (by omega) (isHalf_toNat c)
  obtain ⟨bits, hstart, hcode⟩ := hspells.start
  have hfollowers := hspells.followers rest
  refine ⟨position + more.length + 1, ?_⟩
  rw [hbytes, List.cons_append, decodeFrom, hstart]
  dsimp only
  rw [hfollowers, if_pos rfl, hcode, List.drop_left, Char.ofNat_toNat]

theorem decodeFrom_bytes (t : Text) {fuel : Nat} (hfuel : t.length ≤ fuel) (position : Nat)
    (done : Text) : decodeFrom fuel position done (bytes t) = .ok (done.reverse ++ t) := by
  induction t generalizing fuel position done with
  | nil =>
    rw [List.append_nil]
    cases fuel <;> rfl
  | cons c rest ih =>
    obtain ⟨fuel, rfl⟩ := Nat.exists_eq_add_one_of_ne_zero
      (show fuel ≠ 0 by rw [List.length_cons] at hfuel; omega)
    obtain ⟨next, hnext⟩ := decodeFrom_cons c fuel position done (bytes rest)
    have hbytes : bytes (c :: rest) = bytesOf c.toNat ++ bytes rest := rfl
    rw [hbytes, hnext, ih (by rw [List.length_cons] at hfuel; omega), List.reverse_cons,
      List.append_assoc, List.singleton_append]

/-- There are at least as many bytes as characters. -/
theorem length_le_length_bytes (t : Text) : t.length ≤ (bytes t).length := by
  induction t with
  | nil => exact Nat.le_refl 0
  | cons c rest ih =>
    have hpos : 0 < (bytesOf c.toNat).length := by
      rw [bytesOf]
      split
      · exact Nat.one_pos
      · split
        · exact Nat.two_pos
        · split <;> exact Nat.succ_pos _
    have hbytes : bytes (c :: rest) = bytesOf c.toNat ++ bytes rest := rfl
    rw [hbytes, List.length_append, List.length_cons]
    omega

/-- **The bytes of a text decode to the text.** -/
theorem decode_bytes (t : Text) : decode (bytes t) = .ok t :=
  decodeFrom_bytes t (length_le_length_bytes t) 0 []

/-! ## The code points of a text -/

/-- Code points can be encoded if none of them is a half. -/
theorem gapFrom?_eq_none_iff (points : List Nat) (done : Nat) :
    gapFrom? done points = none ↔ points.any isHalf = false := by
  induction points generalizing done with
  | nil => simp [gapFrom?]
  | cons n rest ih =>
    rw [gapFrom?, List.any_cons]
    by_cases hhalf : isHalf n = true
    · simp [hhalf]
    · simp [hhalf, ih]

theorem isHalf_of_mem_codesOf {t : Text} (h : n ∈ codesOf t) : isHalf n = false := by
  obtain ⟨c, _, rfl⟩ := List.mem_map.mp h
  exact isHalf_toNat c

theorem gapFrom?_codesOf (t : Text) (done : Nat) : gapFrom? done (codesOf t) = none := by
  rw [gapFrom?_eq_none_iff, List.any_eq_false]
  intro n hn
  rw [isHalf_of_mem_codesOf hn]
  exact Bool.false_ne_true

/-- **A text can be encoded**, and its bytes are those of its code points. -/
theorem encode_codesOf (t : Text) : encode (codesOf t) = .ok (bytes t) := by
  rw [encode, gapFrom?_codesOf]
  rfl

end Utf8

namespace Value

theorem collect_codes (texts : List Text) (index : Nat) :
    collect codes? index (texts.map .str) = .ok (texts.map Utf8.codesOf) := by
  induction texts generalizing index with
  | nil => rfl
  | cons t texts ih =>
    rw [List.map_cons, collect, ih]
    rfl

/-- Joining commutes with taking the code points. -/
theorem flatten_intersperse_codes (texts : List Text) :
    ((texts.map Utf8.codesOf).intersperse [10]).flatten = Utf8.codesOf (Text.unlines texts) := by
  induction texts with
  | nil => rfl
  | cons t rest ih =>
    cases rest with
    | nil => exact List.append_nil _
    | cons next more =>
      have hjoin : Utf8.codesOf (Text.unlines (t :: next :: more))
          = Utf8.codesOf t ++ [10] ++ Utf8.codesOf (Text.unlines (next :: more)) := by
        show (t ++ ['\n'] ++ Text.unlines (next :: more)).map Char.toNat = _
        rw [List.map_append, List.map_append]
        rfl
      rw [hjoin, ← ih, List.append_assoc]
      rfl

/-- **Rows that are texts** are joined as texts are. -/
theorem joinRows_texts (texts : List Text) :
    joinRows (texts.map .str) = .ok (Utf8.codesOf (Text.unlines texts)) := by
  rw [joinRows, collect_codes, ← flatten_intersperse_codes]
  rfl

end Value

end GhostEdit
