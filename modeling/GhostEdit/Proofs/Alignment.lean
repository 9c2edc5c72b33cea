import GhostEdit.Alignment

/-!
# The common stretches of two texts

What the search for common stretches finds is common to both texts, and it is found in order: each
stretch begins, in either text, at or after the end of the one before, and none is empty. This is
all that users of an alignment rely on. That the stretches are the longest ones is not needed for
it.

Texts that differ have a step that changes something. The first such step stands at the start of
both texts, unless a stretch that stays the same stands there.

## Main definitions

* `Alignment.Common`: a stretch that both texts have
* `Alignment.Chain`: stretches in order, between two pairs of positions
* `Alignment.StartsSame`: the first step leaves a start of both texts the same

## Main results

* `Alignment.blocks_chain`: the stretches that are found are common and in order
* `Alignment.blocks_pos`: none of them is empty
* `Alignment.take_eq_take_of_find?_edits`: up to the first step that changes something the texts
  are equal
* `Alignment.exists_find?_edits`: different texts have such a step
* `Alignment.rightStart_pos_iff`: when it does not stand at the start
-/

namespace GhostEdit

namespace Alignment

/-- Both texts have the stretch. -/
structure Common (a b : Text) (m : Block) : Prop where
  left_le : m.left + m.size ≤ a.length
  right_le : m.right + m.size ≤ b.length
  same : (a.drop m.left).take m.size = (b.drop m.right).take m.size

/-- Common stretches in order, from the positions `i` and `j` to the positions `p` and `q`. -/
def Chain (a b : Text) (p q : Nat) : Nat → Nat → List Block → Prop
  | i, j, [] => i ≤ p ∧ j ≤ q
  | i, j, m :: rest =>
    i ≤ m.left ∧ j ≤ m.right ∧ Common a b m ∧
      Chain a b p q (m.left + m.size) (m.right + m.size) rest

variable {a b : Text} {i j p q : Nat}

/-! ## The longest stretch -/

theorem commonPrefix_le (a b : Text) :
    commonPrefix a b ≤ a.length ∧ commonPrefix a b ≤ b.length := by
  fun_induction commonPrefix a b with
  | case1 as y bs ih =>
    simp only [List.length_cons]
    omega
  | case2 => omega
  | case3 => omega

theorem take_commonPrefix (a b : Text) :
    a.take (commonPrefix a b) = b.take (commonPrefix a b) := by
  fun_induction commonPrefix a b with
  | case1 as y bs ih => rw [List.take_succ_cons, List.take_succ_cons, ih]
  | case2 => rfl
  | case3 => rfl

theorem common_commonPrefix (hi : i < a.length) (hj : j < b.length) :
    Common a b ⟨i, j, commonPrefix (a.drop i) (b.drop j)⟩ := by
  obtain ⟨hleft, hright⟩ := commonPrefix_le (a.drop i) (b.drop j)
  rw [List.length_drop] at hleft hright
  refine ⟨?_, ?_, take_commonPrefix _ _⟩
  · show i + commonPrefix (a.drop i) (b.drop j) ≤ a.length
    omega
  · show j + commonPrefix (a.drop i) (b.drop j) ≤ b.length
    omega

theorem drop_succ_of_drop_eq_cons {c : Char} {rest : Text} (h : a.drop i = c :: rest) :
    i < a.length ∧ a.drop (i + 1) = rest := by
  have hlen := congrArg List.length h
  rw [List.length_drop, List.length_cons] at hlen
  refine ⟨by omega, ?_⟩
  rw [← List.drop_drop, h, List.drop_one, List.tail_cons]

theorem scanRight_common (hi : i < a.length) {rest : Text} (hrest : b.drop j = rest) {best : Block}
    (hbest : Common a b best) : Common a b (scanRight i (a.drop i) j rest best) := by
  induction rest generalizing j best with
  | nil => exact hbest
  | cons c rest ih =>
    obtain ⟨hj, htail⟩ := drop_succ_of_drop_eq_cons hrest
    rw [scanRight]
    refine ih htail ?_
    split
    · rw [← hrest]
      exact common_commonPrefix hi hj
    · exact hbest

theorem scanLeft_common {rest : Text} (hrest : a.drop i = rest) {best : Block}
    (hbest : Common a b best) : Common a b (scanLeft b i rest best) := by
  induction rest generalizing i best with
  | nil => exact hbest
  | cons c rest ih =>
    obtain ⟨hi, htail⟩ := drop_succ_of_drop_eq_cons hrest
    rw [scanLeft]
    refine ih htail ?_
    rw [← hrest]
    exact scanRight_common hi rfl hbest

theorem longestCommon_common (a b : Text) : Common a b (longestCommon a b) :=
  scanLeft_common rfl ⟨Nat.zero_le _, Nat.zero_le _, rfl⟩

/-! ## Chains -/

namespace Chain

variable {xs ys : List Block}

theorem mono {i' j' : Nat} (h : Chain a b p q i j xs) (hi : i' ≤ i) (hj : j' ≤ j) :
    Chain a b p q i' j' xs := by
  cases xs with
  | nil => exact ⟨Nat.le_trans hi h.1, Nat.le_trans hj h.2⟩
  | cons m rest => exact ⟨Nat.le_trans hi h.1, Nat.le_trans hj h.2.1, h.2.2⟩

theorem append {p' q' : Nat} (hxs : Chain a b p q i j xs) (hys : Chain a b p' q' p q ys) :
    Chain a b p' q' i j (xs ++ ys) := by
  induction xs generalizing i j with
  | nil => exact hys.mono hxs.1 hxs.2
  | cons m rest ih => exact ⟨hxs.1, hxs.2.1, hxs.2.2.1, ih hxs.2.2.2⟩

end Chain

/-- A stretch of what stands before two positions. -/
theorem Common.of_take {m : Block} (h : Common (a.take p) (b.take q) m) : Common a b m := by
  obtain ⟨hleft, hright, hsame⟩ := h
  rw [List.length_take] at hleft hright
  refine ⟨by omega, by omega, ?_⟩
  rw [List.drop_take, List.drop_take, List.take_take, List.take_take, Nat.min_eq_left (by omega),
    Nat.min_eq_left (by omega)] at hsame
  exact hsame

/-- A stretch of what stands after two positions. -/
theorem Common.of_drop {m : Block} (hp : p ≤ a.length) (hq : q ≤ b.length)
    (h : Common (a.drop p) (b.drop q) m) : Common a b ⟨m.left + p, m.right + q, m.size⟩ := by
  obtain ⟨hleft, hright, hsame⟩ := h
  rw [List.length_drop] at hleft hright
  rw [List.drop_drop, List.drop_drop] at hsame
  refine ⟨?_, ?_, ?_⟩
  · show m.left + p + m.size ≤ a.length
    omega
  · show m.right + q + m.size ≤ b.length
    omega
  · show (a.drop (m.left + p)).take m.size = (b.drop (m.right + q)).take m.size
    rw [Nat.add_comm m.left, Nat.add_comm m.right, hsame]

theorem Chain.of_take {xs : List Block}
    (h : Chain (a.take p) (b.take q) (a.take p).length (b.take q).length i j xs) :
    Chain a b p q i j xs := by
  induction xs generalizing i j with
  | nil =>
    have hp := List.length_take_le p a
    have hq := List.length_take_le q b
    exact ⟨Nat.le_trans h.1 hp, Nat.le_trans h.2 hq⟩
  | cons m rest ih => exact ⟨h.1, h.2.1, h.2.2.1.of_take, ih h.2.2.2⟩

theorem Chain.of_drop {xs : List Block} (hp : p ≤ a.length) (hq : q ≤ b.length)
    (h : Chain (a.drop p) (b.drop q) (a.drop p).length (b.drop q).length i j xs) :
    Chain a b a.length b.length (i + p) (j + q)
      (xs.map fun n => ⟨n.left + p, n.right + q, n.size⟩) := by
  induction xs generalizing i j with
  | nil =>
    obtain ⟨hi, hj⟩ := h
    rw [List.length_drop] at hi hj
    exact ⟨by omega, by omega⟩
  | cons m rest ih =>
    obtain ⟨hi, hj, hm, hrest⟩ := h
    refine ⟨?_, ?_, hm.of_drop hp hq, (ih hrest).mono ?_ ?_⟩
    · show i + p ≤ m.left + p
      omega
    · show j + q ≤ m.right + q
      omega
    · show m.left + p + m.size ≤ m.left + m.size + p
      omega
    · show m.right + q + m.size ≤ m.right + m.size + q
      omega

theorem blocksWithin_chain (fuel : Nat) (a b : Text) :
    Chain a b a.length b.length 0 0 (blocksWithin fuel a b) := by
  induction fuel generalizing a b with
  | zero => exact ⟨Nat.zero_le _, Nat.zero_le _⟩
  | succ fuel ih =>
    have hm := longestCommon_common a b
    rw [blocksWithin]
    split
    · exact ⟨Nat.zero_le _, Nat.zero_le _⟩
    · refine (ih _ _).of_take.append ⟨Nat.le_refl _, Nat.le_refl _, hm, ?_⟩
      have hafter := (ih (a.drop _) (b.drop _)).of_drop hm.left_le hm.right_le
      rw [Nat.zero_add, Nat.zero_add] at hafter
      exact hafter

/-- A stretch and one that continues it are one stretch. -/
theorem Common.merge {m n : Block} (hm : Common a b m) (hn : Common a b n)
    (hleft : m.left + m.size = n.left) (hright : m.right + m.size = n.right) :
    Common a b ⟨m.left, m.right, m.size + n.size⟩ := by
  have hn1 := hn.left_le
  have hn2 := hn.right_le
  refine ⟨?_, ?_, ?_⟩
  · show m.left + (m.size + n.size) ≤ a.length
    omega
  · show m.right + (m.size + n.size) ≤ b.length
    omega
  · show (a.drop m.left).take (m.size + n.size) = (b.drop m.right).take (m.size + n.size)
    rw [List.take_add, List.take_add, List.drop_drop, List.drop_drop, hleft, hright, hm.same,
      hn.same]

theorem mergeBlocks_chain {xs : List Block} (h : Chain a b p q i j xs) :
    Chain a b p q i j (mergeBlocks xs) := by
  induction xs generalizing i j with
  | nil => exact h
  | cons m rest ih =>
    obtain ⟨hi, hj, hm, hrest⟩ := h
    have hmerged := ih hrest
    rw [mergeBlocks]
    split
    · next hnil =>
      rw [hnil] at hmerged
      exact ⟨hi, hj, hm, hmerged⟩
    · next n more hcons =>
      rw [hcons] at hmerged
      split
      · next hnext =>
        obtain ⟨_, _, hn, hmore⟩ := hmerged
        refine ⟨hi, hj, hm.merge hn hnext.1 hnext.2, hmore.mono ?_ ?_⟩
        · show m.left + (m.size + n.size) ≤ n.left + n.size
          omega
        · show m.right + (m.size + n.size) ≤ n.right + n.size
          omega
      · exact ⟨hi, hj, hm, hmerged⟩

/-- **The stretches that are found** are common to both texts and in order. -/
theorem blocks_chain (a b : Text) : Chain a b a.length b.length 0 0 (blocks a b) :=
  mergeBlocks_chain (blocksWithin_chain a.length a b)

/-! ## Empty stretches -/

theorem blocksWithin_pos {fuel : Nat} {m : Block} (h : m ∈ blocksWithin fuel a b) : 0 < m.size := by
  induction fuel generalizing a b m with
  | zero => exact absurd h List.not_mem_nil
  | succ fuel ih =>
    rw [blocksWithin] at h
    split at h
    · exact absurd h List.not_mem_nil
    · next hsize =>
      rcases List.mem_append.mp h with hbefore | hrest
      · exact ih hbefore
      rcases List.mem_cons.mp hrest with rfl | hafter
      · exact Nat.pos_of_ne_zero hsize
      · obtain ⟨n, hn, rfl⟩ := List.mem_map.mp hafter
        show 0 < n.size
        exact ih hn

theorem mergeBlocks_pos {xs : List Block} (h : ∀ m ∈ xs, 0 < m.size) :
    ∀ m ∈ mergeBlocks xs, 0 < m.size := by
  induction xs with
  | nil => exact h
  | cons m rest ih =>
    obtain ⟨hm, hrest⟩ := List.forall_mem_cons.mp h
    have hmerged := ih hrest
    rw [mergeBlocks]
    split
    · exact List.forall_mem_singleton.mpr hm
    · next n more hcons =>
      rw [hcons] at hmerged
      split
      · exact List.forall_mem_cons.mpr
          ⟨Nat.add_pos_left hm n.size, (List.forall_mem_cons.mp hmerged).2⟩
      · exact List.forall_mem_cons.mpr ⟨hm, hmerged⟩

/-- **No stretch is empty.** -/
theorem blocks_pos {m : Block} (h : m ∈ blocks a b) : 0 < m.size :=
  mergeBlocks_pos (fun _ => blocksWithin_pos) m h

/-! ## The first change -/

/-- Up to the first step that changes something the texts are equal, and without one they are equal
altogether. Before that step there is no gap, so every stretch begins where the texts were equal up
to. -/
theorem find?_editsFrom {xs : List Block} (h : Chain a b p q i i xs)
    (hstart : a.take i = b.take i) :
    match (editsFrom a.length b.length i i xs).find? (!·.same) with
    | some e => a.take e.rightStart = b.take e.rightStart
    | none => a = b := by
  induction xs generalizing i with
  | nil =>
    rw [editsFrom]
    by_cases hrest : i < a.length ∨ i < b.length
    · rw [if_pos hrest]
      exact hstart
    · rw [if_neg hrest]
      rwa [List.take_of_length_le (by omega), List.take_of_length_le (by omega)] at hstart
  | cons m rest ih =>
    obtain ⟨hi, hj, hm, hlater⟩ := h
    rw [editsFrom]
    by_cases hgap : i < m.left ∨ i < m.right
    · rw [if_pos hgap]
      exact hstart
    · have hleft : m.left = i := by omega
      have hright : m.right = i := by omega
      have hsame := hm.same
      rw [hleft, hright] at hlater hsame
      rw [if_neg hgap, hleft, hright]
      refine ih hlater ?_
      rw [List.take_add, List.take_add, hstart, hsame]

/-- **Up to the first change** the texts are equal. -/
theorem take_eq_take_of_find?_edits {e : Edit} (he : (edits a b).find? (!·.same) = some e) :
    a.take e.rightStart = b.take e.rightStart := by
  have hfirst := find?_editsFrom (blocks_chain a b) rfl
  rw [edits] at he
  rwa [he] at hfirst

/-- **Different texts** have a step that changes something. -/
theorem exists_find?_edits (h : a ≠ b) : ∃ e, (edits a b).find? (!·.same) = some e := by
  have hfirst := find?_editsFrom (blocks_chain a b) rfl
  cases hfind : (edits a b).find? (!·.same) with
  | some e => exact ⟨e, rfl⟩
  | none =>
    rw [edits] at hfind
    rw [hfind] at hfirst
    exact absurd hfirst h

/-- A step comes after those before it, and inside the second text. -/
theorem rightStart_bounds {xs : List Block} (h : Chain a b a.length b.length i j xs) {e : Edit}
    (he : e ∈ editsFrom a.length b.length i j xs) : j ≤ e.rightStart ∧ e.rightStart ≤ b.length := by
  induction xs generalizing i j with
  | nil =>
    rw [editsFrom] at he
    split at he
    · rw [List.mem_singleton.mp he]
      exact ⟨Nat.le_refl j, h.2⟩
    · exact absurd he List.not_mem_nil
  | cons m rest ih =>
    obtain ⟨-, hj, hm, hrest⟩ := h
    have hright := hm.right_le
    rw [editsFrom] at he
    rcases List.mem_append.mp he with hgap | he
    · split at hgap
      · rw [List.mem_singleton.mp hgap]
        exact ⟨Nat.le_refl j, by show j ≤ b.length; omega⟩
      · exact absurd hgap List.not_mem_nil
    rcases List.mem_cons.mp he with rfl | he
    · exact ⟨hj, by show m.right ≤ b.length; omega⟩
    · have hlater := ih hrest he
      omega

theorem rightStart_le {e : Edit} (he : e ∈ edits a b) : e.rightStart ≤ b.length :=
  (rightStart_bounds (blocks_chain a b) he).2

/-- The first step leaves a stretch the same that stands at the start of both texts. -/
def StartsSame (a b : Text) : Prop :=
  ∃ first, (edits a b).head? = some first ∧ first.same = true ∧ first.leftStart = 0 ∧
    first.rightStart = 0

/-- **The first change does not stand at the start** exactly when the first step leaves a start the
same. As no stretch is empty, it then stands behind one character at least. -/
theorem rightStart_pos_iff {e : Edit} (he : (edits a b).find? (!·.same) = some e) :
    0 < e.rightStart ↔ StartsSame a b := by
  have hchain := blocks_chain a b
  have hpos : ∀ m ∈ blocks a b, 0 < m.size := fun _ => blocks_pos
  rw [StartsSame]
  rw [edits] at he ⊢
  cases hblocks : blocks a b with
  | nil =>
    rw [hblocks, editsFrom] at he
    rw [editsFrom]
    split at he
    · next hrest =>
      cases he
      simp [hrest]
    · cases he
  | cons m rest =>
    rw [hblocks] at hchain hpos he
    obtain ⟨-, -, -, hlater⟩ := hchain
    rw [editsFrom] at he ⊢
    by_cases hgap : 0 < m.left ∨ 0 < m.right
    · rw [if_pos hgap] at he ⊢
      cases he
      simp
    · rw [if_neg hgap] at he ⊢
      have hmem : e ∈ editsFrom a.length b.length (m.left + m.size) (m.right + m.size) rest :=
        List.mem_of_find?_eq_some he
      have hsize := hpos m List.mem_cons_self
      have hbehind := (rightStart_bounds hlater hmem).1
      refine ⟨fun _ => ⟨_, rfl, rfl, ?_, ?_⟩, fun _ => by omega⟩
      · show m.left = 0
        omega
      · show m.right = 0
        omega

end Alignment

end GhostEdit
