import GhostEdit.Proofs.Buffer.Rewriting

/-!
# Where a row goes

Items that are applied one after the other move the rows of a document, and replace some of them.
This file follows one row through that. The numbers of rows say nothing about the text in them:
two rows may read alike, and following a row by its number tells them apart.

## Main definitions

* `Item.carry`, `track`: where a row stands after an item, and after items, were applied
* `Item.cut`: the rows that applying an item takes out
* `place`: where a row stands after items were applied at once

## Main results

* `Buffer.getElem?_applyRows_of_carry`: a row keeps its text where it goes
* `track_lt`: rows keep their order
* `track_concat_eq_none_iff`: an item that was moved replaces the rows it is about exactly when
  these were moved alike
* `getElem?_rewriteRows_of_kept`: a row that no item of a set replaces keeps its text
-/

namespace GhostEdit

/-- Where a row stands after an item was applied; nowhere if the item replaced it. -/
def Item.carry (x : Item) (row : Int) : Option Int :=
  if row < x.startRow then some row
  else if row < x.stopRow then none
  else some (row + x.growth)

/-- Where a row stands after items were applied, each as it stood when its turn came. -/
def track : List Item → Int → Option Int
  | [], row => some row
  | x :: rest, row => (x.carry row).bind (track rest)

/-- The rows of a document that applying an item takes out. -/
def Item.cut (x : Item) (rows : List Value) : List Value :=
  (rows.drop (x.startRow - 1).toNat).take x.replacedCount.toNat

/-! ## One item -/

namespace Item

variable {x : Item} {row a b p q : Int}

theorem carry_of_lt (h : row < x.startRow) : x.carry row = some row := by
  rw [carry, if_pos h]

theorem carry_of_ge (h : x.stopRow ≤ row) : x.carry row = some (row + x.growth) := by
  have hspan := x.startRow_le_stopRow
  rw [carry, if_neg (by omega), if_neg (by omega)]

theorem carry_eq_none_iff : x.carry row = none ↔ x.replaces row = true := by
  rw [carry, replaces_iff]
  split
  · simp only [reduceCtorEq, false_iff]
    omega
  · split
    · simp only [true_iff]
      omega
    · simp only [reduceCtorEq, false_iff]
      omega

theorem carry_lt (hab : a < b) (ha : x.carry a = some p) (hb : x.carry b = some q) : p < q := by
  have hspan := x.startRow_le_stopRow
  have hgrow := x.stopRow_add_growth
  have hpos := x.length_lines_pos
  rw [carry] at ha hb
  split at ha
  · cases ha
    split at hb
    · cases hb
      exact hab
    · split at hb
      · cases hb
      · cases hb
        omega
  · split at ha
    · cases ha
    · rw [if_neg (by omega), if_neg (by omega)] at hb
      cases ha
      cases hb
      omega

theorem one_le_of_carry (hx : 1 ≤ x.startRow) (hrow : 1 ≤ row) (h : x.carry row = some p) :
    1 ≤ p := by
  have hgrow := x.stopRow_add_growth
  rw [carry] at h
  split at h
  · cases h
    exact hrow
  · split at h
    · cases h
    · cases h
      omega

end Item

/-- A row keeps its text where it goes. -/
theorem Buffer.getElem?_applyRows_of_carry {x : Item} (hx : 1 ≤ x.startRow) {row p : Int}
    {rows : List Value} (hrow : 1 ≤ row) (hlen : row ≤ rows.length) (h : x.carry row = some p) :
    (applyRows x rows)[(p - 1).toNat]? = rows[(row - 1).toNat]? := by
  have hspan := x.startRow_le_stopRow
  have hgrow := x.stopRow_add_growth
  have hpad := length_padTo (x.startRow - 1) rows
  have hrows := x.length_rows
  have hfront : ((padTo (x.startRow - 1) rows).take (x.startRow - 1).toNat).length
      = (x.startRow - 1).toNat := by
    rw [List.length_take]
    omega
  rw [applyRows_eq hx, List.append_assoc]
  rw [Item.carry] at h
  split at h
  · cases h
    rw [List.getElem?_append_left (by omega), List.getElem?_take_of_lt (by omega), padTo,
      List.getElem?_append_left (by omega)]
  · split at h
    · cases h
    · cases h
      rw [List.getElem?_append_right (by omega), List.getElem?_append_right (by omega),
        List.getElem?_drop]
      congr 1
      omega

/-! ## Several items -/

variable {items : List Item} {x o : Item} {row a b p q d : Int}

theorem track_concat (items : List Item) (x : Item) (row : Int) :
    track (items ++ [x]) row = (track items row).bind x.carry := by
  induction items generalizing row with
  | nil =>
    rw [List.nil_append, track, track, Option.bind_some]
    cases x.carry row <;> rfl
  | cons y rest ih =>
    rw [List.cons_append, track, track, Option.bind_assoc]
    congr 1
    funext place
    exact ih place

theorem track_lt (hab : a < b) (ha : track items a = some p) (hb : track items b = some q) :
    p < q := by
  induction items generalizing a b with
  | nil =>
    cases ha
    cases hb
    exact hab
  | cons x rest ih =>
    obtain ⟨a', ha', ha⟩ := Option.bind_eq_some_iff.mp ha
    obtain ⟨b', hb', hb⟩ := Option.bind_eq_some_iff.mp hb
    exact ih (Item.carry_lt hab ha' hb') ha hb

/-- Rows that are all there and that an item all replaces stand below its start, each by at least as
much as it is below the first of them. -/
theorem le_track_of_replaces
    (hthere : ∀ row, o.replaces row = true → ∃ p, track items row = some p)
    (hgone : ∀ row p, o.replaces row = true → track items row = some p → x.replaces p = true)
    (k : Nat) (hrow : o.replaces (o.startRow + k) = true)
    (hp : track items (o.startRow + k) = some p) : x.startRow + k ≤ p := by
  induction k generalizing p with
  | zero =>
    have hmem := Item.replaces_iff.mp (hgone _ p hrow hp)
    omega
  | succ k ih =>
    have hrow' := Item.replaces_iff.mp hrow
    have hprev : o.replaces (o.startRow + k) = true := by
      rw [Item.replaces_iff]
      omega
    obtain ⟨q, hq⟩ := hthere _ hprev
    have hle := ih hprev hq
    have hlt : q < p := track_lt (by omega) hq hp
    omega

/-- And above its end, by as much as they are above the last of them. -/
theorem track_le_of_replaces
    (hthere : ∀ row, o.replaces row = true → ∃ p, track items row = some p)
    (hgone : ∀ row p, o.replaces row = true → track items row = some p → x.replaces p = true)
    (k : Nat) (hrow : o.replaces (o.stopRow - 1 - k) = true)
    (hp : track items (o.stopRow - 1 - k) = some p) : p ≤ x.stopRow - 1 - k := by
  induction k generalizing p with
  | zero =>
    have hmem := Item.replaces_iff.mp (hgone _ p hrow hp)
    omega
  | succ k ih =>
    have hrow' := Item.replaces_iff.mp hrow
    have hnext : o.replaces (o.stopRow - 1 - k) = true := by
      rw [Item.replaces_iff]
      omega
    obtain ⟨q, hq⟩ := hthere _ hnext
    have hle := ih hnext hq
    have hlt : p < q := track_lt (by omega) hp hq
    omega

/-- **An item that was moved** replaces all the rows it is about, as long as they are there, exactly
when each of them was moved as far as the item. -/
theorem track_concat_eq_none_iff (hx : x = o.shift d)
    (hthere : ∀ row, o.replaces row = true → ∃ p, track items row = some p) :
    (∀ row, o.replaces row = true → track (items ++ [x]) row = none) ↔
      ∀ row, o.replaces row = true → track items row = some (row + d) := by
  have hstart : x.startRow = o.startRow + d := by rw [hx, Item.startRow_shift]
  have hstop : x.stopRow = o.stopRow + d := by rw [hx, Item.stopRow_shift]
  constructor
  · intro hnone
    have hgone : ∀ row p, o.replaces row = true → track items row = some p →
        x.replaces p = true := by
      intro row p hrow hp
      have hlast := hnone row hrow
      rw [track_concat, hp, Option.bind_some] at hlast
      exact Item.carry_eq_none_iff.mp hlast
    intro row hrow
    obtain ⟨p, hp⟩ := hthere row hrow
    -- as many rows as `x` replaces, in order, leave no room: the row is neither above nor below
    have hmem := Item.replaces_iff.mp hrow
    have hfirst : o.startRow + ((row - o.startRow).toNat : Int) = row := by omega
    have hlast : o.stopRow - 1 - ((o.stopRow - 1 - row).toNat : Int) = row := by omega
    have hlow := le_track_of_replaces hthere hgone (row - o.startRow).toNat
      (hfirst.symm ▸ hrow) (hfirst.symm ▸ hp)
    have hhigh := track_le_of_replaces hthere hgone (o.stopRow - 1 - row).toNat
      (hlast.symm ▸ hrow) (hlast.symm ▸ hp)
    rw [hp]
    congr 1
    omega
  · intro halike row hrow
    have hmem := Item.replaces_iff.mp hrow
    rw [track_concat, halike row hrow, Option.bind_some, Item.carry_eq_none_iff, Item.replaces_iff]
    omega

/-! ## What is taken out -/

/-- An item that was moved takes out the rows it is about if these are where it was moved to. -/
theorem Item.cut_shift {rows document : List Value} (hx : x = o.shift d) (hone : 1 ≤ o.startRow)
    (hone' : 1 ≤ x.startRow)
    (h : ∀ row, o.replaces row = true →
      rows[(row + d - 1).toNat]? = document[(row - 1).toNat]?) :
    x.cut rows = o.cut document := by
  have hstart : x.startRow = o.startRow + d := by rw [hx, startRow_shift]
  have hcount : x.replacedCount = o.replacedCount := by rw [hx, replacedCount_shift]
  have hpos := o.replacedCount_nonneg
  apply List.ext_getElem?
  intro k
  rw [cut, cut, hcount, List.getElem?_take, List.getElem?_take]
  split
  · have hk := h (o.startRow + k) (by
      rw [replaces_iff, stopRow]
      omega)
    rw [List.getElem?_drop, List.getElem?_drop,
      show (x.startRow - 1).toNat + k = (o.startRow + k + d - 1).toNat by omega,
      show (o.startRow - 1).toNat + k = (o.startRow + k - 1).toNat by omega]
    exact hk
  · rfl

/-! ## Several items at once -/

/-- Where a row stands after items were applied at once: the items above it move it. -/
def place (items : List Item) (row : Int) : Int :=
  row + growthOf (items.filter (·.stopRow ≤ row))

theorem place_of_lt {items : List Item} {row : Int} (h : ∀ x ∈ items, row < x.startRow) :
    place items row = row := by
  have hnone : items.filter (·.stopRow ≤ row) = [] := by
    refine List.filter_eq_nil_iff.mpr fun x hx => ?_
    have hstart := h x hx
    have hspan := x.startRow_le_stopRow
    simp only [decide_eq_true_eq]
    omega
  rw [place, hnone, growthOf_nil, Int.add_zero]

theorem place_cons_of_ge {x : Item} {items : List Item} {row : Int} (h : x.stopRow ≤ row) :
    place (x :: items) row = place items row + x.growth := by
  rw [place, List.filter_cons_of_pos (by simpa using h), growthOf_cons, place]
  omega

/-- A row that no item replaces keeps its text and its distance from the end. The induction is on
the items: the row stands above the first one, or else below it. -/
theorem getElem?_rewriteInOrder_of_kept {items : List Item} {first row : Int} {rows : List Value}
    (h : Stacked (first + rows.length) first items) (hfirst : first ≤ row)
    (hrow : row < first + rows.length) (hkept : ∀ x ∈ items, x.replaces row = false) :
    first ≤ place items row ∧
      (rewriteInOrder first items rows)[(place items row - first).toNat]?
        = rows[(row - first).toNat]? ∧
      (row + 1 < first + rows.length →
        place items row + 1 < first + (rewriteInOrder first items rows).length) := by
  induction items generalizing first rows with
  | nil =>
    rw [place_of_lt (by simp)]
    exact ⟨hfirst, rfl, id⟩
  | cons x rest ih =>
    obtain ⟨hstart, hrest⟩ := h
    have hspan := x.startRow_le_stopRow
    have hlen := x.length_rows
    have hpos := x.length_lines_pos
    have hgrow := x.stopRow_add_growth
    have hend := hrest.le
    have hfront : (rows.take (x.startRow - first).toNat).length = (x.startRow - first).toNat := by
      rw [List.length_take]
      omega
    rw [rewriteInOrder, List.append_assoc]
    by_cases habove : row < x.startRow
    · have hall : ∀ y ∈ x :: rest, row < y.startRow := by
        intro y hy
        rcases List.mem_cons.mp hy with rfl | hy
        · exact habove
        · have hbelow := hrest.startRow_ge y hy
          omega
      rw [place_of_lt hall, List.getElem?_append_left (by omega),
        List.getElem?_take_of_lt (by omega), List.length_append, List.length_append]
      exact ⟨hfirst, rfl, fun _ => by omega⟩
    · have hbelow : x.stopRow ≤ row := by
        have hnot := hkept x List.mem_cons_self
        rw [← Bool.not_eq_true, Item.replaces_iff] at hnot
        omega
      have hdrop : ((rows.drop (x.stopRow - first).toNat).length : Int)
          = first + rows.length - x.stopRow := by
        rw [List.length_drop]
        omega
      obtain ⟨hle, htext, hlast⟩ := ih (hrest.drop (by omega)) hbelow (by omega)
        fun y hy => hkept y (List.mem_cons_of_mem x hy)
      rw [place_cons_of_ge hbelow, List.getElem?_append_right (by omega),
        List.getElem?_append_right (by omega), List.length_append, List.length_append]
      refine ⟨by omega, ?_, fun hmore => ?_⟩
      · rw [show (place rest row + x.growth - first).toNat
            - (rows.take (x.startRow - first).toNat).length - x.rows.length
          = (place rest row - x.stopRow).toNat by omega, htext, List.getElem?_drop]
        congr 1
        omega
      · have hless := hlast (by omega)
        omega

/-- **A row that no item of a set replaces** keeps its text where it goes, and if another row
followed it, one does. -/
theorem getElem?_rewriteRows_of_kept {items : List Item} {row : Int} {rows : List Value}
    (h : Stacked (rows.length + 1) 1 items) (h1 : 1 ≤ row) (hrow : row ≤ rows.length)
    (hkept : ∀ x ∈ items, x.replaces row = false) :
    1 ≤ place items row ∧
      (rewriteRows items rows)[(place items row - 1).toNat]? = rows[(row - 1).toNat]? ∧
      (row < rows.length → place items row < (rewriteRows items rows).length) := by
  have hstacked : Stacked (1 + rows.length) 1 items := by
    rw [Int.add_comm]
    exact h
  obtain ⟨hle, htext, hlast⟩ := getElem?_rewriteInOrder_of_kept hstacked h1 (by omega) hkept
  rw [rewriteRows_eq h]
  exact ⟨hle, htext, fun hmore => by have hless := hlast (by omega); omega⟩

end GhostEdit
