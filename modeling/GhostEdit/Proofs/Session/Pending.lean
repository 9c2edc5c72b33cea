import GhostEdit.Proofs.Buffer.Rewriting
import GhostEdit.Session.Accept

/-!
# What is left of a set

Accepting an item takes it out of its set and moves the items below it. After any number of
accepted items, what is left of the set is a function of the set as it was and of the numbers of
the items that are gone: the others in their order, each moved by what the gone ones above it have
grown. That function is `pending`, and this file proves that accepting acts on it by adding one
number (`shiftBelow_pending`).

The file knows nothing of documents until its last section. The rows of an item are those of a
document into which only items of its own set were written; whether that is the document at hand
is for the users of `pending_placed` to say.

## Main definitions

* `taken`, `pending`: the items that are gone, and the items that are left where they stand now

## Main results

* `pendingFrom_eq_append`: an item that is left is an item of the set, moved
* `shiftBelow_pending`: accepting one item
* `pending_placed`: what is left is placed in the document rewritten by what is gone
-/

namespace GhostEdit

/-- The items of a set with the given numbers. -/
def taken (gone : List Int) (set : SuggestionSet) : SuggestionSet := set.filter (·.id ∈ gone)

/-- The other items of a set, each moved by `drift` and by what the taken ones above it grow. -/
def pendingFrom (gone : List Int) : Int → SuggestionSet → SuggestionSet
  | _, [] => []
  | drift, item :: rest =>
    if item.id ∈ gone then pendingFrom gone (drift + item.growth) rest
    else item.shift drift :: pendingFrom gone drift rest

/-- What is left of a set after the items with the given numbers were accepted. -/
def pending (gone : List Int) (set : SuggestionSet) : SuggestionSet := pendingFrom gone 0 set

/-! ## Lists of items -/

theorem taken_append (gone : List Int) (above below : SuggestionSet) :
    taken gone (above ++ below) = taken gone above ++ taken gone below :=
  List.filter_append above below

theorem taken_cons_of_notMem {gone : List Int} {item : Item} (h : item.id ∉ gone)
    (rest : SuggestionSet) : taken gone (item :: rest) = taken gone rest := by
  rw [taken, List.filter_cons_of_neg (by simpa using h), taken]

theorem taken_cons_of_mem {gone : List Int} {item : Item} (h : item.id ∈ gone)
    (rest : SuggestionSet) : taken gone (item :: rest) = item :: taken gone rest := by
  rw [taken, List.filter_cons_of_pos (by simpa using h), taken]

theorem taken_nil_left (set : SuggestionSet) : taken [] set = [] :=
  List.filter_eq_nil_iff.mpr (by simp)

theorem taken_sublist (gone : List Int) (set : SuggestionSet) : (taken gone set).Sublist set :=
  List.filter_sublist

/-- One more number does not matter to items that do not have it. -/
theorem taken_concat_of_notMem {gone : List Int} {id : Int} {set : SuggestionSet}
    (h : id ∉ set.map Item.id) : taken (gone ++ [id]) set = taken gone set := by
  refine List.filter_congr fun item hitem => ?_
  have hne : item.id ≠ id := fun e => h (e ▸ List.mem_map_of_mem hitem)
  simp [hne]

theorem pendingFrom_cons_of_mem {gone : List Int} {item : Item} (h : item.id ∈ gone) (drift : Int)
    (rest : SuggestionSet) :
    pendingFrom gone drift (item :: rest) = pendingFrom gone (drift + item.growth) rest := by
  rw [pendingFrom, if_pos h]

theorem pendingFrom_cons_of_notMem {gone : List Int} {item : Item} (h : item.id ∉ gone)
    (drift : Int) (rest : SuggestionSet) :
    pendingFrom gone drift (item :: rest) = item.shift drift :: pendingFrom gone drift rest := by
  rw [pendingFrom, if_neg h]

theorem pending_nil_left (set : SuggestionSet) : pending [] set = set := by
  rw [pending]
  induction set with
  | nil => rfl
  | cons item rest ih =>
    rw [pendingFrom_cons_of_notMem (List.not_mem_nil), Item.shift_zero, ih]

theorem pendingFrom_append (gone : List Int) (drift : Int) (above below : SuggestionSet) :
    pendingFrom gone drift (above ++ below)
      = pendingFrom gone drift above
        ++ pendingFrom gone (drift + growthOf (taken gone above)) below := by
  induction above generalizing drift with
  | nil => simp [pendingFrom, taken]
  | cons item rest ih =>
    by_cases h : item.id ∈ gone
    · rw [List.cons_append, pendingFrom_cons_of_mem h, ih, pendingFrom_cons_of_mem h,
        taken_cons_of_mem h, growthOf_cons, Int.add_assoc]
    · rw [List.cons_append, pendingFrom_cons_of_notMem h, ih, pendingFrom_cons_of_notMem h,
        taken_cons_of_notMem h, List.cons_append]

theorem pendingFrom_add (gone : List Int) (drift e : Int) (set : SuggestionSet) :
    pendingFrom gone (drift + e) set = (pendingFrom gone drift set).map (Item.shift e) := by
  induction set generalizing drift with
  | nil => rfl
  | cons item rest ih =>
    by_cases h : item.id ∈ gone
    · rw [pendingFrom_cons_of_mem h, pendingFrom_cons_of_mem h, ← ih, Int.add_right_comm]
    · rw [pendingFrom_cons_of_notMem h, pendingFrom_cons_of_notMem h, ih, List.map_cons,
        Item.shift_shift]

theorem pendingFrom_concat_of_notMem {gone : List Int} {id : Int} {set : SuggestionSet}
    (h : id ∉ set.map Item.id) (drift : Int) :
    pendingFrom (gone ++ [id]) drift set = pendingFrom gone drift set := by
  induction set generalizing drift with
  | nil => rfl
  | cons item rest ih =>
    rw [List.map_cons, List.mem_cons, not_or] at h
    obtain ⟨hne, hrest⟩ := h
    by_cases hitem : item.id ∈ gone
    · rw [pendingFrom_cons_of_mem (List.mem_append_left _ hitem), pendingFrom_cons_of_mem hitem,
        ih hrest]
    · have hnot : item.id ∉ gone ++ [id] := by
        simp only [List.mem_append, List.mem_singleton, not_or]
        exact ⟨hitem, fun e => hne e.symm⟩
      rw [pendingFrom_cons_of_notMem hnot, pendingFrom_cons_of_notMem hitem, ih hrest]

theorem id_mem_of_mem_pendingFrom {gone : List Int} {drift : Int} {set : SuggestionSet} {x : Item}
    (h : x ∈ pendingFrom gone drift set) : x.id ∈ set.map Item.id ∧ x.id ∉ gone := by
  induction set generalizing drift with
  | nil => cases h
  | cons item rest ih =>
    by_cases hitem : item.id ∈ gone
    · rw [pendingFrom_cons_of_mem hitem] at h
      obtain ⟨hmem, hgone⟩ := ih h
      exact ⟨List.mem_cons_of_mem _ hmem, hgone⟩
    · rw [pendingFrom_cons_of_notMem hitem] at h
      rcases List.mem_cons.mp h with rfl | h
      · exact ⟨List.mem_cons_self, hitem⟩
      · obtain ⟨hmem, hgone⟩ := ih h
        exact ⟨List.mem_cons_of_mem _ hmem, hgone⟩

/-- **An item that is left** is an item of the set, moved by what the taken ones above it grow; what
is left before it and after it is what is left of the items above and below. -/
theorem pendingFrom_eq_append {gone : List Int} {drift : Int} {set before after : SuggestionSet}
    {x : Item} (h : pendingFrom gone drift set = before ++ x :: after) :
    ∃ above item below, set = above ++ item :: below ∧ item.id ∉ gone ∧
      before = pendingFrom gone drift above ∧
      x = item.shift (drift + growthOf (taken gone above)) ∧
      after = pendingFrom gone (drift + growthOf (taken gone above)) below := by
  induction set generalizing drift before with
  | nil => simp [pendingFrom] at h
  | cons first rest ih =>
    by_cases hfirst : first.id ∈ gone
    · rw [pendingFrom_cons_of_mem hfirst] at h
      obtain ⟨above, item, below, hset, hitem, hbefore, hx, hafter⟩ := ih h
      refine ⟨first :: above, item, below, by rw [hset]; rfl, hitem, ?_, ?_, ?_⟩
      · rw [pendingFrom_cons_of_mem hfirst, hbefore]
      · rw [taken_cons_of_mem hfirst, growthOf_cons, ← Int.add_assoc, hx]
      · rw [taken_cons_of_mem hfirst, growthOf_cons, ← Int.add_assoc, hafter]
    · rw [pendingFrom_cons_of_notMem hfirst] at h
      cases before with
      | nil =>
        rw [List.nil_append, List.cons.injEq] at h
        refine ⟨[], first, rest, rfl, hfirst, rfl, ?_, ?_⟩
        · rw [taken, List.filter_nil, growthOf_nil, Int.add_zero, h.1]
        · rw [taken, List.filter_nil, growthOf_nil, Int.add_zero, h.2]
      | cons y before =>
        rw [List.cons_append, List.cons.injEq] at h
        obtain ⟨above, item, below, hset, hitem, hbefore, hx, hafter⟩ := ih h.2
        refine ⟨first :: above, item, below, by rw [hset]; rfl, hitem, ?_, ?_, ?_⟩
        · rw [pendingFrom_cons_of_notMem hfirst, ← h.1, hbefore]
        · rw [taken_cons_of_notMem hfirst, hx]
        · rw [taken_cons_of_notMem hfirst, hafter]

theorem exists_of_mem_pendingFrom {gone : List Int} {drift : Int} {set : SuggestionSet} {x : Item}
    (h : x ∈ pendingFrom gone drift set) :
    ∃ above item below, set = above ++ item :: below ∧ item.id ∉ gone ∧
      x = item.shift (drift + growthOf (taken gone above)) := by
  obtain ⟨before, after, hsplit⟩ := List.append_of_mem h
  obtain ⟨above, item, below, hset, hitem, _, hx, _⟩ := pendingFrom_eq_append hsplit
  exact ⟨above, item, below, hset, hitem, hx⟩

theorem id_notMem_of_nodup {above below : SuggestionSet} {item : Item}
    (h : ((above ++ item :: below).map Item.id).Nodup) :
    item.id ∉ above.map Item.id ∧ item.id ∉ below.map Item.id := by
  rw [List.map_append, List.map_cons] at h
  obtain ⟨_, hcons, hdisj⟩ := List.nodup_append.mp h
  exact ⟨fun hmem => hdisj _ hmem _ List.mem_cons_self rfl, (List.nodup_cons.mp hcons).1⟩

/-! ## Where the items that are left stand -/

variable {size : Nat} {gone : List Int} {set : SuggestionSet}

theorem Placed.sublist {others : SuggestionSet} (h : Placed size set) (hsub : others.Sublist set) :
    Placed size others :=
  ⟨fun item hitem => h.fits item (hsub.subset hitem), h.apart.sublist hsub⟩

/-- Above the first row of an item there is room for all items above it. -/
theorem Placed.stacked_above {above below : SuggestionSet} {item : Item} {first : Int}
    (h : Placed size (above ++ item :: below))
    (hfirst : ∀ x ∈ above ++ item :: below, first ≤ x.firstRow) :
    Stacked item.firstRow first above := by
  have habove : Placed size above := h.sublist (List.sublist_append_left above _)
  refine habove.stacked_of_stopRow_le (hfirst item (by simp)) ?_
  intro x hx
  have hstart := (habove.fits x hx).firstRow_le_startRow
  have hxfirst := hfirst x (List.mem_append_left _ hx)
  have hstop := x.stopRow_le_lastRow_add_one
  have hlast := (List.pairwise_append.mp h.apart).2.2 x hx item List.mem_cons_self
  exact ⟨by omega, by omega⟩

/-- Moved by what the taken items above it grow, an item never comes above a row that all items
of its set are below. -/
theorem le_firstRow_of_mem_pendingFrom (h : Placed size set) {first drift : Int}
    (hfirst : ∀ x ∈ set, first ≤ x.firstRow) {x : Item} (hx : x ∈ pendingFrom gone drift set) :
    first + drift ≤ x.firstRow := by
  obtain ⟨above, item, below, rfl, _, rfl⟩ := exists_of_mem_pendingFrom hx
  have hroom := (h.stacked_above hfirst).sublist (taken_sublist gone above)
  have hgrow := hroom.le_add_growthOf
  rw [Item.firstRow_shift]
  omega

theorem pendingFrom_apart (h : Placed size set) (drift : Int) :
    (pendingFrom gone drift set).Pairwise fun a b => a.lastRow < b.firstRow := by
  induction set generalizing drift with
  | nil => exact List.Pairwise.nil
  | cons item rest ih =>
    by_cases hitem : item.id ∈ gone
    · rw [pendingFrom_cons_of_mem hitem]
      exact ih h.tail _
    · rw [pendingFrom_cons_of_notMem hitem]
      refine List.pairwise_cons.mpr ⟨fun x hx => ?_, ih h.tail drift⟩
      have hbelow : ∀ y ∈ rest, item.lastRow + 1 ≤ y.firstRow :=
        (List.pairwise_cons.mp h.apart).1
      have hfirst := le_firstRow_of_mem_pendingFrom h.tail hbelow hx
      rw [Item.lastRow_shift]
      omega

/-- **What is left is placed** in the document into which the taken items were written. -/
theorem pending_placed {rows : List Value} (h : Placed rows.length set) :
    Placed (rewriteRows (taken gone set) rows).length (pending gone set) := by
  have hlen := length_rewriteRows (h.stacked.sublist (taken_sublist gone set))
  refine ⟨fun x hx => ?_, pendingFrom_apart h 0⟩
  have hone := le_firstRow_of_mem_pendingFrom h
    (fun y hy => (h.fits y hy).one_le_firstRow) hx
  obtain ⟨above, item, below, rfl, hitem, rfl⟩ := exists_of_mem_pendingFrom hx
  have hfirst := (h.fits item (by simp)).firstRow_le_startRow
  have hbelow := (h.stacked.below.sublist (taken_sublist gone below)).le_add_growthOf
  have hspan := item.startRow_le_stopRow
  have hend := item.endRow_lt_stopRow
  have hgrow : growthOf (taken gone (above ++ item :: below))
      = growthOf (taken gone above) + growthOf (taken gone below) := by
    rw [taken_append, growthOf_append, taken_cons_of_notMem hitem]
  refine ⟨by omega, ?_, ?_, ?_⟩
  · rw [Item.firstRow_shift, Item.startRow_shift]
    omega
  · rw [Item.startRow_shift]
    omega
  · rw [Item.endRow_shift]
    omega

/-! ## Accepting one item -/

namespace Session

theorem itemAt?_eq_some {row : Int} {before after : SuggestionSet} {item : Item}
    (h : itemAt? row set = some (before, item, after)) :
    set = before ++ item :: after ∧ item.containsRow row = true := by
  induction set generalizing before with
  | nil => cases h
  | cons first rest ih =>
    rw [itemAt?] at h
    split at h
    · next hfirst =>
      cases h
      exact ⟨rfl, hfirst⟩
    · obtain ⟨⟨early, found, late⟩, hfound, heq⟩ := Option.map_eq_some_iff.mp h
      cases heq
      obtain ⟨hrest, hrow⟩ := ih hfound
      exact ⟨by rw [hrest]; rfl, hrow⟩

/-- In a placed set, exactly the items that stand after an item start below it. -/
theorem shiftBelow_of_placed {before after : SuggestionSet} {item : Item}
    (h : Placed size (before ++ item :: after)) (delta : Int) :
    shiftBelow item delta (before ++ after) = before ++ after.map (Item.shift delta) := by
  have hlt := List.pairwise_append.mp h.startRow_lt
  have hbefore : before.map (fun x => if item.startRow < x.startRow then x.shift delta else x)
      = before := by
    refine (List.map_congr_left fun x hx => ?_).trans (List.map_id before)
    have := hlt.2.2 x hx item List.mem_cons_self
    rw [if_neg (by omega), id]
  have hafter : after.map (fun x => if item.startRow < x.startRow then x.shift delta else x)
      = after.map (Item.shift delta) := by
    refine List.map_congr_left fun x hx => ?_
    rw [if_pos ((List.pairwise_cons.mp hlt.2.1).1 x hx)]
  rw [shiftBelow, List.map_append, hbefore, hafter]

variable {rows : List Value} {before after : SuggestionSet} {x : Item}

/-- **Accepting an item of what is left** leaves what is left without it. -/
theorem shiftBelow_pending (h : Placed rows.length set) (hids : (set.map Item.id).Nodup)
    (hsplit : pending gone set = before ++ x :: after) :
    shiftBelow x x.growth (before ++ after) = pending (gone ++ [x.id]) set := by
  have hplaced : Placed _ (before ++ x :: after) := hsplit ▸ pending_placed h
  rw [shiftBelow_of_placed hplaced]
  obtain ⟨above, item, below, rfl, hitem, rfl, rfl, rfl⟩ := pendingFrom_eq_append hsplit
  obtain ⟨habove, hbelow⟩ := id_notMem_of_nodup hids
  rw [pending, Item.id_shift, Item.growth_shift, pendingFrom_append,
    pendingFrom_cons_of_mem (by simp), taken_concat_of_notMem habove,
    pendingFrom_concat_of_notMem habove, pendingFrom_concat_of_notMem hbelow,
    ← pendingFrom_add]

/-- And applying it to the document that the taken items were written into writes it into the
document as well. -/
theorem applyRows_pending (h : Placed rows.length set) (hids : (set.map Item.id).Nodup)
    (hsplit : pending gone set = before ++ x :: after) :
    Buffer.applyRows x (rewriteRows (taken gone set) rows)
      = rewriteRows (taken (gone ++ [x.id]) set) rows := by
  obtain ⟨above, item, below, rfl, hitem, rfl, rfl, rfl⟩ := pendingFrom_eq_append hsplit
  obtain ⟨habove, hbelow⟩ := id_notMem_of_nodup hids
  have hafter : taken (gone ++ [item.id]) (above ++ item :: below)
      = taken gone above ++ item :: taken gone below := by
    rw [taken_append, taken_cons_of_mem (by simp), taken_concat_of_notMem habove,
      taken_concat_of_notMem hbelow]
  have hstacked : Stacked (rows.length + 1) 1 (taken gone above ++ item :: taken gone below) :=
    hafter ▸ h.stacked.sublist (taken_sublist _ _)
  rw [Item.id_shift, hafter, Int.zero_add, taken_append, taken_cons_of_notMem hitem]
  exact applyRows_shift_rewriteRows hstacked

end Session

end GhostEdit
