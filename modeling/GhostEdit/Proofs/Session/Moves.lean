import GhostEdit.Proofs.Buffer.Texts
import GhostEdit.Proofs.Overlay.Marks
import GhostEdit.Proofs.Session.Pending

/-!
# What a user does with the suggestions of a buffer

Between one request and the next a user moves the cursor, goes round the sets on offer and accepts
items. This file says once what each of these moves can do to the rows of the buffer and to the
sets on offer, and forgets everything else: the journal, the overlay, the timers, the other
buffers. `Standing` is that view of a session, and every result about runs of moves is an
induction over the lemmas of this file.

## Which accepts count

An accept that finds no item under the cursor jumps, and one that finds no set hands its key back.
Only an accept with the outcome `applied` enters the record of a run (`Session.perform`), and
`Standing.accept` says that this is exactly when an item was under the cursor: over rows that are
texts, redrawing what is left cannot fail.

## Main definitions

* `Session.Move`, `Session.perform`, `Session.play`: moves, and runs of moves with the items that
  were applied
* `Session.Offer`, `Session.Standing`: the rows of a buffer and the sets on offer for it
* `Session.Effect`: what a move can do to them

## Main results

* `Standing.cursor`, `Standing.rotate`, `Standing.accept`: what each move does to a standing
* `Standing.perform`, `Standing.play`: a move has one of the effects, and a run keeps what every
  effect keeps
* `Standing.reach`: an item that is left can be reached
-/

namespace GhostEdit

/-! ## The buffers -/

namespace Buffers

/-- The buffer with a name holds these rows and can be edited. -/
def Holds (bs : Buffers) (id : String) (rows : List Value) : Prop :=
  ∃ b, bs.get? id = some b ∧ b.lines = rows ∧ b.modifiable = true

variable {bs : Buffers} {id : String} {rows : List Value}

theorem get?_put (bs : Buffers) (id other : String) (b : Buffer) :
    (bs.put id b).get? other = if other = id then some b else bs.get? other :=
  Registry.lookup_put id other b bs.entries

theorem get_of_get? {b : Buffer} (h : bs.get? id = some b) : bs.get id = .ok b := by
  rw [get, h]

theorem holds_put {b : Buffer} (hlines : b.lines = rows) (hmod : b.modifiable = true) :
    (bs.put id b).Holds id rows :=
  ⟨b, by rw [get?_put, if_pos rfl], hlines, hmod⟩

/-- A change that keeps the rows and the permission to edit them. -/
theorem Holds.adjust (h : bs.Holds id rows) {f : Buffer → Buffer}
    (hf : ∀ b, (f b).lines = b.lines ∧ (f b).modifiable = b.modifiable) :
    (bs.adjust id f).Holds id rows := by
  obtain ⟨b, hb, hlines, hmod⟩ := h
  rw [Buffers.adjust, hb]
  exact holds_put ((hf b).1.trans hlines) ((hf b).2.trans hmod)

theorem modify_of_get? {b : Buffer} (h : bs.get? id = some b)
    (f : Buffer → Except Failure Buffer) : bs.modify id f = (f b).map (bs.put id) := by
  rw [Buffers.modify, get_of_get? h]
  rfl

theorem Holds.modify (h : bs.Holds id rows) {f : Buffer → Except Failure Buffer}
    (hf : ∀ b b', f b = .ok b' → b'.lines = b.lines ∧ b'.modifiable = b.modifiable)
    {bs' : Buffers} (hbs : bs.modify id f = .ok bs') : bs'.Holds id rows := by
  obtain ⟨b, hb, hlines, hmod⟩ := h
  rw [modify_of_get? hb] at hbs
  obtain ⟨b', hb', rfl⟩ := map_eq_ok hbs
  exact holds_put ((hf b b' hb').1.trans hlines) ((hf b b' hb').2.trans hmod)

end Buffers

namespace Session

/-! ## Moves -/

/-- What a user does with the suggestions of a buffer. -/
inductive Move where
  /-- Accept the suggestion under the cursor. -/
  | accept
  /-- Select the next set. -/
  | next
  /-- Select the set before. -/
  | prev
  /-- Put the cursor somewhere. -/
  | cursor (row col : Int)
deriving DecidableEq

/-- Whether a move selects another set. -/
def Move.turns : Move → Bool
  | .next => true
  | .prev => true
  | .accept => false
  | .cursor _ _ => false

/-- Put the cursor of a buffer somewhere, as far as its rows allow. -/
def placeCursor (s : Session) (id : String) (row col : Int) : Session :=
  match s.buffers.modify id (Buffer.setCursor row col) with
  | .ok buffers => { s with buffers }
  | .error _ => s

/-- The item under the cursor of a buffer, with the place of its set among those on offer. -/
def picked? (s : Session) (id : String) : Option (Nat × Item) :=
  match s.context? id, s.buffers.get? id with
  | some c, some b =>
    match c.phase, c.current?, b.cursor.row with
    | .ready, some set, .ok row => (itemAt? row set).map fun found => (c.index.toNat, found.2.1)
    | _, _, _ => none
  | _, _ => none

/-- Make a move; the result holds the item that was applied, if one was. -/
def perform (id : String) (s : Session) : Move → Session × List (Nat × Item)
  | .accept =>
    match s.accept id with
    | (t, .ok .applied) => (t, (s.picked? id).toList)
    | (t, _) => (t, [])
  | .next => ((s.next id).1, [])
  | .prev => ((s.prev id).1, [])
  | .cursor row col => (s.placeCursor id row col, [])

/-- Make moves one after the other; the result holds the items that were applied, oldest first,
as they stood when they were. -/
def play (id : String) : Session → List Move → Session × List (Nat × Item)
  | s, [] => (s, [])
  | s, move :: rest =>
    ((play id (perform id s move).1 rest).1,
      (perform id s move).2 ++ (play id (perform id s move).1 rest).2)

/-- The numbers of the items that a run applied. -/
def accepted (log : List (Nat × Item)) : List Int := log.map (·.2.id)

theorem accepted_append (log more : List (Nat × Item)) :
    accepted (log ++ more) = accepted log ++ accepted more := List.map_append

/-! ## Standings -/

/-- Sets on offer, and which of them is selected. -/
structure Offer where
  sets : List SuggestionSet
  index : Nat

/-- The offer with the selected set cut down to what is left of it. There is no offer any more
when nothing is left. -/
def Offer.keep (o : Offer) (left : SuggestionSet) : Option Offer :=
  if left.isEmpty then none else some { o with sets := o.sets.set o.index left }

theorem Offer.left_eq_nil_of_keep {o : Offer} {left : SuggestionSet} (h : o.keep left = none) :
    left = [] := by
  rw [Offer.keep] at h
  split at h
  · next hnil => exact List.isEmpty_iff.mp hnil
  · cases h

theorem Offer.eq_of_keep {o o' : Offer} {left : SuggestionSet} (h : o.keep left = some o') :
    left ≠ [] ∧ o' = { o with sets := o.sets.set o.index left } := by
  rw [Offer.keep] at h
  split at h
  · cases h
  · next hne => exact ⟨fun hnil => hne (List.isEmpty_iff.mpr hnil), (Option.some.inj h).symm⟩

/-- A context that is ready to offer these sets. -/
structure Presents (c : Context) (o : Offer) : Prop where
  phase : c.phase = .ready
  sets : c.sets = o.sets
  index : c.index = o.index
  inRange : o.index < o.sets.length

/-- A buffer holds rows that are texts and can be edited, and a context offers sets for it, or
there is no context and no offer. -/
structure Standing (s : Session) (id : String) (rows : List Value) (offer : Option Offer) :
    Prop where
  holds : s.buffers.Holds id rows
  texts : ∃ texts : List Text, rows = texts.map Value.str
  context : match offer with
    | none => s.context? id = none
    | some o => ∃ c, s.context? id = some c ∧ Presents c o

variable {s : Session} {id : String} {rows : List Value} {offer : Option Offer} {o : Offer}

theorem Presents.current? {c : Context} {o : Offer} (h : Presents c o) :
    c.current? = o.sets[o.index]? := by
  rw [Context.current?, h.index, h.sets, if_pos (by omega), Int.toNat_natCast]

/-- A context that is ready to offer a set, for a buffer of texts, is a standing. -/
theorem standing_of_ready {b : Buffer} {c : Context} {texts : List Text} {set : SuggestionSet}
    (hb : s.buffers.get? id = some b)
    (hlines : b.lines = texts.map Value.str) (hmod : b.modifiable = true)
    (hc : s.context? id = some c) (hready : c.phase = .ready) (hcurrent : c.current? = some set) :
    ∃ o : Offer, o.sets = c.sets ∧ o.sets[o.index]? = some set ∧
      Standing s id (texts.map Value.str) (some o) := by
  rw [Context.current?] at hcurrent
  split at hcurrent
  · next hindex =>
    have hlt := (List.getElem?_eq_some_iff.mp hcurrent).1
    exact ⟨⟨c.sets, c.index.toNat⟩, rfl, hcurrent, ⟨b, hb, hlines, hmod⟩, ⟨texts, rfl⟩, c, hc,
      hready, rfl, (Int.toNat_of_nonneg hindex).symm, hlt⟩
  · cases hcurrent

/-- What neither changes the contexts nor the rows of the buffer keeps a standing. -/
theorem Standing.frame (h : Standing s id rows offer) {t : Session}
    (hcontexts : t.contexts = s.contexts) (hholds : t.buffers.Holds id rows) :
    Standing t id rows offer := by
  have hcontext : t.context? id = s.context? id := by rw [context?, context?, hcontexts]
  refine ⟨hholds, h.texts, ?_⟩
  rw [hcontext]
  exact h.context

/-! ## Drawing -/

theorem hide_holds (h : s.buffers.Holds id rows) : (s.hide id).buffers.Holds id rows :=
  h.adjust fun _ => ⟨rfl, rfl⟩

theorem drawOn_holds (board : Board) {bs : Buffers} (h : bs.Holds id rows) (set : SuggestionSet)
    (lines : List Value) (cursor : Cursor) :
    (board.drawOn bs id set lines cursor).2.1.Holds id rows := by
  have hcleared : (board.clearOn bs id).2.Holds id rows := h.adjust fun _ => ⟨rfl, rfl⟩
  rw [Board.drawOn]
  dsimp only
  split
  · exact hcleared
  · exact hcleared
  · split
    · next hbs => exact hcleared.modify (fun b b' hb => by cases hb; exact ⟨rfl, rfl⟩) hbs
    · exact hcleared

theorem draw_holds (h : s.buffers.Holds id rows) (b : Buffer) (set : SuggestionSet) :
    (s.draw id b set).1.buffers.Holds id rows := by
  have hdrawn := drawOn_holds s.board h set b.lines b.cursor
  rw [draw]
  dsimp only
  split
  · exact hdrawn
  · exact hdrawn

theorem draw_contexts (b : Buffer) (set : SuggestionSet) :
    (s.draw id b set).1.contexts = s.contexts := by
  rw [draw]
  dsimp only
  split <;> rfl

theorem present_contexts : (s.present id).1.contexts = s.contexts := by
  rw [present]
  split
  · rfl
  · split
    · split
      · rfl
      · rfl
      · exact draw_contexts _ _
    · rfl

theorem present_holds (h : s.buffers.Holds id rows) :
    (s.present id).1.buffers.Holds id rows := by
  have hhidden := hide_holds h
  rw [present]
  split
  · exact hhidden
  · split
    · split
      · exact hhidden
      · exact hhidden
      · exact draw_holds hhidden _ _
    · exact hhidden

theorem Standing.present (h : Standing s id rows offer) :
    Standing (s.present id).1 id rows offer :=
  h.frame present_contexts (present_holds h.holds)

/-- Over strings, with a cursor that has a row, drawing never fails. -/
theorem drawOn_ok (board : Board) {bs : Buffers} {b : Buffer} {set : SuggestionSet}
    {rows : List Value} {cursor : Cursor} {row : Int} (hb : bs.get? id = some b)
    (hset : ∀ item ∈ set, 1 ≤ item.startRow) (hrows : ∀ row ∈ rows, row.IsString)
    (hcursor : cursor.row = .ok row) :
    ∃ marks, (board.drawOn bs id set rows cursor).2.2 = .ok marks := by
  have hlayout : ∃ marks, Board.layout set rows cursor = .ok marks := by
    rw [Board.layout, hcursor]
    split
    · exact ⟨_, rfl⟩
    · exact Layout.exists_marks hrows hset row
  have hdraw : ∃ marks, (board.draw id set rows cursor).2 = .ok marks := by
    obtain ⟨marks, hmarks⟩ := hlayout
    rw [Board.draw, hmarks]
    cases marks with
    | nil => exact ⟨_, rfl⟩
    | cons m ms => exact ⟨_, rfl⟩
  have hcleared : ((board.clearOn bs id).2).get? id = some { b with overlay := [] } := by
    rw [Board.clearOn, Buffers.adjust, hb]
    exact (Buffers.get?_put ..).trans (if_pos rfl)
  obtain ⟨marks, hmarks⟩ := hdraw
  rw [Board.drawOn]
  dsimp only
  split
  · next h => rw [h] at hmarks; cases hmarks
  · exact ⟨_, rfl⟩
  · rw [Buffers.modify_of_get? hcleared]
    exact ⟨_, rfl⟩

theorem present_ok {b : Buffer} {row : Int}
    (hb : s.buffers.get? id = some b) (hrows : ∀ row ∈ b.lines, row.IsString)
    (hcursor : b.cursor.row = .ok row)
    (hset : ∀ set, s.current? id = some set → ∀ item ∈ set, 1 ≤ item.startRow) :
    (s.present id).2 = .ok () := by
  have hhidden : (s.hide id).buffers.get? id = some { b with overlay := [] } := by
    show (s.buffers.adjust id _).get? id = _
    rw [Buffers.adjust, hb]
    exact (Buffers.get?_put ..).trans (if_pos rfl)
  rw [present, Buffers.get_of_get? hhidden]
  dsimp only
  split
  · split
    · rfl
    · rfl
    · next set _ hcurrent =>
      obtain ⟨marks, hmarks⟩ :=
        drawOn_ok (s.hide id).board hhidden (hset set hcurrent) hrows hcursor
      rw [draw]
      dsimp only
      rw [hmarks]
  · rfl

/-! ## The contexts -/

theorem context?_setContext (c : Context) : (s.setContext id c).context? id = some c := by
  rw [setContext, context?, Registry.lookup_put, if_pos rfl]

theorem Standing.setContext {c : Context} {o o' : Offer} (h : Standing s id rows (some o))
    (hc : Presents c o') : Standing (s.setContext id c) id rows (some o') :=
  ⟨h.holds, h.texts, c, context?_setContext c, hc⟩

theorem Standing.endMove (h : Standing s id rows (some o)) :
    Standing (s.endMove id) id rows (some o) := by
  obtain ⟨c, hc, hpresents⟩ := h.context
  rw [Session.endMove, changeContext, hc]
  exact h.setContext ⟨hpresents.phase, hpresents.sets, hpresents.index, hpresents.inRange⟩

theorem Standing.dismiss (h : Standing s id rows offer) : Standing (s.dismiss id) id rows none := by
  have hreset : (s.resetController id).buffers = s.buffers := by
    rw [resetController]
    split <;> rfl
  refine ⟨hide_holds (s := s.resetController id) ?_, h.texts, ?_⟩
  · rw [hreset]
    exact h.holds
  · show List.lookup id (Registry.erase id _) = none
    rw [Registry.lookup_erase, if_pos rfl]

/-! ## What a move does -/

/-- Handing the key back changes neither rows nor offers. -/
theorem Standing.handBack (h : Standing s id rows offer) :
    Standing (s.handBack id).1 id rows offer ∧ (s.handBack id).2 ≠ .ok .applied := by
  rw [Session.handBack]
  dsimp only
  split
  · split
    · exact ⟨h.frame rfl h.holds, by simp⟩
    · next hbs =>
      refine ⟨h.frame rfl ?_, by simp⟩
      exact h.holds.modify (fun b b' hb => by cases hb; exact ⟨rfl, rfl⟩) hbs
  · exact ⟨h, by simp⟩

/-- Putting the cursor somewhere changes neither rows nor offers. -/
theorem Standing.cursor (h : Standing s id rows offer) (row col : Int) :
    Standing (s.placeCursor id row col) id rows offer := by
  rw [placeCursor]
  split
  · next hbs =>
    refine h.frame rfl (h.holds.modify (fun b b' hb => ?_) hbs)
    obtain ⟨_, _, rfl⟩ := Buffer.setCursor_eq_ok hb
    exact ⟨rfl, rfl⟩
  · exact h

/-- Going round the sets selects another one. -/
theorem Standing.rotate (h : Standing s id rows (some o)) (step : Int) :
    ∃ index, index < o.sets.length ∧
      Standing (s.rotate id step).1 id rows (some { o with index }) := by
  obtain ⟨c, hc, hpresents⟩ := h.context
  have hpos : 0 < o.sets.length := Nat.zero_lt_of_lt hpresents.inRange
  have hnonneg : 0 ≤ ((o.index : Int) + step) % o.sets.length := Int.emod_nonneg _ (by omega)
  have hlt : ((o.index : Int) + step) % o.sets.length < o.sets.length :=
    Int.emod_lt_of_pos _ (by omega)
  have hready : (c.phase = .ready && !c.sets.isEmpty) = true := by
    have hne : o.sets ≠ [] := List.length_pos_iff.mp hpos
    rw [hpresents.phase, hpresents.sets, List.isEmpty_eq_false_iff.mpr hne]
    rfl
  refine ⟨(((o.index : Int) + step) % o.sets.length).toNat, by omega, ?_⟩
  rw [Session.rotate, hc]
  dsimp only
  rw [if_pos hready]
  refine Standing.present (h.setContext ⟨hpresents.phase, hpresents.sets, ?_, ?_⟩)
  · show (c.index + step) % c.sets.length = ((((o.index : Int) + step) % o.sets.length).toNat : Int)
    rw [hpresents.index, hpresents.sets]
    omega
  · show (((o.index : Int) + step) % o.sets.length).toNat < o.sets.length
    omega

theorem Standing.rotate_none (h : Standing s id rows none) (step : Int) :
    Standing (s.rotate id step).1 id rows none := by
  have hnone : s.context? id = none := h.context
  rw [Session.rotate, hnone]
  exact h

/-- A jump moves the cursor and starts typing. -/
theorem jumpIn_eq_ok {item : Item} {b b' : Buffer} (h : jumpIn item b = .ok b') :
    ∃ cursor, b' = { b with cursor, mode := insertMode } := by
  have hstart : ∀ {row col : Int} {moved : Buffer}, b.setCursor row col = .ok moved →
      ∃ cursor, moved.startInsert = { b with cursor, mode := insertMode } := by
    intro row col moved hmoved
    obtain ⟨r, c, rfl⟩ := Buffer.setCursor_eq_ok hmoved
    exact ⟨.at r c, rfl⟩
  rw [jumpIn] at h
  split at h
  · obtain ⟨moved, hmoved, rfl⟩ := map_eq_ok h
    exact hstart hmoved
  · split at h
    · cases h
    · obtain ⟨length, -, h⟩ := bind_eq_ok h
      obtain ⟨moved, hmoved, h⟩ := bind_eq_ok h
      cases h
      exact hstart hmoved

/-- Jumping changes neither rows nor offers. -/
theorem Standing.jump (h : Standing s id rows (some o)) (item : Item) :
    Standing (s.jump id item).1 id rows (some o) ∧ (s.jump id item).2 ≠ .ok .applied := by
  rw [Session.jump]
  split
  · exact ⟨h.frame rfl h.holds, by simp⟩
  · next buffers hbs =>
    have hmoved : Standing { s.log .debug s!"Jumping to suggestion {item.id} at row {item.startRow}"
        with buffers } id rows (some o) := by
      refine h.frame rfl (h.holds.modify (fun b b' hb => ?_) hbs)
      obtain ⟨_, rfl⟩ := jumpIn_eq_ok hb
      exact ⟨rfl, rfl⟩
    have hpresented := hmoved.endMove.present
    split
    · next heq => rw [heq] at hpresented; exact ⟨hpresented, by simp⟩
    · next heq => rw [heq] at hpresented; exact ⟨hpresented, by simp⟩

theorem Presents.current?_keep {c : Context} {left : SuggestionSet} (h : Presents c o) :
    ({ c with sets := c.sets.set c.index.toNat left } : Context).current? = some left := by
  have hlt : c.index.toNat < c.sets.length := by
    rw [h.index, h.sets, Int.toNat_natCast]
    exact h.inRange
  have hnonneg : 0 ≤ c.index := by rw [h.index]; omega
  rw [Context.current?, if_pos hnonneg]
  exact List.getElem?_set_self hlt

/-- Keeping what is left of the selected set never fails. -/
theorem Standing.retain {c : Context} {b : Buffer} {row col : Int} {left : SuggestionSet}
    (h : Standing s id rows (some o)) (hb : s.buffers.get? id = some b) (hlines : b.lines = rows)
    (hcursor : b.cursor = .at row col) (hc : Presents c o)
    (hleft : ∀ item ∈ left, 1 ≤ item.startRow) :
    Standing (s.retain id c b left).1 id rows (o.keep left) ∧
      (s.retain id c b left).2 = .ok .applied := by
  let kept : Context :=
    { c with sets := c.sets.set c.index.toNat left, previous := some b.lines, moving := false }
  have hkept : Standing (s.setContext id kept) id rows
      (some { o with sets := o.sets.set o.index left }) := by
    refine h.setContext ⟨hc.phase, ?_, hc.index, ?_⟩
    · show c.sets.set c.index.toNat left = o.sets.set o.index left
      rw [hc.sets, hc.index, Int.toNat_natCast]
    · show o.index < (o.sets.set o.index left).length
      rw [List.length_set]
      exact hc.inRange
  rw [Session.retain, Offer.keep]
  split
  · exact ⟨hkept.dismiss, rfl⟩
  · obtain ⟨texts, htexts⟩ := h.texts
    have hcurrent : (s.setContext id kept).current? id = some left := by
      rw [Session.current?, context?_setContext]
      exact hc.current?_keep
    have hok : ((s.setContext id kept).present id).2 = .ok () := by
      have hrow : b.cursor.row = .ok row := by
        rw [hcursor]
        rfl
      refine present_ok hb (Value.isString_of_mem_texts (hlines.trans htexts)) hrow ?_
      intro set hset
      rw [hcurrent, Option.some.injEq] at hset
      exact hset ▸ hleft
    have hpresented := hkept.present
    split
    · next heq => rw [heq] at hok; cases hok
    · next heq => rw [heq] at hpresented; exact ⟨hpresented, rfl⟩

/-- What is left of a placed set starts in the first row or below it. -/
theorem one_le_startRow_of_mem_shiftBelow {size : Nat} {before after : SuggestionSet} {x y : Item}
    (h : Placed size (before ++ x :: after))
    (hy : y ∈ shiftBelow x x.growth (before ++ after)) : 1 ≤ y.startRow := by
  have hone : ∀ item ∈ before ++ x :: after, 1 ≤ item.startRow := fun item hitem =>
    (h.fits item hitem).one_le_startRow
  rw [shiftBelow_of_placed h, List.mem_append, List.mem_map] at hy
  rcases hy with hy | ⟨item, hitem, rfl⟩
  · exact hone y (List.mem_append_left _ hy)
  · -- the content of `x`, a row at least, stands between its start and the item
    have hx := hone x (by simp)
    have hapart := (List.pairwise_cons.mp (List.pairwise_append.mp h.apart).2.1).1 item hitem
    have hfits := (h.fits item (by simp [hitem])).firstRow_le_startRow
    have hstop := x.stopRow_le_lastRow_add_one
    have hgrow := x.stopRow_add_growth
    rw [Item.startRow_shift]
    omega

/-- Applying an item of the selected set rewrites the rows and cuts the set down. -/
theorem Standing.applyItem {size : Nat} {c : Context} {b : Buffer} {before after : SuggestionSet}
    {x : Item} (h : Standing s id rows (some o)) (hb : s.buffers.get? id = some b)
    (hc : Presents c o) (hplaced : Placed size (before ++ x :: after)) :
    Standing (s.applyItem id c b x (before ++ after)).1 id (Buffer.applyRows x rows)
        (o.keep (shiftBelow x x.growth (before ++ after))) ∧
      (s.applyItem id c b x (before ++ after)).2 = .ok .applied := by
  obtain ⟨held, hheld, hlines, hmod⟩ := h.holds
  obtain rfl : held = b := Option.some.inj (hheld.symm.trans hb)
  obtain ⟨texts, htexts⟩ := h.texts
  obtain ⟨written, happly, hwritten, hmodifiable, row, col, hcursor, -⟩ :=
    Buffer.apply_texts x (b := { held with overlay := [] }) id (hlines.trans htexts) hmod
  obtain ⟨new, _, hnew⟩ := Buffer.applyRows_texts x texts
  have hrows : written.lines = Buffer.applyRows x rows := by rw [hwritten]; exact hlines ▸ rfl
  rw [Session.applyItem, happly]
  refine Standing.retain (b := written) ⟨?_, ⟨new, ?_⟩, ?_⟩ ?_ hrows hcursor hc ?_
  · exact Buffers.holds_put hrows hmodifiable
  · rw [htexts, hnew]
  · exact h.context
  · exact (Buffers.get?_put ..).trans (if_pos rfl)
  · intro item hitem
    exact one_le_startRow_of_mem_shiftBelow hplaced hitem

/-- What is under the cursor when a set is on offer. -/
theorem picked?_of_presents {b : Buffer} {c : Context} {set : SuggestionSet}
    (hb : s.buffers.get? id = some b) (hc : s.context? id = some c) (hpresents : Presents c o)
    (hset : o.sets[o.index]? = some set) :
    s.picked? id = match b.cursor.row with
      | .ok row => (itemAt? row set).map fun found => (o.index, found.2.1)
      | .error _ => none := by
  rw [picked?, hc, hb]
  dsimp only
  rw [hpresents.phase, hpresents.current?, hset, hpresents.index, Int.toNat_natCast]
  cases b.cursor.row <;> rfl

/-- **Accepting.** Either an item of the selected set is under the cursor, and it is applied, or
none is, and then rows and offers stay as they are. -/
theorem Standing.accept {size : Nat} {set : SuggestionSet} (h : Standing s id rows (some o))
    (hset : o.sets[o.index]? = some set) (hplaced : Placed size set) :
    (s.picked? id = none ∧ (s.accept id).2 ≠ .ok .applied ∧
        Standing (s.accept id).1 id rows (some o)) ∨
      ∃ before x after, set = before ++ x :: after ∧ s.picked? id = some (o.index, x) ∧
        (s.accept id).2 = .ok .applied ∧
        Standing (s.accept id).1 id (Buffer.applyRows x rows)
          (o.keep (shiftBelow x x.growth (before ++ after))) := by
  obtain ⟨c, hc, hpresents⟩ := h.context
  obtain ⟨b, hb, hlines, hmod⟩ := h.holds
  have hcurrent : c.current? = some set := hpresents.current?.trans hset
  have hpicked := picked?_of_presents hb hc hpresents hset
  cases set with
  | nil =>
    left
    have haccept : s.accept id = s.handBack id := by
      rw [Session.accept, hc]
      dsimp only
      rw [hpresents.phase, hcurrent]
    rw [haccept, hpicked]
    obtain ⟨hstanding, houtcome⟩ := h.handBack
    refine ⟨?_, houtcome, hstanding⟩
    cases b.cursor.row <;> rfl
  | cons item rest =>
    have haccept : s.accept id = s.acceptAt id c (item :: rest) b := by
      rw [Session.accept, hc]
      dsimp only
      rw [hpresents.phase, hcurrent, Buffers.get_of_get? hb]
    rw [haccept, hpicked, acceptAt]
    cases hrow : b.cursor.row with
    | error e => exact Or.inl ⟨rfl, by simp, h⟩
    | ok row =>
      dsimp only
      cases hfound : itemAt? row (item :: rest) with
      | none =>
        left
        cases nearest? row (item :: rest) with
        | none => exact ⟨rfl, by simp, h⟩
        | some target =>
          obtain ⟨hstanding, houtcome⟩ := h.jump target
          exact ⟨rfl, houtcome, hstanding⟩
      | some found =>
        obtain ⟨before, x, after⟩ := found
        obtain ⟨hsplit, _⟩ := itemAt?_eq_some hfound
        rw [hsplit] at hplaced
        obtain ⟨hstanding, houtcome⟩ := h.applyItem hb hpresents hplaced
        exact Or.inr ⟨before, x, after, hsplit, rfl, houtcome, hstanding⟩

theorem Standing.accept_none (h : Standing s id rows none) :
    Standing (s.accept id).1 id rows none ∧ (s.accept id).2 ≠ .ok .applied := by
  have hnone : s.context? id = none := h.context
  rw [Session.accept, hnone]
  exact h.handBack

/-! ## Runs -/

/-- What a move can do to the rows of a buffer and to the sets on offer, with the items that it
applies: nothing, select another set, or apply an item of the selected set. -/
inductive Effect (rows : List Value) :
    Option Offer → Move → List (Nat × Item) → List Value → Option Offer → Prop
  | stay (offer : Option Offer) (move : Move) : Effect rows offer move [] rows offer
  | turn {o : Offer} {move : Move} {index : Nat} (hturns : move.turns = true)
      (hindex : index < o.sets.length) :
      Effect rows (some o) move [] rows (some { o with index })
  | apply {o : Offer} {before after : SuggestionSet} {x : Item}
      (hset : o.sets[o.index]? = some (before ++ x :: after)) :
      Effect rows (some o) .accept [(o.index, x)] (Buffer.applyRows x rows)
        (o.keep (shiftBelow x x.growth (before ++ after)))

theorem perform_accept_of_ne (h : (s.accept id).2 ≠ .ok .applied) :
    perform id s .accept = ((s.accept id).1, []) := by
  rw [perform]
  split
  · next heq => rw [heq] at h; exact absurd rfl h
  · next heq => rw [heq]

theorem perform_accept_of_eq (h : (s.accept id).2 = .ok .applied) :
    perform id s .accept = ((s.accept id).1, (s.picked? id).toList) := by
  rw [perform]
  split
  · next heq => rw [heq]
  · next hne heq =>
    rw [heq] at h
    exact absurd h hne

/-- **One move** has one of the effects, and rows and offer stand as it says. -/
theorem Standing.perform (h : Standing s id rows offer)
    (hplaced : ∀ o set, offer = some o → o.sets[o.index]? = some set → ∃ size, Placed size set)
    (move : Move) :
    ∃ rows' offer', Effect rows offer move (perform id s move).2 rows' offer' ∧
      Standing (perform id s move).1 id rows' offer' := by
  cases move with
  | cursor row col => exact ⟨rows, offer, .stay offer _, h.cursor row col⟩
  | next =>
    cases offer with
    | none => exact ⟨rows, none, .stay none _, h.rotate_none 1⟩
    | some o =>
      obtain ⟨index, hindex, hstanding⟩ := h.rotate 1
      exact ⟨rows, _, .turn rfl hindex, hstanding⟩
  | prev =>
    cases offer with
    | none => exact ⟨rows, none, .stay none _, h.rotate_none (-1)⟩
    | some o =>
      obtain ⟨index, hindex, hstanding⟩ := h.rotate (-1)
      exact ⟨rows, _, .turn rfl hindex, hstanding⟩
  | accept =>
    cases offer with
    | none =>
      obtain ⟨hstanding, houtcome⟩ := h.accept_none
      rw [perform_accept_of_ne houtcome]
      exact ⟨rows, none, .stay none _, hstanding⟩
    | some o =>
      obtain ⟨c, _, hpresents⟩ := h.context
      have hlt := hpresents.inRange
      have hset : o.sets[o.index]? = some o.sets[o.index] := List.getElem?_eq_getElem hlt
      obtain ⟨size, hsize⟩ := hplaced o _ rfl hset
      rcases h.accept hset hsize with
        ⟨_, houtcome, hstanding⟩ | ⟨before, x, after, hsplit, hpicked, houtcome, hstanding⟩
      · rw [perform_accept_of_ne houtcome]
        exact ⟨rows, some o, .stay _ _, hstanding⟩
      · rw [perform_accept_of_eq houtcome, hpicked]
        exact ⟨_, _, .apply (hset.trans (congrArg some hsplit)), hstanding⟩

/-- **A run of moves** keeps what every effect of a move keeps. -/
theorem Standing.play {Inv : List (Nat × Item) → List Value → Option Offer → Prop}
    (hplaced : ∀ log rows o set, Inv log rows (some o) → o.sets[o.index]? = some set →
      ∃ size, Placed size set)
    {moves : List Move}
    (hstep : ∀ log rows offer move applied rows' offer', move ∈ moves → Inv log rows offer →
      Effect rows offer move applied rows' offer' → Inv (log ++ applied) rows' offer')
    {log : List (Nat × Item)} (h : Standing s id rows offer) (hinv : Inv log rows offer) :
    ∃ rows' offer', Inv (log ++ (play id s moves).2) rows' offer' ∧
      Standing (play id s moves).1 id rows' offer' := by
  induction moves generalizing s log rows offer with
  | nil =>
    rw [play, List.append_nil]
    exact ⟨rows, offer, hinv, h⟩
  | cons move rest ih =>
    obtain ⟨rows', offer', heffect, hstanding⟩ :=
      h.perform (fun o set ho => hplaced log rows o set (ho ▸ hinv)) move
    have hnext := hstep _ _ _ _ _ _ _ List.mem_cons_self hinv heffect
    rw [play, ← List.append_assoc]
    exact ih (fun _ _ _ _ _ _ _ hmove => hstep _ _ _ _ _ _ _ (List.mem_cons_of_mem _ hmove))
      hstanding hnext

theorem play_append (moves more : List Move) :
    play id s (moves ++ more) = ((play id (play id s moves).1 more).1,
      (play id s moves).2 ++ (play id (play id s moves).1 more).2) := by
  induction moves generalizing s with
  | nil => rfl
  | cons move rest ih => rw [List.cons_append, play, play, ih, List.append_assoc]

/-- **The first item that is left can be reached**: with the cursor in its row, or in the last row
if it comes after that, an accept applies it. -/
theorem Standing.reach {x : Item} {rest : SuggestionSet} (h : Standing s id rows (some o))
    (hset : o.sets[o.index]? = some (x :: rest)) (hplaced : Placed rows.length (x :: rest))
    (hne : rows ≠ []) :
    (Session.play id s [.cursor x.startRow 0, .accept]).2 = [(o.index, x)] := by
  obtain ⟨texts, htexts⟩ := h.texts
  obtain ⟨b, hb, hlines, _⟩ := h.holds
  obtain ⟨c, hc, hpresents⟩ := h.context
  have hfits := hplaced.fits x List.mem_cons_self
  have hstart := hfits.startRow_le
  have hone := hfits.one_le_firstRow
  have hfirst := hfits.firstRow_le_startRow
  have hlast := x.startRow_le_lastRow
  have hlen : rows.length = texts.length := by rw [htexts, List.length_map]
  have hpos : 0 < rows.length := List.length_pos_iff.mpr hne
  have hcontains : x.containsRow (min (max 1 x.startRow) texts.length) = true := by
    rw [Item.containsRow, Bool.and_eq_true, decide_eq_true_eq, decide_eq_true_eq]
    omega
  obtain ⟨col, hcursor, -⟩ := Buffer.setCursor_texts
    (List.length_pos_iff.mp (hlen ▸ hpos)) x.startRow 0 (hlines.trans htexts)
  let moved : Buffer := { b with cursor := .at (min (max 1 x.startRow) texts.length) col }
  let t : Session := { s with buffers := s.buffers.put id moved }
  have hmoved : s.placeCursor id x.startRow 0 = t := by
    rw [placeCursor, Buffers.modify_of_get? hb, hcursor]
    rfl
  have hunder : t.buffers.get? id = some moved := (Buffers.get?_put ..).trans (if_pos rfl)
  have hplace : (s.placeCursor id x.startRow 0).picked? id = some (o.index, x) := by
    rw [hmoved]
    refine (picked?_of_presents hunder hc hpresents hset).trans ?_
    show (itemAt? (min (max 1 x.startRow) texts.length) (x :: rest)).map _ = some (o.index, x)
    rw [itemAt?, if_pos hcontains]
    rfl
  rcases (h.cursor x.startRow 0).accept hset hplaced with
    ⟨hnone, _⟩ | ⟨_, y, _, _, hpicked, houtcome, _⟩
  · rw [hplace] at hnone
    cases hnone
  · show (Session.perform id (s.placeCursor id x.startRow 0) .accept).2 ++ [] = _
    rw [perform_accept_of_eq houtcome, hplace]
    rfl

end Session

end GhostEdit
