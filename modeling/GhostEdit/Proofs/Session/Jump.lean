import GhostEdit.Proofs.Session.Round

/-!
# From the cursor to an item

An accept looks for an item under the cursor, and jumps to the nearest one if there is none. Both
always come to something while a set is on offer in a buffer of texts, and this file says to what:
which item an accept finds, and where a jump leaves the cursor.

## Where a jump lands

A jump goes to the row before the start of an item, and no further than the last row. An item counts
as under the cursor from the row before its first one on, and it starts at its first row or below.
So a jump lands in its item as long as the item stands in the rows.

## Main definitions

* `Session.OnRow`: the row of the cursor

## Main results

* `Session.exists_nearest?`: there is always an item to jump to
* `Session.containsRow_jumpRow`: a jump lands in the item
* `Session.accept_eq_acceptAt`: an accept while something is on offer
* `Session.Standing.jump_eq`: jumping never fails
-/

namespace GhostEdit

namespace Session

variable {s t : Session} {id : String} {b : Buffer} {c : Context} {rows : List Value}
  {set : SuggestionSet} {o : Offer} {row : Int} {item : Item}

/-! ## From a row to an item -/

theorem itemAt?_isSome (hitem : item ∈ set) (hrow : item.containsRow row = true) :
    (itemAt? row set).isSome = true := by
  induction set with
  | nil => cases hitem
  | cons first rest ih =>
    rw [itemAt?]
    split
    · rfl
    · next hnot =>
      rcases List.mem_cons.mp hitem with rfl | hrest
      · exact absurd hrow hnot
      · rw [Option.isSome_map]
        exact ih hrest

theorem exists_nearest? (hne : set ≠ []) (row : Int) : ∃ x ∈ set, nearest? row set = some x := by
  induction set with
  | nil => exact absurd rfl hne
  | cons first rest ih =>
    rw [nearest?]
    cases rest with
    | nil => exact ⟨first, List.mem_cons_self, rfl⟩
    | cons second rest =>
      obtain ⟨x, hx, hnearest⟩ := ih (by simp)
      rw [hnearest]
      dsimp only
      split
      · exact ⟨x, List.mem_cons_of_mem _ hx, rfl⟩
      · exact ⟨first, List.mem_cons_self, rfl⟩

/-- The row that an item is jumped to is one of the rows. -/
theorem jumpRow_mem (item : Item) (hne : rows ≠ []) :
    1 ≤ jumpRow item rows ∧ jumpRow item rows ≤ rows.length := by
  have hpos : 0 < rows.length := List.length_pos_iff.mpr hne
  rw [jumpRow, if_neg (by simpa using hne)]
  split <;> omega

/-- **A jump lands in the item**, wherever between the first row and the row after the last it
stands. -/
theorem containsRow_jumpRow (hfits : item.Fits rows.length) (hne : rows ≠ []) :
    item.containsRow (jumpRow item rows) = true := by
  obtain ⟨hone, hfirst, hstart, _⟩ := hfits
  have hlast := item.startRow_le_lastRow
  have hpos : 0 < rows.length := List.length_pos_iff.mpr hne
  rw [Item.containsRow, Bool.and_eq_true, decide_eq_true_eq, decide_eq_true_eq, jumpRow,
    if_neg (by simpa using hne)]
  split <;> omega

/-! ## The row of the cursor -/

/-- The cursor of a buffer is on a row. -/
def OnRow (s : Session) (id : String) (row : Int) : Prop :=
  ∃ b, s.buffers.get? id = some b ∧ b.cursor.row = .ok row

theorem Carries.onRow (h : s.Carries id b) (hcursor : b.cursor.row = .ok row) : OnRow s id row := by
  obtain ⟨overlay, hb⟩ := h
  exact ⟨_, hb, hcursor⟩

theorem carries_dismiss (h : s.Carries id b) : (s.dismiss id).Carries id b := by
  have hhidden : ((s.resetController id).hide id).Carries id b :=
    ((drawsOnly_resetController s id).trans (drawsOnly_hide _ id)).carries b h
  exact hhidden

theorem carries_retain (h : s.Carries id b) (c : Context) (shape : Buffer) (left : SuggestionSet) :
    (s.retain id c shape left).1.Carries id b := by
  have hset : ∀ c, (s.setContext id c).Carries id b := fun _ => h
  rw [retain]
  split
  · exact carries_dismiss (hset _)
  · have hpresent := fun c => (drawsOnly_present (s.setContext id c) id).carries b (hset c)
    split
    · next heq => exact of_fst (P := (Carries · id b)) (hpresent _) heq
    · next heq => exact of_fst (P := (Carries · id b)) (hpresent _) heq

/-- An accept that applies an item leaves the buffer that this makes. -/
theorem exists_carries_applyItem {others : SuggestionSet}
    (h : (s.applyItem id c b item others).2 = .ok .applied) :
    ∃ written edit, ({ b with overlay := [] } : Buffer).apply id item = (written, .ok edit) ∧
      (s.applyItem id c b item others).1.Carries id written := by
  rw [applyItem] at h ⊢
  dsimp only at h ⊢
  split at h
  · cases h
  · next written edit happly =>
    rw [happly]
    refine ⟨written, edit, rfl, carries_retain ?_ c written _⟩
    exact carries_of_get? ((Buffers.get?_put ..).trans (if_pos rfl))

/-! ## An accept while something is on offer -/

theorem accept_eq_acceptAt (hb : s.buffers.get? id = some b) (hc : s.context? id = some c)
    (hpresents : Presents c o) (hset : o.sets[o.index]? = some set) (hne : set ≠ []) :
    s.accept id = s.acceptAt id c set b := by
  have hcurrent : c.current? = some set := hpresents.current?.trans hset
  cases set with
  | nil => exact absurd rfl hne
  | cons first rest =>
    rw [accept, hc]
    dsimp only
    rw [hpresents.phase, hcurrent, Buffers.get_of_get? hb]

theorem Standing.current? (h : Standing s id rows (some o)) :
    s.current? id = o.sets[o.index]? := by
  obtain ⟨c, hc, hpresents⟩ := h.context
  rw [Session.current?, hc, Option.bind_some, hpresents.current?]

/-- Over texts a jump comes to stand in the row of its item. -/
theorem jumpIn_texts {texts : List Text} (hne : texts ≠ []) (item : Item)
    (hlines : b.lines = texts.map Value.str) :
    ∃ col, jumpIn item b
      = .ok { b with cursor := .at (jumpRow item b.lines) col, mode := insertMode } := by
  have hrows : b.lines ≠ [] := by
    rw [hlines]
    simpa using hne
  obtain ⟨hone, hle⟩ := jumpRow_mem item hrows
  rw [show b.lines.length = texts.length by rw [hlines, List.length_map]] at hle
  let line := Layout.textAt texts (jumpRow item b.lines)
  have hline : Layout.rowAt b.lines (jumpRow item b.lines) = .ok (.str line) := by
    have hrowAt := Layout.rowAt_texts hone hle
    rwa [← hlines] at hrowAt
  obtain ⟨col, hcursor, -⟩ :=
    Buffer.setCursor_texts hne (jumpRow item b.lines) line.length hlines
  have hrow : min (max 1 (jumpRow item b.lines)) (texts.length : Int) = jumpRow item b.lines := by
    omega
  rw [hrow] at hcursor
  refine ⟨col, ?_⟩
  rw [jumpIn, if_neg (by simpa using hrows), hline]
  show (b.setCursor (jumpRow item b.lines) line.length).bind (fun b => .ok b.startInsert) = _
  rw [hcursor]
  rfl

/-- **Jumping** over texts never fails, and moves the cursor to the row of the item. -/
theorem Standing.jump_eq (h : Standing s id rows (some o)) (hb : s.buffers.get? id = some b)
    (hset : o.sets[o.index]? = some set) (hone : ∀ x ∈ set, 1 ≤ x.startRow) (hne : rows ≠ [])
    (item : Item) :
    ∃ t col, s.jump id item = (t, .ok .jumped) ∧ Standing t id rows (some o) ∧
      t.Carries id { b with cursor := .at (jumpRow item rows) col, mode := insertMode } := by
  obtain ⟨held, hheld, rfl, hmod⟩ := h.holds
  obtain rfl : held = b := Option.some.inj (hheld.symm.trans hb)
  obtain ⟨texts, htexts⟩ := h.texts
  obtain ⟨col, hjump⟩ := jumpIn_texts (by simpa [htexts] using hne) item htexts
  let moved : Buffer :=
    { held with cursor := .at (jumpRow item held.lines) col, mode := insertMode }
  let told : Session := s.log .debug s!"Jumping to suggestion {item.id} at row {item.startRow}"
  have hmodify : told.buffers.modify id (jumpIn item) = .ok (s.buffers.put id moved) :=
    (Buffers.modify_of_get? hb _).trans (by rw [hjump]; rfl)
  let still : Session := ({ told with buffers := s.buffers.put id moved } : Session).endMove id
  have hstill : Standing still id held.lines (some o) :=
    Standing.endMove (h.frame rfl (Buffers.holds_put rfl hmod))
  have hmoved : still.buffers.get? id = some moved := by
    have hbuffers : still.buffers = s.buffers.put id moved := by
      show (Session.endMove _ id).buffers = _
      rw [Session.endMove, changeContext]
      split <;> rfl
    rw [hbuffers]
    exact (Buffers.get?_put ..).trans (if_pos rfl)
  have hok : (still.present id).2 = .ok () := by
    refine present_ok hmoved (Value.isString_of_mem_texts htexts) rfl fun shown hshown => ?_
    rw [hstill.current?, hset, Option.some.injEq] at hshown
    exact hshown ▸ hone
  refine ⟨(still.present id).1, col, ?_, hstill.present,
    (drawsOnly_present still id).carries moved (carries_of_get? hmoved)⟩
  rw [Session.jump, hmodify]
  dsimp only
  split
  · next heq =>
    rw [show still.present id = _ from heq] at hok
    cases hok
  · next heq => rw [show still.present id = _ from heq]

end Session

end GhostEdit
