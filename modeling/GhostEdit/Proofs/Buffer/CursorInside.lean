import GhostEdit.Proofs.Buffer.Texts

/-!
# The cursor inside a buffer

A buffer never runs out of rows, and its cursor is to stand on one of them. The cursor is put into
the rows wherever it is set: by the operation that moves it, and by the one that applies an item,
which moves it at its end. Replacing rows changes only the rows. So the cursor stays inside as long
as every replacement leaves something for it to stand on, and a replacement that does not leaves it
outside (`cursor_stranded`).

## When a replacement leaves the cursor inside

The rows above a replacement stay what they are, so a cursor there is not concerned. A cursor
further down keeps the number of its row and comes to stand on another text, a new one or one that
moved up or down from below. It is inside if there is such a text and it is long enough. A document
that loses all its rows is left with an empty one, on which only the very start of the document is
inside.

## Main definitions

* `Buffer.Spares`: a replacement that leaves a position (`Buffer.Reaches`) inside
* `Buffer.Action`, `Buffer.act`, `Buffer.run`: what is done to a buffer, one action after another
* `Buffer.Made`: a buffer that was just created or opened

## Main results

* `Buffer.reaches_replaceRows_iff`: what a replacement does to a position
* `Buffer.act_regular`: what every action keeps
* `Buffer.act_cursorInside_iff`: what one action does to a cursor inside
* `Buffer.act_refused_iff`: what is refused
* `Buffer.run_cursorInside_iff`: the cursor in every history
-/

namespace GhostEdit

namespace Buffer

/-! ## Positions -/

/-- The replacement of the rows from `start` on, up to but not including `stop`, leaves a position
inside. -/
def Spares (rows : List Value) (row col start stop : Int) (new : List Text) : Prop :=
  row ≤ start ∨
    (∃ line : Text,
      (new.map Value.str ++ rows.drop stop.toNat)[(row - 1 - start).toNat]? = some (.str line) ∧
        col ≤ line.length) ∨
    (start = 0 ∧ new = [] ∧ (rows.length : Int) ≤ stop ∧ row = 1 ∧ col = 0)

variable {rows : List Value} {row col start stop : Int} {new : List Text}

/-- An empty row is only reached at its start. -/
theorem reaches_blank_iff (h1 : 1 ≤ row) (hcol : 0 ≤ col) :
    Reaches [.str []] row col ↔ row = 1 ∧ col = 0 := by
  constructor
  · rintro ⟨-, hrow, -, line, hline, hle⟩
    obtain rfl : row = 1 := by
      rw [List.length_singleton] at hrow
      omega
    cases hline
    exact ⟨rfl, by rw [List.length_nil] at hle; omega⟩
  · rintro ⟨rfl, rfl⟩
    exact ⟨h1, Int.le_refl 1, hcol, [], rfl, Int.le_refl 0⟩

/-- **What a replacement does to a position** that the rows have. -/
theorem reaches_replaceRows_iff (new : List Text) (h : Reaches rows row col) (h0 : 0 ≤ start)
    (hs : start ≤ stop) :
    Reaches (replaceRows start stop (new.map Value.str) rows) row col
      ↔ Spares rows row col start stop new := by
  obtain ⟨h1, hrow, hcol, line, hline, hle⟩ := h
  rw [replaceRows_eq h0 hs]
  by_cases habove : row ≤ start
  · -- the row is one of those that stay
    have hkept : ((padTo start rows).take start.toNat ++ new.map Value.str
        ++ rows.drop stop.toNat)[(row - 1).toNat]? = some (.str line) := by
      have hlen := length_padTo start rows
      rw [List.append_assoc, List.getElem?_append_left (by rw [List.length_take]; omega),
        List.getElem?_take_of_lt (by omega), padTo, List.getElem?_append_left (by omega), hline]
    rw [nonEmpty_of_ne_nil (List.ne_nil_of_mem (List.mem_of_getElem? hkept))]
    exact iff_of_true (reaches_of_getElem? line h1 hcol hkept hle) (.inl habove)
  · rw [padTo_of_le (by omega), List.append_assoc]
    have hlen : (rows.take start.toNat).length = start.toNat := by
      rw [List.length_take]
      omega
    by_cases hempty : rows.take start.toNat ++ (new.map Value.str ++ rows.drop stop.toNat) = []
    · -- nothing is left, and an empty row stands in
      obtain ⟨hfront, hback⟩ := List.append_eq_nil_iff.mp hempty
      obtain ⟨hnew, hrest⟩ := List.append_eq_nil_iff.mp hback
      have hzero : start = 0 := by
        rw [hfront, List.length_nil] at hlen
        omega
      have hall := List.drop_eq_nil_iff.mp hrest
      rw [hempty, show nonEmpty [] = [.str []] from rfl, reaches_blank_iff h1 hcol, Spares, hback]
      constructor
      · exact fun hat => .inr (.inr ⟨hzero, List.map_eq_nil_iff.mp hnew, by omega, hat⟩)
      · rintro (hle | ⟨line, hnone, -⟩ | ⟨-, -, -, hat⟩)
        · exact absurd hle habove
        · cases hnone
        · exact hat
    · have hindex : (rows.take start.toNat
            ++ (new.map Value.str ++ rows.drop stop.toNat))[(row - 1).toNat]?
          = (new.map Value.str ++ rows.drop stop.toNat)[(row - 1 - start).toNat]? := by
        rw [List.getElem?_append_right (by omega), hlen]
        congr 1
        omega
      rw [nonEmpty_of_ne_nil hempty]
      constructor
      · rintro ⟨-, -, -, found, hfound, hreach⟩
        rw [hindex] at hfound
        exact .inr (.inl ⟨found, hfound, hreach⟩)
      · rintro (hle | ⟨found, hfound, hreach⟩ | ⟨hzero, hnew, hall, -⟩)
        · exact absurd hle habove
        · rw [← hindex] at hfound
          exact reaches_of_getElem? found h1 hcol hfound hreach
        · refine absurd ?_ hempty
          rw [hzero, hnew, List.drop_eq_nil_of_le (by omega)]
          rfl

/-! ## Actions -/

/-- What is done to a buffer. -/
inductive Action where
  | setLines (start stop : Int) (new : List Text)
  | setCursor (row col : Int)
  | setMode (mode : String)
  | setModifiable (modifiable : Bool)
  | startInsert
  | setOverlay (marks : List Mark)
  | clearOverlay
  | feedKeys (key : Value)
  | apply (item : Item)

namespace Action

/-- The rows to replace are in order. -/
def InOrder : Action → Prop
  | .setLines start stop _ => 0 ≤ start ∧ start ≤ stop
  | _ => True

/-- Whether an action is meant to change the rows. -/
def writes : Action → Bool
  | .setLines _ _ _ => true
  | .apply _ => true
  | _ => false

/-- Whether an action is meant to put the cursor somewhere. -/
def places : Action → Bool
  | .setCursor _ _ => true
  | .apply _ => true
  | _ => false

/-- An action leaves the cursor of a buffer inside, if it stands inside before. The replacement of
rows is the only one that need not. -/
def Spares (b : Buffer) : Action → Prop
  | .setLines start stop new =>
    b.modifiable = true → ∀ row col, b.cursor = .at row col →
      Buffer.Spares b.lines row col start stop new
  | _ => True

end Action

/-- The buffer after an operation, which stays as it is when the operation fails, and the
failure. -/
def attempt (b : Buffer) : Except Failure Buffer → Buffer × Option Failure
  | .ok changed => (changed, none)
  | .error e => (b, some e)

/-- The buffer after an action, and how the action failed if it did. -/
def act (id : String) (b : Buffer) : Action → Buffer × Option Failure
  | .setLines start stop new => b.attempt (b.setLines id start stop (new.map Value.str))
  | .setCursor row col => b.attempt (b.setCursor row col)
  | .setMode mode => ({ b with mode }, none)
  | .setModifiable modifiable => ({ b with modifiable }, none)
  | .startInsert => (b.startInsert, none)
  | .setOverlay marks => ({ b with overlay := marks }, none)
  | .clearOverlay => ({ b with overlay := [] }, none)
  | .feedKeys key => ({ b with fedKeys := b.fedKeys ++ [key] }, none)
  | .apply item =>
    match b.apply id item with
    | (changed, .ok _) => (changed, none)
    | (changed, .error e) => (changed, some e)

/-- The buffer after one action after another, whether they fail or not. -/
def run (id : String) (b : Buffer) (history : List Action) : Buffer :=
  history.foldl (fun b a => (b.act id a).1) b

theorem run_append (id : String) (b : Buffer) (before after : List Action) :
    run id b (before ++ after) = run id (run id b before) after := List.foldl_append

/-! ## What every action keeps -/

/-- A buffer of texts, with a cursor that is a place and not before the start. -/
structure Regular (b : Buffer) : Prop where
  texts : ∃ texts : List Text, texts ≠ [] ∧ b.lines = texts.map Value.str
  cursor : ∃ row col, b.cursor = .at row col ∧ 1 ≤ row ∧ 0 ≤ col

variable {id : String} {b : Buffer} {a : Action}

theorem Regular.lines_ne_nil (h : b.Regular) : b.lines ≠ [] := by
  obtain ⟨texts, hne, hlines⟩ := h.texts
  rw [hlines]
  exact fun hnil => hne (List.map_eq_nil_iff.mp hnil)

/-- A buffer of texts whose cursor is inside. -/
theorem regular_of_inside {texts : List Text} (hne : texts ≠ [])
    (hlines : b.lines = texts.map Value.str) (h : b.CursorInside) : b.Regular := by
  obtain ⟨row, col, hcursor, h1, -, h0, -⟩ := h
  exact ⟨⟨texts, hne, hlines⟩, row, col, hcursor, h1, h0⟩

/-- Applying an item to a buffer that may be changed: the rows are texts, and the cursor is put into
them. -/
theorem act_apply (h : b.Regular) (hmod : b.modifiable = true) (id : String) (item : Item) :
    (b.act id (.apply item)).2 = none ∧ (b.act id (.apply item)).1.Regular ∧
      (b.act id (.apply item)).1.CursorInside := by
  obtain ⟨texts, -, hlines⟩ := h.texts
  obtain ⟨left, hne, hleft⟩ := applyRows_texts item texts
  obtain ⟨b', happly, hwritten, -, hinside⟩ := apply_texts item id hlines hmod
  have hact : b.act id (.apply item) = (b', none) := by rw [act, happly]
  rw [hlines, hleft] at hwritten
  rw [hact]
  exact ⟨rfl, regular_of_inside hne hwritten hinside, hinside⟩

/-- Moving the cursor. -/
theorem act_setCursor (h : b.Regular) (id : String) (row col : Int) :
    (b.act id (.setCursor row col)).2 = none ∧ (b.act id (.setCursor row col)).1.Regular ∧
      (b.act id (.setCursor row col)).1.CursorInside := by
  obtain ⟨texts, hne, hlines⟩ := h.texts
  obtain ⟨c, hmove, hreach⟩ := setCursor_texts hne row col hlines
  let moved : Buffer := { b with cursor := .at (min (max 1 row) texts.length) c }
  have hinside : moved.CursorInside := ⟨_, c, rfl, hreach⟩
  rw [act, hmove]
  exact ⟨rfl, regular_of_inside hne hlines hinside, hinside⟩

/-- A buffer that must not be changed refuses what would change its rows, and stays as it is. -/
theorem act_of_readOnly (hmod : b.modifiable = false) (hwrites : a.writes = true) :
    b.act id a = (b, some (.readOnly id)) := by
  cases a with
  | setLines start stop new => rw [act, setLines, hmod]; rfl
  | apply item => rw [act, apply, hmod]; rfl
  | _ => cases hwrites

/-- **Every action keeps** that the rows are texts, of which there is one, and that the cursor is
not before the start. -/
theorem act_regular (h : b.Regular) (id : String) (a : Action) : (b.act id a).1.Regular := by
  cases a with
  | setLines start stop new =>
    obtain ⟨texts, -, hlines⟩ := h.texts
    obtain ⟨left, hne, hleft⟩ := replaceRows_texts start stop new texts
    rw [act, setLines]
    split
    · refine ⟨⟨left, hne, ?_⟩, h.cursor⟩
      show replaceRows start stop (new.map Value.str) b.lines = _
      rw [hlines, hleft]
    · exact h
  | setCursor row col => exact (act_setCursor h id row col).2.1
  | apply item =>
    cases hmod : b.modifiable with
    | true => exact (act_apply h hmod id item).2.1
    | false => rw [act_of_readOnly hmod rfl]; exact h
  | setMode | setModifiable | startInsert | setOverlay | clearOverlay | feedKeys =>
    exact ⟨h.texts, h.cursor⟩

/-- **What one action does to a cursor inside**: it stays inside, unless rows are replaced and
nothing is left to stand on. -/
theorem act_cursorInside_iff (h : b.Regular) (hinside : b.CursorInside) (horder : a.InOrder)
    (id : String) : (b.act id a).1.CursorInside ↔ a.Spares b := by
  cases a with
  | setLines start stop new =>
    obtain ⟨row, col, hcursor, hreach⟩ := hinside
    cases hmod : b.modifiable with
    | false =>
      rw [act_of_readOnly hmod rfl]
      exact iff_of_true ⟨row, col, hcursor, hreach⟩ fun hyes => absurd (hmod.symm.trans hyes) nofun
    | true =>
      have hact : (b.act id (.setLines start stop new)).1
          = { b with
              lines := replaceRows start stop (new.map Value.str) b.lines, dirty := true } := by
        rw [act, setLines, if_pos hmod]
        rfl
      have hstep := reaches_replaceRows_iff new hreach horder.1 horder.2
      rw [hact]
      constructor
      · rintro ⟨r, c, hat, hafter⟩ - row' col' hcursor'
        obtain ⟨rfl, rfl⟩ : r = row' ∧ c = col' := by
          simpa using hat.symm.trans hcursor'
        obtain ⟨rfl, rfl⟩ : row = r ∧ col = c := by
          simpa using hcursor.symm.trans hcursor'
        exact hstep.mp hafter
      · exact fun hspares => ⟨row, col, hcursor, hstep.mpr (hspares hmod row col hcursor)⟩
  | setCursor row col => exact iff_of_true (act_setCursor h id row col).2.2 trivial
  | apply item =>
    refine iff_of_true ?_ trivial
    cases hmod : b.modifiable with
    | true => exact (act_apply h hmod id item).2.2
    | false => rw [act_of_readOnly hmod rfl]; exact hinside
  | setMode | setModifiable | startInsert | setOverlay | clearOverlay | feedKeys =>
    exact iff_of_true hinside trivial

/-- **What is refused**: changes of the rows, in a buffer that must not be changed. -/
theorem act_refused_iff (h : b.Regular) {e : Failure} :
    (b.act id a).2 = some e ↔ a.writes = true ∧ b.modifiable = false ∧ e = .readOnly id := by
  by_cases hrefuse : a.writes = true ∧ b.modifiable = false
  · rw [act_of_readOnly hrefuse.2 hrefuse.1]
    constructor
    · exact fun heq => ⟨hrefuse.1, hrefuse.2, (Option.some.inj heq).symm⟩
    · rintro ⟨-, -, rfl⟩
      rfl
  · have hnone : (b.act id a).2 = none := by
      cases a with
      | setLines start stop new =>
        have hmod : b.modifiable = true := by simpa [Action.writes] using hrefuse
        rw [act, setLines, if_pos hmod]
        rfl
      | apply item =>
        have hmod : b.modifiable = true := by simpa [Action.writes] using hrefuse
        exact (act_apply h hmod id item).1
      | setCursor row col => exact (act_setCursor h id row col).1
      | setMode | setModifiable | startInsert | setOverlay | clearOverlay | feedKeys => rfl
    rw [hnone]
    exact ⟨nofun, fun hno => absurd ⟨hno.1, hno.2.1⟩ hrefuse⟩

/-! ## Histories -/

/-- A buffer that was just made: from a text, or from a file that was not open. -/
inductive Made : Buffer → Prop
  | created (t : Text) (filetype : String) (path : Option String) : Made (ofText t filetype path)
  | opened {bs bs' : Buffers} {fs : Files} {cwd : List Text} {p : Path} {id : String} {b : Buffer}
      (hclosed : bs.get? (String.ofList p.toText) = none)
      (hopen : bs.openFile fs cwd p = .ok (bs', id)) (hget : bs'.get? id = some b) : Made b

/-- Either way it has the rows of a text, and its cursor stands at the start. -/
theorem Made.fresh (h : Made b) : ∃ t : Text, b.lines = rowsOf t ∧ b.cursor = .at 1 0 := by
  cases h with
  | created t filetype path => exact ⟨t, rfl, rfl⟩
  | opened hclosed hopen hget =>
    obtain ⟨t, filetype, rfl⟩ := Buffers.exists_put_of_openFile hclosed hopen
    rw [Buffers.get?, Buffers.put, Registry.lookup_put, if_pos rfl] at hget
    cases hget
    exact ⟨t, rfl, rfl⟩

theorem Made.regular (h : Made b) : b.Regular := by
  obtain ⟨t, hlines, hcursor⟩ := h.fresh
  exact ⟨⟨t.lines, Text.pieces_ne_nil _ t, hlines⟩, 1, 0, hcursor, Int.le_refl 1, Int.le_refl 0⟩

theorem Made.cursorInside (h : Made b) : b.CursorInside := by
  obtain ⟨t, hlines, hcursor⟩ := h.fresh
  obtain ⟨line, more, ht⟩ := List.exists_cons_of_ne_nil (Text.pieces_ne_nil '\n' t)
  refine ⟨1, 0, hcursor, reaches_of_getElem? line (Int.le_refl 1) (Int.le_refl 0) ?_ ?_⟩
  · rw [hlines, rowsOf, Text.lines, ht]
    rfl
  · exact Int.natCast_nonneg _

theorem run_regular (h : b.Regular) (id : String) (history : List Action) :
    (run id b history).Regular := by
  induction history generalizing b with
  | nil => exact h
  | cons a rest ih => exact ih (act_regular h id a)

/-- One action more. -/
theorem run_take_succ (id : String) (b : Buffer) {history : List Action} {i : Nat}
    (h : history[i]? = some a) :
    run id b (history.take (i + 1)) = ((run id b (history.take i)).act id a).1 := by
  rw [List.take_add_one, h, run_append]
  rfl

/-- The cursor is inside all along a history exactly when every replacement of rows spares it. The
induction is on the number of actions, as the condition on an action is about the buffer that those
before it have left. -/
theorem run_take_cursorInside_iff (h : b.Regular) (hinside : b.CursorInside) (id : String)
    {history : List Action} (horder : ∀ a ∈ history, a.InOrder) :
    (∀ i, (run id b (history.take i)).CursorInside) ↔
      ∀ i (a : Action), history[i]? = some a → a.Spares (run id b (history.take i)) := by
  have hstep : ∀ i (a : Action), history[i]? = some a → (run id b (history.take i)).CursorInside →
      ((run id b (history.take (i + 1))).CursorInside ↔ a.Spares (run id b (history.take i))) := by
    intro i a ha hbefore
    rw [run_take_succ id b ha]
    exact act_cursorInside_iff (run_regular h id _) hbefore (horder a (List.mem_of_getElem? ha)) id
  constructor
  · exact fun hall i a ha => (hstep i a ha (hall i)).mp (hall (i + 1))
  · intro hspares i
    induction i with
    | zero => exact hinside
    | succ i ih =>
      cases ha : history[i]? with
      | some a => exact (hstep i a ha ih).mpr (hspares i a ha)
      | none =>
        rw [List.take_add_one, ha, Option.toList_none, List.append_nil]
        exact ih

/-- **The cursor in every history** of a buffer that was created or opened.

* There is always a row.
* The cursor is inside all along just if every replacement of rows spares it; no other action takes
  it outside.
* Whatever happened before, an action that puts the cursor somewhere and is not refused leaves it
  inside.
* What is refused are changes of the rows of a buffer that must not be changed, and they change
  nothing. -/
theorem run_cursorInside_iff (id : String) {b : Buffer} (hmade : Made b) (history : List Action)
    (horder : ∀ a ∈ history, a.InOrder) :
    (run id b history).lines ≠ [] ∧
      ((∀ i, (run id b (history.take i)).CursorInside) ↔
        ∀ i (a : Action), history[i]? = some a → a.Spares (run id b (history.take i))) ∧
      (∀ a : Action, a.places = true → ((run id b history).act id a).2 = none →
        ((run id b history).act id a).1.CursorInside) ∧
      ∀ (a : Action) (e : Failure),
        (((run id b history).act id a).2 = some e ↔
          a.writes = true ∧ (run id b history).modifiable = false ∧ e = .readOnly id) ∧
        (((run id b history).act id a).2 = some e →
          ((run id b history).act id a).1 = run id b history) := by
  have hend := run_regular hmade.regular id history
  refine ⟨hend.lines_ne_nil,
    run_take_cursorInside_iff hmade.regular hmade.cursorInside id horder, ?_,
    fun a e => ⟨act_refused_iff hend, fun hrefused => ?_⟩⟩
  · intro a hplaces hdone
    cases a with
    | setCursor row col => exact (act_setCursor hend id row col).2.2
    | apply item =>
      cases hmod : (run id b history).modifiable with
      | true => exact (act_apply hend hmod id item).2.2
      | false =>
        rw [act_of_readOnly hmod rfl] at hdone
        cases hdone
    | _ => cases hplaces
  · obtain ⟨hwrites, hmod, -⟩ := (act_refused_iff hend).mp hrefused
    rw [act_of_readOnly hmod hwrites]

/-- A document whose last rows are replaced by one, with the cursor above them, and which then takes
an item. -/
def editing : List Action :=
  [.setCursor 2 2, .setLines 2 5 ["z".toList], .setMode insertMode,
    .apply { id := 1, content := "x\ny".toList, startRow := 2, endRow := 3, firstRow := 2 }]

/-- The cursor stays inside, and the replacement that follows is refused. -/
theorem editing_inside :
    Made (ofText "a\nbb\nccc".toList "" none) ∧ (∀ a ∈ editing, a.InOrder) ∧
      (run "b" (ofText "a\nbb\nccc".toList "" none) editing).CursorInside ∧
      ((run "b" (ofText "a\nbb\nccc".toList "" none) (editing ++ [.setModifiable false])).act "b"
        (.setLines 0 1 [])).2 = some (.readOnly "b") := by
  have hmade : Made (ofText "a\nbb\nccc".toList "" none) := .created ..
  have horder : ∀ a ∈ editing, a.InOrder := by
    simp [editing, Action.InOrder]
  have horder' : ∀ a ∈ editing ++ [.setModifiable false], a.InOrder := by
    simp [editing, Action.InOrder]
  refine ⟨hmade, horder, ?_, ?_⟩
  · refine (run_cursorInside_iff "b" hmade editing horder).2.1.mpr (fun i a ha => ?_) 4
    match i, ha with
    | 0, ha => cases ha; trivial
    | 1, ha =>
      cases ha
      intro _ row col hcursor
      cases hcursor
      exact .inl (Int.le_refl 2)
    | 2, ha => cases ha; trivial
    | 3, ha => cases ha; trivial
  · exact ((run_cursorInside_iff "b" hmade _ horder').2.2.2 (.setLines 0 1 []) _).1.mpr
      ⟨rfl, rfl, rfl⟩

/-- **The cursor is left outside** when the rows it stands on are taken away: the document is left
with one empty row, and the cursor on the third one. -/
theorem cursor_stranded :
    Made (ofText "a\nbb\nccc".toList "" none) ∧
      (∀ a ∈ [Action.setCursor 3 2, .setLines 0 3 []], a.InOrder) ∧
      (run "b" (ofText "a\nbb\nccc".toList "" none) [.setCursor 3 2]).CursorInside ∧
      ¬ (run "b" (ofText "a\nbb\nccc".toList "" none)
        [.setCursor 3 2, .setLines 0 3 []]).CursorInside := by
  refine ⟨.created .., ?_, ⟨3, 2, rfl, ?_⟩, ?_⟩
  · simp [Action.InOrder]
  · exact reaches_of_getElem? "ccc".toList (by omega) (by omega) rfl (by decide)
  · rintro ⟨row, col, hcursor, -, hrow, -⟩
    cases hcursor
    exact absurd hrow (by decide)

end Buffer

end GhostEdit
