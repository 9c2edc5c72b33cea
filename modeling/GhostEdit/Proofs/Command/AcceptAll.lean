import GhostEdit.Command.Suggest
import GhostEdit.Proofs.Session.AnyOrder
import GhostEdit.Proofs.Session.Jump

/-!
# Accepting everything

`Suggest.acceptAll` accepts until the selected set is used up. Nothing in the loop says that it
ends: an accept may find no item under the cursor and only move the cursor, and two such moves in a
row stop it. This file proves that after a round that took suggestions over neither a second move in
a row nor any outcome but the two expected ones can come about, so that the loop always ends with
every item of the first set applied.

## Where a jump lands

That a jump lands in its item (`Session.containsRow_jumpRow`) needs the item to stand in the rows as
they are, and each accepted item has moved those below it. What is left is placed in the rows after
every accept, though (`Accepting.placed`), and this is all that is needed.

## The bound

`Suggest.acceptWithin` has a bound on its steps. `Suggest.Accepts` says what the loop does without
one, and `Suggest.acceptWithin_of_accepts` that the two agree as soon as the bound exceeds the
number of accepts. So the bound of `Suggest.acceptAll`, two accepts for each item, is never what
ends it.

## Main definitions

* `Suggest.Accepts`: the loop without a bound, with the outcomes of its accepts
* `Suggest.Strides`: outcomes in which each item takes one accept, or a jump and an accept

## Main results

* `Suggest.streamOf_cases`: what a provider streams
* `Suggest.opened_texts`: what the command opens
* `Suggest.exists_accepts`: the loop ends with nothing left
* `Suggest.acceptAll_finishes`
-/

namespace GhostEdit

namespace Session

variable {s t : Session} {id : String} {b : Buffer} {c : Context} {rows : List Value}
  {set : SuggestionSet} {o : Offer} {row : Int} {item : Item}

/-! ## One item -/

variable {document : List Value} {log : List (Nat × Item)} {n : Nat}

/-- **With an item under the cursor**, an accept applies one, and one less is left. -/
theorem Accepting.applies (hplaced : Placed document.length set) (hids : (set.map Item.id).Nodup)
    (h : Accepting set document log rows (some o)) (hstanding : Standing s id rows (some o))
    (hrow : OnRow s id row) (hunder : (itemAt? row (pending (accepted log) set)).isSome = true)
    (hlen : (pending (accepted log) set).length = n + 1) :
    ∃ t log' rows' offer', s.accept id = (t, .ok .applied) ∧
      Accepting set document log' rows' offer' ∧ Standing t id rows' offer' ∧
      (pending (accepted log') set).length = n ∧ ∃ row, OnRow t id row := by
  obtain ⟨hset, hne⟩ := h.left
  obtain ⟨b, hb, hcursor⟩ := hrow
  obtain ⟨c, hc, hpresents⟩ := hstanding.context
  obtain ⟨⟨before, x, after⟩, hfound⟩ := Option.isSome_iff_exists.mp hunder
  obtain ⟨hsplit, _⟩ := itemAt?_eq_some hfound
  have haccept : s.accept id = s.applyItem id c b x (before ++ after) := by
    rw [accept_eq_acceptAt hb hc hpresents hset hne, acceptAt, hcursor]
    dsimp only
    rw [hfound]
  obtain ⟨hnext, houtcome⟩ :=
    hstanding.applyItem hb hpresents (hsplit ▸ h.placed hplaced)
  have heffect : Effect rows (some o) .accept [(o.index, x)] (Buffer.applyRows x rows)
      (o.keep (shiftBelow x x.growth (before ++ after))) :=
    .apply (hset.trans (congrArg some hsplit))
  have hkept := h.step hplaced hids rfl heffect
  obtain ⟨written, _, happly, hwritten⟩ := exists_carries_applyItem houtcome
  obtain ⟨-, landed, col, rfl⟩ := Buffer.apply_eq_ok happly
  refine ⟨_, _, _, _, haccept.trans (Prod.ext rfl houtcome), hkept, hnext, ?_,
    landed, hwritten.onRow rfl⟩
  rw [accepted_append]
  show (pending (accepted log ++ [x.id]) set).length = n
  rw [← shiftBelow_pending hplaced hids hsplit, shiftBelow, List.length_map]
  rw [hsplit, List.length_append, List.length_cons] at hlen
  rw [List.length_append]
  omega

/-- **Without one**, it jumps to one. -/
theorem Accepting.jumps (hplaced : Placed document.length set) (hdocument : document ≠ [])
    (h : Accepting set document log rows (some o)) (hstanding : Standing s id rows (some o))
    (hrow : OnRow s id row) (hunder : itemAt? row (pending (accepted log) set) = none) :
    ∃ t landed, s.accept id = (t, .ok .jumped) ∧ Standing t id rows (some o) ∧
      OnRow t id landed ∧ (itemAt? landed (pending (accepted log) set)).isSome = true := by
  obtain ⟨hset, hne⟩ := h.left
  obtain ⟨b, hb, hcursor⟩ := hrow
  obtain ⟨c, hc, hpresents⟩ := hstanding.context
  obtain ⟨x, hx, hnearest⟩ := exists_nearest? hne row
  have hfits := (h.placed hplaced).fits
  have hrows : rows ≠ [] := by
    rw [h.rewritten]
    exact rewriteRows_ne_nil (hplaced.stacked.sublist (taken_sublist _ _)) hdocument
  have haccept : s.accept id = s.jump id x := by
    rw [accept_eq_acceptAt hb hc hpresents hset hne, acceptAt, hcursor]
    dsimp only
    rw [hunder]
    dsimp only
    rw [hnearest]
  obtain ⟨t, _, hjump, hstays, hlanded⟩ :=
    hstanding.jump_eq hb hset (fun y hy => (hfits y hy).one_le_startRow) hrows x
  exact ⟨t, _, haccept.trans hjump, hstays, hlanded.onRow rfl,
    itemAt?_isSome hx (containsRow_jumpRow (hfits x hx) hrows)⟩

end Session

namespace Suggest

open Console (Run need)
open Session (Outcome)

/-! ## The loop -/

/-- Accept until nothing is left, without a bound on the steps, with the outcomes of the accepts in
order. The flag tells whether the last accept was a jump. -/
inductive Accepts (id : String) :
    Bool → Session → List Outcome → Session → Except Failure (Option Outcome) → Prop
  | done {jumped : Bool} {s : Session} (hnone : (s.current? id).getD [] = []) :
      Accepts id jumped s [] s (.ok none)
  | apply {jumped : Bool} {s t u : Session} {outcomes : List Outcome}
      {result : Except Failure (Option Outcome)} (hsome : (s.current? id).getD [] ≠ [])
      (haccept : s.accept id = (t, .ok .applied)) (hrest : Accepts id false t outcomes u result) :
      Accepts id jumped s (.applied :: outcomes) u result
  | jump {s t u : Session} {outcomes : List Outcome} {result : Except Failure (Option Outcome)}
      (hsome : (s.current? id).getD [] ≠ []) (haccept : s.accept id = (t, .ok .jumped))
      (hrest : Accepts id true t outcomes u result) :
      Accepts id false s (.jumped :: outcomes) u result
  | stop {jumped : Bool} {s t : Session} {outcome : Outcome}
      (hsome : (s.current? id).getD [] ≠ []) (haccept : s.accept id = (t, .ok outcome))
      (hnot : outcome ≠ .applied) (hagain : outcome = .jumped → jumped = true) :
      Accepts id jumped s [outcome] t (.ok (some outcome))
  | fail {jumped : Bool} {s t : Session} {e : Failure} (hsome : (s.current? id).getD [] ≠ [])
      (haccept : s.accept id = (t, .error e)) : Accepts id jumped s [] t (.error e)

variable {id : String} {s u : Session}

/-- One step of the bounded loop while something is left. -/
theorem acceptWithin_of_ne_nil (h : (s.current? id).getD [] ≠ []) (fuel : Nat) (jumped : Bool) :
    acceptWithin id (fuel + 1) jumped s = match s.accept id with
      | (s, .error e) => (s, .error e)
      | (s, .ok .applied) => acceptWithin id fuel false s
      | (s, .ok .jumped) =>
        if jumped then (s, .ok (some .jumped)) else acceptWithin id fuel true s
      | (s, .ok outcome) => (s, .ok (some outcome)) := by
  rw [acceptWithin]
  split
  · next hcurrent =>
    rw [hcurrent] at h
    exact absurd rfl h
  · next hcurrent =>
    rw [hcurrent] at h
    exact absurd rfl h
  · rfl

theorem acceptWithin_of_eq_nil (h : (s.current? id).getD [] = []) (fuel : Nat) (jumped : Bool) :
    acceptWithin id fuel jumped s = (s, .ok none) := by
  cases fuel with
  | zero => rfl
  | succ fuel =>
    rw [acceptWithin]
    split
    · rfl
    · rfl
    · next hcurrent =>
      rw [hcurrent] at h
      cases h

/-- **The bounded loop does what the loop does**, as soon as the bound exceeds the number of
accepts. -/
theorem acceptWithin_of_accepts {jumped : Bool} {outcomes : List Outcome}
    {result : Except Failure (Option Outcome)} (h : Accepts id jumped s outcomes u result)
    {fuel : Nat} (hfuel : outcomes.length < fuel) :
    acceptWithin id fuel jumped s = (u, result) := by
  induction h generalizing fuel with
  | done hnone => exact acceptWithin_of_eq_nil hnone fuel _
  | apply hsome haccept _ ih =>
    obtain ⟨fuel, rfl⟩ := Nat.exists_eq_add_one_of_ne_zero (Nat.ne_zero_of_lt hfuel)
    rw [acceptWithin_of_ne_nil hsome, haccept]
    exact ih (Nat.lt_of_succ_lt_succ hfuel)
  | jump hsome haccept _ ih =>
    obtain ⟨fuel, rfl⟩ := Nat.exists_eq_add_one_of_ne_zero (Nat.ne_zero_of_lt hfuel)
    rw [acceptWithin_of_ne_nil hsome, haccept]
    exact ih (Nat.lt_of_succ_lt_succ hfuel)
  | @stop jumped s t outcome hsome haccept hnot hagain =>
    obtain ⟨fuel, rfl⟩ := Nat.exists_eq_add_one_of_ne_zero (Nat.ne_zero_of_lt hfuel)
    rw [acceptWithin_of_ne_nil hsome, haccept]
    cases outcome with
    | applied => exact absurd rfl hnot
    | jumped => exact if_pos (hagain rfl)
    | fallback => rfl
    | noop => rfl
  | fail hsome haccept =>
    obtain ⟨fuel, rfl⟩ := Nat.exists_eq_add_one_of_ne_zero (Nat.ne_zero_of_lt hfuel)
    rw [acceptWithin_of_ne_nil hsome, haccept]

/-- Outcomes in which each of a number of items takes one accept, or a jump and an accept. -/
inductive Strides : Nat → List Outcome → Prop
  | nil : Strides 0 []
  | apply {n : Nat} {outcomes : List Outcome} (h : Strides n outcomes) :
      Strides (n + 1) (.applied :: outcomes)
  | jump {n : Nat} {outcomes : List Outcome} (h : Strides n outcomes) :
      Strides (n + 1) (.jumped :: .applied :: outcomes)

namespace Strides

variable {n : Nat} {outcomes : List Outcome}

theorem length_le (h : Strides n outcomes) : outcomes.length ≤ 2 * n := by
  induction h with
  | nil => simp
  | apply _ ih =>
    rw [List.length_cons]
    omega
  | jump _ ih =>
    rw [List.length_cons, List.length_cons]
    omega

theorem count_applied (h : Strides n outcomes) : outcomes.count .applied = n := by
  induction h with
  | nil => rfl
  | apply _ ih => rw [List.count_cons_self, ih]
  | jump _ ih => rw [List.count_cons_of_ne (by decide), List.count_cons_self, ih]

/-- Every jump is followed by an item that is applied. -/
theorem applied_after_jumped (h : Strides n outcomes) {i : Nat}
    (hi : outcomes[i]? = some .jumped) : outcomes[i + 1]? = some .applied := by
  induction h generalizing i with
  | nil => cases hi
  | apply _ ih =>
    cases i with
    | zero => cases hi
    | succ i => exact ih hi
  | jump _ ih =>
    cases i with
    | zero => rfl
    | succ i =>
      cases i with
      | zero => cases hi
      | succ i => exact ih hi

end Strides

/-! ## What a provider streams -/

/-- **A provider streams** the pieces of its reply and then its end, or it fails. -/
theorem streamOf_cases (w : World) (settings : Settings) (p : Provider) :
    streamOf w settings p = (w.reply.pieces.filter (!·.isEmpty)).map .chunk ++ [.finished] ∨
      ∃ (pieces : List Text) (e : Failure),
        streamOf w settings p = pieces.map .chunk ++ [.failed e] ∨
        streamOf w settings p = pieces.map .chunk ++ [.broke e] :=
  Guard.call_run ..

theorem streamOf_closed (w : World) (settings : Settings) (p : Provider) :
    StreamEvent.Closed (streamOf w settings p) :=
  Guard.closed_call_run ..

/-- A stream that comes to its end has delivered the whole reply. -/
theorem flatten_of_streamOf {w : World} {settings : Settings} {p : Provider} {pieces : List Text}
    (h : streamOf w settings p = pieces.map .chunk ++ [.finished]) :
    pieces.flatten = w.reply.pieces.flatten := by
  rcases streamOf_cases w settings p with hend | ⟨others, e, hfail | hfail⟩
  · have hsame := (List.append_inj' (hend.symm.trans h) rfl).1
    have hpieces := (List.map_inj_right fun _ _ => StreamEvent.chunk.inj).mp hsame
    rw [← hpieces, List.flatten_filter_not_isEmpty]
  · have hsame := (List.append_inj' (hfail.symm.trans h) rfl).2
    cases hsame
  · have hsame := (List.append_inj' (hfail.symm.trans h) rfl).2
    cases hsame

/-! ## What the command opens -/

/-- A computation that comes to its end does so step by step. -/
theorem exists_of_run_bind {α β : Type} {x : Run α} {f : α → Run β} {r : β} {c c' : Console}
    (h : (x >>= f).run c = (.ok r, c')) :
    ∃ a m, x.run c = (.ok a, m) ∧ (f a).run m = (.ok r, c') := by
  have hbind : (x >>= f).run c = (ExceptT.bindCont f (x.run c).1) (x.run c).2 := rfl
  rw [hbind] at h
  generalize x.run c = result at h
  obtain ⟨outcome, m⟩ := result
  cases outcome with
  | error e => cases h
  | ok a => exact ⟨a, m, rfl, h⟩

theorem eq_ok_of_run_need {α : Type} {x : Except Failure α} {a : α} {c c' : Console}
    (h : (need x).run c = (.ok a, c')) : x = .ok a := by
  cases x with
  | error e => cases h
  | ok b => cases h; rfl

/-- A file that is opened first gives a buffer of texts that can be edited. -/
theorem openFile_texts {files : Files} {cwd : List Text} {path : Path} {bs : Buffers} {id : String}
    (h : ({} : Buffers).openFile files cwd path = .ok (bs, id)) {b : Buffer}
    (hb : bs.get? id = some b) :
    b.modifiable = true ∧ ∃ texts : List Text, b.lines = texts.map Value.str := by
  obtain ⟨t, filetype, rfl⟩ := Buffers.exists_put_of_openFile rfl h
  rw [Buffers.get?_put, if_pos rfl] at hb
  cases hb
  exact ⟨rfl, t.lines, rfl⟩

/-- A file that is opened by the command is open, with the cursor put somewhere. -/
theorem exists_of_openFile {w : World} {o : SuggestOptions} {files : Files} {bs : Buffers}
    {id : String} {c c' : Console} (h : (openFile w o files).run c = (.ok (bs, id), c')) :
    ∃ (opened : Buffers) (b moved : Buffer) (row col : Int),
      ({} : Buffers).openFile files w.directory o.path = .ok (opened, id) ∧
      opened.get? id = some b ∧ b.setCursor row col = .ok moved ∧
      bs = opened.put id moved.startInsert := by
  rw [openFile] at h
  obtain ⟨⟨opened, name⟩, m, hopen, h⟩ := exists_of_run_bind h
  obtain ⟨b, m', hget, h⟩ := exists_of_run_bind h
  dsimp only at h
  split at h
  · obtain ⟨_, _, _, h⟩ := exists_of_run_bind h
    obtain ⟨_, _, hstop, _⟩ := exists_of_run_bind h
    cases hstop
  · obtain ⟨row, _, _, h⟩ := exists_of_run_bind h
    obtain ⟨ending, _, _, h⟩ := exists_of_run_bind h
    obtain ⟨moved, _, hmoved, h⟩ := exists_of_run_bind h
    cases h
    exact ⟨opened, b, moved, _, _, eq_ok_of_run_need hopen,
      Buffers.get?_of_get (eq_ok_of_run_need hget), eq_ok_of_run_need hmoved, rfl⟩

/-- **What the command opens** is a buffer of texts that can be edited. -/
theorem opened_texts {w : World} {o : SuggestOptions} {files : Files} {bs : Buffers} {id : String}
    {c c' : Console} (h : (openFile w o files).run c = (.ok (bs, id), c')) :
    ∃ (b : Buffer) (texts : List Text),
      bs.get? id = some b ∧ b.lines = texts.map Value.str ∧ b.modifiable = true := by
  obtain ⟨opened, b, moved, _, _, hopen, hb, hmoved, rfl⟩ := exists_of_openFile h
  obtain ⟨hmod, texts, htexts⟩ := openFile_texts hopen hb
  obtain ⟨_, _, rfl⟩ := Buffer.setCursor_eq_ok hmoved
  exact ⟨_, texts, (Buffers.get?_put ..).trans (if_pos rfl), htexts, hmod⟩

/-! ## The whole set -/

variable {set : SuggestionSet} {document rows : List Value} {log : List (Nat × Item)}
  {offer : Option Session.Offer}

/-- **The loop ends with nothing left**, from wherever the cursor is. The induction is on the number
of items left: with one under the cursor an accept does, and else a jump comes before it. -/
theorem exists_accepts (hplaced : Placed document.length set) (hids : (set.map Item.id).Nodup)
    (hdocument : document ≠ []) {n : Nat} (h : Session.Accepting set document log rows offer)
    (hstanding : Session.Standing s id rows offer) {row : Int} (hrow : s.OnRow id row)
    (hlen : (pending (Session.accepted log) set).length = n) :
    ∃ outcomes u, Accepts id false s outcomes u (.ok none) ∧ Strides n outcomes ∧
      u.context? id = none ∧ u.buffers.Holds id (rewriteRows set document) := by
  induction n generalizing s log rows offer row with
  | zero =>
    have hnil := List.length_eq_zero_iff.mp hlen
    cases offer with
    | some o => exact absurd hnil h.left.2
    | none =>
      have hnone : s.context? id = none := hstanding.context
      refine ⟨[], s, .done ?_, .nil, hnone, ?_⟩
      · rw [Session.current?, hnone]
        rfl
      · rw [← taken_eq_self (mem_of_pendingFrom_eq_nil hnil), ← h.rewritten]
        exact hstanding.holds
  | succ n ih =>
    cases offer with
    | none =>
      rw [show pending (Session.accepted log) set = [] from h.left] at hlen
      cases hlen
    | some o =>
      have hsome : ∀ {t : Session}, Session.Standing t id rows (some o) →
          (t.current? id).getD [] ≠ [] := by
        intro t ht
        rw [ht.current?, h.left.1]
        exact h.left.2
      cases hunder : Session.itemAt? row (pending (Session.accepted log) set) with
      | some found =>
        obtain ⟨t, log', rows', offer', haccept, hkept, hnext, hless, _, hrow'⟩ :=
          h.applies hplaced hids hstanding hrow (by rw [hunder]; rfl) hlen
        obtain ⟨outcomes, u, hloop, hstrides, hend⟩ := ih hkept hnext hrow' hless
        exact ⟨_, u, .apply (hsome hstanding) haccept hloop, .apply hstrides, hend⟩
      | none =>
        obtain ⟨m, landed, hjump, hstays, hlanded, hthere⟩ :=
          h.jumps hplaced hdocument hstanding hrow hunder
        obtain ⟨t, log', rows', offer', haccept, hkept, hnext, hless, _, hrow'⟩ :=
          h.applies hplaced hids hstays hlanded hthere hlen
        obtain ⟨outcomes, u, hloop, hstrides, hend⟩ := ih hkept hnext hrow' hless
        exact ⟨_, u, .jump (hsome hstanding) hjump (.apply (hsome hstays) haccept hloop),
          .jump hstrides, hend⟩

variable {t : Session} {b : Buffer} {c : Context} {texts : List Text} {answer : Text}
  {others : List SuggestionSet} {w : World} {settings : Settings} {p : Provider}

/-- From a buffer of texts in which a set of an answer is selected, the loop ends, within the bound
and without it. -/
theorem exists_acceptAll (hb : s.buffers.get? id = some b)
    (hlines : b.lines = texts.map Value.str) (hmod : b.modifiable = true) (hne : b.lines ≠ [])
    {row : Int} (hcursor : b.cursor.row = .ok row)
    (hparse : Answer.parse answer texts = .ok (set :: others)) (hc : s.context? id = some c)
    (hready : c.phase = .ready) (hcurrent : c.current? = some set) :
    ∃ outcomes u, Accepts id false s outcomes u (.ok none) ∧ acceptAll s id = (u, .ok none) ∧
      Strides set.length outcomes ∧ u.context? id = none ∧
      u.buffers.Holds id (rewriteRows set (texts.map Value.str)) := by
  have hplaced : Placed (texts.map Value.str).length set := by
    rw [List.length_map]
    exact Answer.parse_placed hparse List.mem_cons_self
  have hids := Answer.ids_nodup_of_parse hparse List.mem_cons_self
  obtain ⟨o, _, ho, hstanding⟩ := Session.standing_of_ready hb hlines hmod hc hready hcurrent
  have hstart : Session.Accepting set (texts.map Value.str) [] (texts.map Value.str) (some o) :=
    .start ho (Answer.exists_assemble_of_mem_parse hparse List.mem_cons_self).1
  obtain ⟨outcomes, u, hloop, hstrides, hend⟩ := exists_accepts hplaced hids (hlines ▸ hne) hstart
    hstanding ⟨b, hb, hcursor⟩ (congrArg List.length (pending_nil_left set))
  refine ⟨outcomes, u, hloop, acceptWithin_of_accepts hloop ?_, hstrides, hend⟩
  rw [hstanding.current?, ho]
  exact Nat.lt_succ_of_le hstrides.length_le

/-- **Accepting everything finishes the first set.** A buffer of texts that can be edited, such as
the command opens, has its cursor anywhere, and a round with whatever the provider streams took
suggestions over. Then the loop ends: it accepts at most twice for each item of the first set, every
jump is followed by an item that is applied, each item is applied, and no other outcome is told. The
suggestions are gone after it, and the document is the one that was opened, rewritten at once by the
first set. -/
theorem acceptAll_finishes (hnumbers : ∀ r ∈ s.requests, r.id ≤ s.lastRequest)
    (hb : s.buffers.get? id = some b) (hlines : b.lines = texts.map Value.str)
    (hmod : b.modifiable = true)
    (hround : s.round id (fun _ => streamOf w settings p) = (t, .ok true))
    (journal : List Entry) :
    ∃ (answer : Text) (set : SuggestionSet) (others : List SuggestionSet),
      (s.stored? id = some answer ∨ answer = w.reply.pieces.flatten) ∧
      Answer.parse answer texts = .ok (set :: others) ∧
      (t.context id).sets = set :: others ∧
      ∃ (outcomes : List Outcome) (u : Session),
        Accepts id false { t with journal } outcomes u (.ok none) ∧
        acceptAll { t with journal } id = (u, .ok none) ∧
        outcomes.length ≤ 2 * set.length ∧
        outcomes.count .applied = set.length ∧
        (∀ i, outcomes[i]? = some .jumped → outcomes[i + 1]? = some .applied) ∧
        u.context? id = none ∧
        u.buffers.Holds id (rewriteRows set (texts.map Value.str)) := by
  obtain ⟨row, col, held, answer, hpos, htook, horigin⟩ :=
    Session.took_round hnumbers (fun _ => streamOf_closed w settings p) hround
  obtain ⟨hheld, hne, hcursor⟩ := Session.position_eq_ok hpos
  obtain rfl : held = b := Option.some.inj (hheld.symm.trans hb)
  obtain ⟨c, hc, hready, _, hindex, hsets, hparse⟩ := htook.offered
  obtain ⟨overlay, hkept⟩ := htook.carries
  obtain ⟨set, others, hsplit⟩ := List.exists_cons_of_ne_nil hsets
  have hrows : held.lines.map Value.plain = texts := by
    rw [hlines, List.map_map]
    exact List.map_id texts
  rw [hrows, hsplit] at hparse
  have hcurrent : c.current? = some set := by
    rw [Context.current?, hindex, hsplit]
    rfl
  obtain ⟨outcomes, u, hloop, hall, hstrides, hend⟩ := exists_acceptAll (s := { t with journal })
    hkept hlines hmod hne hcursor hparse hc hready hcurrent
  refine ⟨answer, set, others, ?_, hparse, ?_, outcomes, u, hloop, hall, hstrides.length_le,
    hstrides.count_applied, fun _ => hstrides.applied_after_jumped, hend⟩
  · rcases horigin with hstored | ⟨messages, pieces, hstream, rfl⟩
    · exact .inl hstored
    · exact .inr (flatten_of_streamOf hstream)
  · rw [Session.context, hc]
    exact hsplit

/-- A new session over a document of five rows, with the cursor in the first. -/
def pages : Session :=
  { (Session.new default "local" .zero).toOption.getD default with
    buffers :=
      ⟨[("pages",
        { lines := [['a'], ['b'], ['c'], ['d'], ['e']].map Value.str
          cursor := .at 1 1
          mode := insertMode })]⟩ }

/-- A world in which the provider replies in two pieces, with items for the first and the last row
of `pages`. -/
def pageWorld : World :=
  { (default : World) with
    reply :=
      { pieces :=
          [("[\x7b\"content\": \"x\\ny\", \"start_row\": 1, \"end_row\": 1\x7d, ").toList,
            ("\x7b\"content\": \"z\", \"start_row\": 5, \"end_row\": 5\x7d]").toList] } }

/-- The provider that is asked about `pages`. -/
def pageProvider : Provider := { (default : Provider) with available := true }

/-- The set of the reply. -/
def pageSet : SuggestionSet := [⟨1, ['x', '\n', 'y'], 1, 1, 1⟩, ⟨2, ['z'], 5, 5, 5⟩]

/-- The session after a round. -/
def answered : Session :=
  (pages.round "pages" fun _ => streamOf pageWorld default pageProvider).1

/-- The first item leaves the cursor far from the second, which has moved down by a row. -/
theorem acceptAll_answered :
    (pages.round "pages" fun _ => streamOf pageWorld default pageProvider) = (answered, .ok true) ∧
      ∃ outcomes u, Accepts "pages" false { answered with journal := [] } outcomes u (.ok none) ∧
        acceptAll { answered with journal := [] } "pages" = (u, .ok none) ∧
        outcomes.length ≤ 4 ∧ outcomes.count .applied = 2 ∧ u.context? "pages" = none ∧
        u.buffers.Holds "pages" ([['x'], ['y'], ['b'], ['c'], ['d'], ['z']].map Value.str) := by
  have hcommitted : (pages.round "pages" fun _ => streamOf pageWorld default pageProvider).2
      = .ok true := Answer.eq_ok_of_toOption (by decide +kernel)
  have hround : (pages.round "pages" fun _ => streamOf pageWorld default pageProvider)
      = (answered, .ok true) := by
    rw [answered, ← hcommitted]
  have hpage : (answered.context "pages").sets = [pageSet] := by decide +kernel
  have hrows : rewriteRows pageSet ([['a'], ['b'], ['c'], ['d'], ['e']].map Value.str)
      = [['x'], ['y'], ['b'], ['c'], ['d'], ['z']].map Value.str := rfl
  have hnumbers : ∀ r ∈ pages.requests, r.id ≤ pages.lastRequest := by
    intro r hr
    cases hr
  obtain ⟨_, set, others, _, _, hsets, outcomes, u, hloop, hall, hlen, hcount, _, hend⟩ :=
    acceptAll_finishes (s := pages) hnumbers rfl rfl rfl hround []
  obtain ⟨rfl, -⟩ := List.cons.inj (hpage.symm.trans hsets)
  rw [hrows] at hend
  exact ⟨hround, outcomes, u, hloop, hall, hlen, hcount, hend⟩

end Suggest

end GhostEdit
