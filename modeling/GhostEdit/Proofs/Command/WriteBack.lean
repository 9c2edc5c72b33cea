import GhostEdit.Command.Suggest
import GhostEdit.Proofs.Buffer.Tracking
import GhostEdit.Proofs.Command.AcceptAll
import GhostEdit.Proofs.Files.Writing
import GhostEdit.Proofs.Overlay.Preview
import GhostEdit.Proofs.Session.CacheHit
import GhostEdit.Proofs.Session.Shown
import GhostEdit.Proofs.Suggestion.Trimming

/-!
# Writing accepted suggestions back

A command that accepts everything reads a file, asks for suggestions, rewrites the rows by the first
set of the reply and may write them back. Only its last step touches the files, and it does so after
everything that can fail. So a run is walked through step by step: each step but the last leaves the
files alone (`Console.Quiet`), and the run ends there or goes on.

## What is lost

The rows of a buffer do not tell how the rows of its file ended, and what is written ends all of
them with line feeds. `Spares` says what becomes of a row that no item replaces: it keeps its text,
it ends with a line feed if a row follows, and so it is unchanged just if it ended so before.

A reply may state contents that have no encoding, with half of a pair of code units in them. Items
are texts and do not keep it, so that what is said here is said of replies whose contents are texts
(`Answer.Textual`). How a command line is read and how a review goes is left open: the options and
the reviewer are any.

## Main definitions

* `Session.Belongs`: the file of a buffer
* `Console.Quiet`, `Console.Leads`: computations that leave the files alone
* `Answer.Textual`, `Answer.Proposes`: the contents of a reply
* `Spares`: what becomes of the rows that no item replaces

## Main results

* `Session.Belongs.accepts`: accepting leaves a buffer with its file
* `Suggest.run_cases`: what a run goes through
* `Suggest.run_writes`: what is written back
-/

namespace GhostEdit

/-! ## The file of a buffer -/

namespace Session

variable {s t u : Session} {id : String} {b : Buffer} {item : Item} {path : Option String}

/-- The buffer with a name is that of a file. -/
def Belongs (s : Session) (id : String) (path : Option String) : Prop :=
  ∃ b, s.Carries id b ∧ b.path = path

theorem belongs_of_get? (hb : s.buffers.get? id = some b) (hpath : b.path = path) :
    s.Belongs id path :=
  ⟨b, carries_of_get? hb, hpath⟩

theorem Belongs.path_eq (h : s.Belongs id path) (hb : s.buffers.get? id = some b) :
    b.path = path := by
  obtain ⟨held, ⟨overlay, hheld⟩, hpath⟩ := h
  obtain rfl : { held with overlay } = b := Option.some.inj (hheld.symm.trans hb)
  exact hpath

theorem Belongs.keeps (h : s.Belongs id path) (hkeeps : Keeps id s t) : t.Belongs id path := by
  obtain ⟨b, hb, hpath⟩ := h
  exact ⟨b, hkeeps.carries b hb, hpath⟩

/-- Jumping moves a cursor at most. -/
theorem Belongs.jump (h : s.Belongs id path) (item : Item) : (s.jump id item).1.Belongs id path := by
  rw [Session.jump]
  split
  · exact h
  · next buffers hbs =>
    obtain ⟨held, ⟨overlay, hheld⟩, hpath⟩ := h
    obtain ⟨moved, hmoved, rfl⟩ :=
      map_eq_ok ((Buffers.modify_of_get? hheld _).symm.trans hbs)
    have hmovedpath : moved.path = path := by
      obtain ⟨cursor, hcursor⟩ := jumpIn_eq_ok hmoved
      rw [hcursor]
      exact hpath
    have hput : ({ s.log .debug s!"Jumping to suggestion {item.id} at row {item.startRow}"
        with buffers := s.buffers.put id moved } : Session).Belongs id path :=
      belongs_of_get? ((Buffers.get?_put ..).trans (if_pos rfl)) hmovedpath
    have hended := hput.keeps
      (drawsOnly_changeContext _ fun c => { c with moving := false }).toKeeps
    have hpresented := hended.keeps (drawsOnly_present _ id).toKeeps
    split
    · next heq => exact of_fst (P := (Belongs · id path)) hpresented heq
    · next heq => exact of_fst (P := (Belongs · id path)) hpresented heq

theorem eq_applied_of_applyItem {c : Context} {others : SuggestionSet} {outcome : Outcome}
    (h : (s.applyItem id c b item others).2 = .ok outcome) : outcome = .applied := by
  rw [applyItem] at h
  dsimp only at h
  split at h
  · cases h
  · rw [retain] at h
    split at h
    · cases h
      rfl
    · split at h
      · cases h
      · cases h
        rfl

/-- Accepting in a buffer leaves it with its file. -/
theorem belongs_acceptAt {c : Context} {set : SuggestionSet} {outcome : Outcome}
    (hb : s.buffers.get? id = some b) (hpath : b.path = path)
    (haccept : s.acceptAt id c set b = (t, .ok outcome)) : t.Belongs id path := by
  cases hrow : b.cursor.row with
  | error e =>
    rw [acceptAt, hrow] at haccept
    cases haccept
  | ok row =>
    cases hfound : itemAt? row set with
    | some found =>
      obtain ⟨before, x, after⟩ := found
      have heq : s.acceptAt id c set b = s.applyItem id c b x (before ++ after) := by
        rw [acceptAt, hrow]
        dsimp only
        rw [hfound]
      rw [heq] at haccept
      have hsnd : (s.applyItem id c b x (before ++ after)).2 = .ok outcome := by rw [haccept]
      obtain rfl := eq_applied_of_applyItem hsnd
      obtain ⟨written, edit, happly, hwritten⟩ := exists_carries_applyItem hsnd
      rw [haccept] at hwritten
      obtain ⟨-, _, _, rfl⟩ := Buffer.apply_eq_ok happly
      exact ⟨_, hwritten, hpath⟩
    | none =>
      rw [acceptAt, hrow] at haccept
      dsimp only at haccept
      rw [hfound] at haccept
      dsimp only at haccept
      split at haccept
      · next x _ =>
        have hjumped := (belongs_of_get? hb hpath).jump x
        rwa [haccept] at hjumped
      · cases haccept
        exact belongs_of_get? hb hpath

/-- An accept that does something leaves the buffer with its file. -/
theorem Belongs.accept {outcome : Outcome} (h : s.Belongs id path)
    (haccept : s.accept id = (t, .ok outcome)) (houtcome : outcome = .applied ∨ outcome = .jumped) :
    t.Belongs id path := by
  obtain ⟨held, ⟨overlay, hheld⟩, hpath⟩ := h
  have hback : s.handBack id ≠ (t, .ok outcome) := by
    intro heq
    have hsnd := handBack_snd hheld
    rw [heq] at hsnd
    rcases houtcome with rfl | rfl <;> simp at hsnd
  rw [Session.accept, Buffers.get_of_get? hheld] at haccept
  split at haccept
  · exact absurd haccept hback
  · split at haccept
    · have haccepted : t.Belongs id path := belongs_acceptAt hheld hpath haccept
      exact haccepted
    · exact absurd haccept hback

/-- Accepting until nothing is left leaves the buffer with its file. -/
theorem Belongs.accepts {jumped : Bool} {outcomes : List Outcome}
    {result : Except Failure (Option Outcome)} (h : s.Belongs id path)
    (haccepts : Suggest.Accepts id jumped s outcomes u result) (hend : result = .ok none) :
    u.Belongs id path := by
  induction haccepts with
  | done _ => exact h
  | apply _ haccept _ ih => exact ih (h.accept haccept (.inl rfl)) hend
  | jump _ haccept _ ih => exact ih (h.accept haccept (.inr rfl)) hend
  | stop _ _ _ _ => cases hend
  | fail _ _ => cases hend

end Session

/-! ## Computations that leave the files alone -/

namespace Console

variable {α β : Type} {x : Run α} {f : α → Run β} {c c' : Console} {files : Files}
  {r : Except Stop β}

/-- Whatever comes of it, a computation leaves the files as they are. -/
def Quiet (x : Run α) : Prop := ∀ c, (x.run c).2.files = c.files

theorem quiet_pure (a : α) : Quiet (pure a) := fun _ => rfl

theorem quiet_need (x : Except Failure α) : Quiet (need x) := by
  intro c
  cases x <;> rfl

theorem quiet_put (t : Text) : Quiet (put t) := fun _ => rfl

theorem quiet_putError (t : Text) : Quiet (putError t) := fun _ => rfl

theorem Quiet.bind (hx : Quiet x) (hf : ∀ a, Quiet (f a)) : Quiet (x >>= f) := by
  intro c
  have hbind : (x >>= f).run c = (ExceptT.bindCont f (x.run c).1) (x.run c).2 := rfl
  rw [hbind, ← hx c]
  cases (x.run c).1 with
  | error e => rfl
  | ok a => exact hf a _

theorem quiet_reportEntry (stamp : String) (level : Int) (e : Entry) :
    Quiet (reportEntry stamp level e) := by
  cases e with
  | notice message _ => exact quiet_putError _
  | log r =>
    rw [reportEntry]
    split
    · exact quiet_putError _
    · exact quiet_pure ()

theorem quiet_report (stamp : String) (level : Int) (entries : List Entry) :
    Quiet (report stamp level entries) := by
  induction entries with
  | nil => exact quiet_pure ()
  | cons e rest ih => exact (quiet_reportEntry stamp level e).bind fun _ => ih

/-- A computation that starts quietly leaves the files as they are, or goes on. -/
theorem Quiet.run_bind (hx : Quiet x) (hc : c.files = files) (h : (x >>= f).run c = (r, c')) :
    c'.files = files ∨
      ∃ a m, x.run c = (.ok a, m) ∧ m.files = files ∧ (f a).run m = (r, c') := by
  have hfiles := (hx c).trans hc
  have hbind : (x >>= f).run c = (ExceptT.bindCont f (x.run c).1) (x.run c).2 := rfl
  rw [hbind] at h
  generalize x.run c = result at h hfiles
  obtain ⟨outcome, m⟩ := result
  cases outcome with
  | error e =>
    cases h
    exact .inl hfiles
  | ok a => exact .inr ⟨a, m, rfl, hfiles, h⟩

/-- A computation leaves the files as they are and ends, or it goes on as another one. -/
def Leads (x y : Run β) : Prop :=
  ∀ c, (x.run c).2.files = c.files ∨ ∃ m, m.files = c.files ∧ x.run c = y.run m

theorem Leads.refl (x : Run β) : Leads x x := fun c => .inr ⟨c, rfl, rfl⟩

theorem Leads.ite {condition : Prop} [Decidable condition] {x y z : Run β} (hx : Leads x z)
    (hy : Leads y z) : Leads (if condition then x else y) z := by
  split
  · exact hx
  · exact hy

theorem leads_stop (n : Nat) (f : α → Run β) (y : Run β) : Leads (stop n >>= f) y :=
  fun _ => .inl rfl

theorem Quiet.leads {y : Run β} (hx : Quiet x) (hf : ∀ a, Leads (f a) y) : Leads (x >>= f) y := by
  intro c
  generalize hresult : (x >>= f).run c = result
  obtain ⟨r, c'⟩ := result
  obtain hsame | ⟨a, m, _, hm, h⟩ := hx.run_bind rfl hresult
  · exact .inl hsame
  obtain hend | ⟨n, hn, hgo⟩ := hf a m
  · rw [h] at hend
    exact .inl (hend.trans hm)
  · exact .inr ⟨n, hn.trans hm, h.symm.trans hgo⟩

theorem Leads.run {x y : Run β} (hx : Leads x y) (hc : c.files = files) (h : x.run c = (r, c')) :
    c'.files = files ∨ ∃ m, m.files = files ∧ y.run m = (r, c') := by
  obtain hend | ⟨m, hm, hgo⟩ := hx c
  · rw [h] at hend
    exact .inl (hend.trans hc)
  · exact .inr ⟨m, hm.trans hc, hgo.symm.trans h⟩

end Console

namespace Suggest

open Console

variable {w : World} {o : SuggestOptions} {files : Files} {c c' : Console} {s t : Session}
  {id : String} {b : Buffer} {p : Path} {texts : List Text} {r : Except Stop Unit}

/-- The end of a run leaves the files as they are, or it saves the buffer. -/
theorem finish_cases (hfiles : c.files = files) (hplain : p.Plain)
    (hb : s.buffers.get? id = some b) (hpath : b.path = some (String.ofList p.toText))
    (hlines : b.lines = texts.map Value.str) {old : List UInt8}
    (hread : files.read w.directory p = .ok old) (h : (finish w o s id).run c = (r, c')) :
    c'.files = files ∨
      r = .ok () ∧ files.Replaces c'.files w.directory p (Utf8.bytes (Text.unlines texts)) := by
  rw [finish] at h
  obtain hsame | ⟨held, m, hheld, hm, h⟩ := (quiet_need _).run_bind hfiles h
  · exact .inl hsame
  obtain hsame | ⟨_, m, _, hm, h⟩ := (quiet_put _).run_bind hm h
  · exact .inl hsame
  obtain hsame | ⟨codes, m, _, hm, h⟩ := (quiet_need _).run_bind hm h
  · exact .inl hsame
  obtain hsame | ⟨t, m, _, hm, h⟩ := (quiet_need _).run_bind hm h
  · exact .inl hsame
  obtain hsame | ⟨_, m, _, hm, h⟩ := (quiet_put _).run_bind hm h
  · exact .inl hsame
  split at h
  · obtain hsame | ⟨here, _, hhere, hm, h⟩ := Quiet.run_bind (x := get) (fun _ => rfl) hm h
    · exact .inl hsame
    cases hhere
    rcases hsave : s.buffers.save m.files w.directory id with ⟨written, saved⟩
    rw [hsave] at h
    rw [hm] at hsave
    obtain ⟨⟨e, rfl⟩, rfl⟩ | ⟨⟨bs, shown, rfl⟩, hreplaces⟩ :=
      Buffers.save_cases hplain hb hpath hlines hread hsave
    · cases h
      exact .inl rfl
    · cases h
      exact .inr ⟨rfl, hreplaces⟩
  · cases h
    exact .inl hm

/-- Without a review, the command ends or goes on with the session in which nothing is left. -/
theorem choose_cases {reviewer : Reviewer} {level : Int} (halone : o.interactive = false)
    (haccept : acceptAll s id = (t, .ok none)) {f : Session → Run Unit} (hfiles : c.files = files)
    (h : (choose w o reviewer level s id >>= f).run c = (r, c')) :
    c'.files = files ∨ ∃ m, m.files = files ∧ (f t).run m = (r, c') := by
  cases hall : o.acceptAll with
  | false =>
    have hchoose : choose w o reviewer level s id = stop 0 := by
      rw [choose, halone, hall]
      rfl
    rw [hchoose] at h
    cases h
    exact .inl hfiles
  | true =>
    have hchoose : choose w o reviewer level s id = (do
        report w.stamp level t.journal
        pure t) := by
      rw [choose, halone, hall, haccept]
      rfl
    rw [hchoose] at h
    obtain hsame | ⟨_, m, hrun, hm, h⟩ :=
      ((quiet_report _ _ _).bind fun _ => quiet_pure _).run_bind hfiles h
    · exact .inl hsame
    obtain ⟨_, _, _, hrun⟩ := exists_of_run_bind hrun
    cases hrun
    exact .inr ⟨m, hm, h⟩

theorem quiet_openFile (w : World) (o : SuggestOptions) (files : Files) :
    Quiet (openFile w o files) := by
  rw [openFile]
  refine (quiet_need _).bind fun opened => (quiet_need _).bind fun b => ?_
  have hrest : Quiet (do
      let row ← need (Layout.rowAt b.lines o.line)
      let ending ← need row.length
      let b ← need (b.setCursor o.line (o.col.getD ending))
      pure (opened.1.put opened.2 b.startInsert, opened.2)) :=
    (quiet_need _).bind fun _ => (quiet_need _).bind fun _ => (quiet_need _).bind fun _ =>
      quiet_pure _
  dsimp only
  split
  · exact (quiet_putError _).bind fun _ _ => rfl
  · exact hrest

theorem quiet_chooseProvider (w : World) (settings : Settings) (level : Int) :
    Quiet (chooseProvider w settings level) := by
  rw [chooseProvider]
  refine (quiet_report _ _ _).bind fun _ => ?_
  split
  · exact quiet_pure _
  · exact (quiet_putError _).bind fun _ _ => rfl
  · exact fun _ => rfl

/-- **A run** ends without touching a file, or a round in a new session with the file open took
suggestions over, and the user chooses from these. -/
theorem run_cases {reviewer : Reviewer} (h : (run w o reviewer).run c = (r, c')) :
    c'.files = c.files ∨ ∃ (opened : Buffers) (id : String) (settings : Settings) (p : Provider)
      (s t : Session) (rules : Option IgnoreRules) (level : Int) (m m' n : Console),
      (openFile w o c.files).run m = (.ok (opened, id), m') ∧
      Session.new settings p.name .zero = .ok s ∧
      ({ s with buffers := opened, rules, directory := w.cwd } : Session).round id
        (fun _ => streamOf w settings p) = (t, .ok true) ∧
      n.files = c.files ∧
      (choose w o reviewer level { t with journal := [] } id >>= fun s => finish w o s id).run n
        = (r, c') := by
  rw [run] at h
  obtain hsame | ⟨start, _, hget, hm, h⟩ := Quiet.run_bind (x := get) (fun _ => rfl) rfl h
  · exact .inl hsame
  cases hget
  obtain hsame | ⟨settings, m, _, hm, h⟩ := (quiet_need _).run_bind hm h
  · exact .inl hsame
  obtain hsame | ⟨level, m, _, hm, h⟩ := (quiet_need _).run_bind hm h
  · exact .inl hsame
  obtain hsame | ⟨_, m, _, hm, h⟩ := (quiet_report _ _ _).run_bind hm h
  · exact .inl hsame
  obtain hsame | ⟨rules, m, _, hm, h⟩ := (quiet_need _).run_bind hm h
  · exact .inl hsame
  obtain hsame | ⟨m, hm, h⟩ := (Leads.ite ((quiet_need _).leads fun _ => Leads.ite
    ((quiet_put _).leads fun _ => leads_stop _ _ _) (.refl _)) (.refl _)).run hm h
  · exact .inl hsame
  obtain hsame | ⟨⟨opened, id⟩, m', hopen, hm, h⟩ := (quiet_openFile _ _ _).run_bind hm h
  · exact .inl hsame
  obtain hsame | ⟨p, m'', _, hm, h⟩ := (quiet_chooseProvider _ _ _).run_bind hm h
  · exact .inl hsame
  obtain hsame | ⟨s, _, hnew, hm, h⟩ := (quiet_need _).run_bind hm h
  · exact .inl hsame
  obtain hsame | ⟨_, _, _, hm, h⟩ := (quiet_report _ _ _).run_bind hm h
  · exact .inl hsame
  obtain hsame | ⟨committed, _, hround, hm, h⟩ := (quiet_need _).run_bind hm h
  · exact .inl hsame
  obtain hsame | ⟨_, hm, h⟩ := (Leads.ite ((quiet_putError _).leads fun _ => .refl _)
    (.refl _)).run hm h
  · exact .inl hsame
  cases committed with
  | false =>
    cases h
    exact .inl hm
  | true =>
    obtain hsame | ⟨_, _, _, hm, h⟩ := (quiet_put _).run_bind hm h
    · exact .inl hsame
    obtain hsame | ⟨_, _, _, hm, h⟩ := (quiet_need _).run_bind hm h
    · exact .inl hsame
    obtain hsame | ⟨_, _, _, hm, h⟩ := (quiet_need _).run_bind hm h
    · exact .inl hsame
    obtain hsame | ⟨_, n, _, hm, h⟩ := (quiet_put _).run_bind hm h
    · exact .inl hsame
    exact .inr ⟨opened, id, settings, p, s, _, _, _, _, _, n, hopen, eq_ok_of_run_need hnew,
      Prod.ext rfl (eq_ok_of_run_need hround), hm, h⟩

/-- What the command opens of a file is its rows. -/
theorem opened_of_read {bs : Buffers} {t : Text} (h : (openFile w o files).run c = (.ok (bs, id), c'))
    (hread : files.read w.directory o.path = .ok (Utf8.bytes t)) :
    ∃ b, bs.get? id = some b ∧ b.path = some (String.ofList o.path.toText) ∧
      b.lines = (Files.unifyLineEnds t).lines.map Value.str ∧ b.modifiable = true := by
  obtain ⟨opened, held, moved, _, _, hopen, hheld, hmoved, rfl⟩ := exists_of_openFile h
  rw [Buffers.openFile_of_read rfl hread] at hopen
  cases hopen
  rw [Buffers.get?_put, if_pos rfl] at hheld
  cases hheld
  obtain ⟨cursor, _, rfl⟩ := map_eq_ok hmoved
  exact ⟨_, (Buffers.get?_put ..).trans (if_pos rfl), rfl, rfl, rfl⟩

end Suggest

/-! ## What a reply proposes -/

namespace Answer

variable {answer : Text} {rows : List Text} {sets : List SuggestionSet} {set : SuggestionSet}
  {x : Item}

/-- The elements of a list of values; another value has none. -/
def elementsOf : Value → List Value
  | .arr raws => raws
  | _ => []

/-- The decoded values from which the items of an answer are made. -/
def elements (answer : Text) : List Value :=
  ((rawSetsOf answer).toOption.getD []).flatMap elementsOf

/-- Every content in an answer that is a string is a text: none has half of a pair in it, which can
be decoded and not be encoded. -/
def Textual (answer : Text) : Prop :=
  ∀ raw ∈ elements answer, ((raw.get? "content").bind Value.codes?).isSome →
    ((raw.get? "content").bind Value.text?).isSome

instance (answer : Text) : Decidable (Textual answer) :=
  inferInstanceAs (Decidable (∀ raw ∈ elements answer, _ → _))

/-- Rows are the last ones of a content in an answer, without row numbers that leaked into it. -/
def Proposes (answer : Text) (lines : List Text) : Prop :=
  ∃ raw ∈ elements answer, ∃ content, raw.get? "content" = some (.str content) ∧
    lines <:+ Assembly.dropRowNumbers content.lines

/-- The draft of an element keeps a content that is a text as it is. -/
theorem Textual.content_eq (h : Textual answer) {raw : Value} (hraw : raw ∈ elements answer)
    {d : Draft} (hd : Draft.ofValue? raw = some d) : raw.get? "content" = some (.str d.content) := by
  have htext := h raw hraw
  rw [Draft.ofValue?] at hd
  split at hd
  · next content hcontent =>
    have hkept : d.content = content := by
      obtain ⟨_, _, hd⟩ := Option.bind_eq_some_iff.mp hd
      obtain ⟨_, _, hd⟩ := Option.bind_eq_some_iff.mp hd
      split at hd
      · cases hd
        rfl
      · cases hd
    obtain ⟨v, hv, hchars⟩ := Option.bind_eq_some_iff.mp hcontent
    rw [hv] at htext ⊢
    cases v with
    | str t =>
      cases hchars
      rw [hkept]
    | codes points => cases htext rfl
    | _ => cases hchars
  · cases hd

/-- **The items of an answer** bring rows that it proposes. -/
theorem Textual.proposes (h : Textual answer) (hparse : parse answer rows = .ok sets)
    (hset : set ∈ sets) (hx : x ∈ set) : Proposes answer x.lines := by
  obtain ⟨_, raws, hraws, raw, hraw, rfl⟩ := exists_build_of_mem_parse hparse hset
  cases raw with
  | arr elements =>
    obtain ⟨raw', hraw', d, n, hd, hleft, rfl⟩ := Assembly.exists_draft_of_mem_assemble hx
    have hmem : raw' ∈ Answer.elements answer := by
      rw [Answer.elements, hraws]
      exact List.mem_flatMap.mpr ⟨_, hraw, hraw'⟩
    refine ⟨raw', hmem, d.content, h.content_eq hmem hd, ?_⟩
    rw [hleft.lines_item]
    exact List.drop_suffix ..
  | _ => cases hx

end Answer

/-! ## The rows that are written -/

/-- Rows in which those of a file that no item of a set replaces are found again, with their texts.
Each is ended by a line feed if a row follows, and one does if the row was ended by anything. So a
row is as it was just if it was ended by a line feed, or by nothing and is the last one still. -/
def Spares (set : SuggestionSet) (t : Text) (rows : List Text) : Prop :=
  ∀ (row : Nat) (line ending : Text), (Files.rowsOf t)[row]? = some (line, ending) →
    (∀ x ∈ set, x.replaces (row + 1) = false) →
    ∃ row' : Nat, place set (row + 1) = row' + 1 ∧
      (Files.ended rows)[row']? = some (line, if row' + 1 < rows.length then ['\n'] else []) ∧
      (ending ≠ [] → row' + 1 < rows.length) ∧
      ((Files.ended rows)[row']? = (Files.rowsOf t)[row]? ↔
        ending = ['\n'] ∨ ending = [] ∧ row' + 1 = rows.length)

/-- Texts rewritten by items are texts. -/
theorem rewriteFrom_texts (items : List Item) (row : Int) (texts : List Text) :
    ∃ new : List Text, rewriteFrom items row (texts.map Value.str) = new.map Value.str := by
  induction texts generalizing row with
  | nil => exact ⟨_, Layout.incoming_eq_map items row⟩
  | cons line rest ih =>
    obtain ⟨new, hnew⟩ := ih (row + 1)
    rw [List.map_cons, rewriteFrom, hnew, Layout.incoming_eq_map]
    split
    · exact ⟨_, by rw [List.append_nil, List.map_append]⟩
    · exact ⟨_ ++ [line] ++ new, by rw [List.map_append, List.map_append]; rfl⟩

/-- **Rewriting spares the rows** that no item of a set replaces. -/
theorem spares_of_rewriteRows {set : SuggestionSet} {t : Text} {rows : List Text}
    (hset : Placed (Files.rowsOf t).length set)
    (hrows : rows.map Value.str
      = rewriteRows set ((Files.unifyLineEnds t).lines.map Value.str)) : Spares set t rows := by
  intro row line ending hrow hkept
  have hlt : row < (Files.rowsOf t).length := (List.getElem?_eq_some_iff.mp hrow).1
  have hlen : ((Files.unifyLineEnds t).lines.map Value.str).length = (Files.rowsOf t).length := by
    rw [List.length_map, ← Files.map_rowsOf, List.length_map]
  obtain ⟨hone, htext, hlast⟩ := getElem?_rewriteRows_of_kept (hlen ▸ hset).stacked
    (show (1 : Int) ≤ row + 1 by omega) (by omega) hkept
  obtain ⟨row', hplace⟩ := Int.eq_ofNat_of_zero_le (show 0 ≤ place set (row + 1) - 1 by omega)
  have hline : rows[row']? = some line := by
    rw [← hrows, hplace, ← Files.map_rowsOf] at htext
    simpa [hrow] using htext
  have hended := Files.getElem?_ended hline
  have hlength : rows.length = (rewriteRows set
      ((Files.unifyLineEnds t).lines.map Value.str)).length := by rw [← hrows, List.length_map]
  have hfollowed : ending ≠ [] → row' + 1 < rows.length := by
    intro hne
    have hmore := Files.not_last_of_ending hrow hne
    have hless := hlast (by omega)
    omega
  refine ⟨row', by omega, hended, hfollowed, ?_⟩
  rw [hended, hrow]
  split
  · next hmore =>
    simp only [Option.some.injEq, Prod.mk.injEq, true_and]
    constructor
    · intro hfeed
      exact .inl hfeed.symm
    · rintro (hfeed | ⟨_, hend⟩)
      · exact hfeed.symm
      · omega
  · next hend =>
    have hnone : ending = [] := by
      by_contra hne
      exact hend (hfollowed hne)
    have hbound := (List.getElem?_eq_some_iff.mp hline).1
    simp [hnone]
    omega

namespace Suggest

variable {w : World} {o : SuggestOptions} {c c' : Console} {r : Except Console.Stop Unit}

/-- What comes of a round and of what follows it. -/
theorem replaces_of_run {reviewer : Reviewer} {t : Text} (hplain : o.path.Plain)
    (halone : o.interactive = false)
    (hread : c.files.read w.directory o.path = .ok (Utf8.bytes t))
    (h : (run w o reviewer).run c = (r, c')) :
    c'.files = c.files ∨
      ∃ (set : SuggestionSet) (others : List SuggestionSet) (rows : List Text),
        r = .ok () ∧
        Answer.parse w.reply.pieces.flatten (Files.unifyLineEnds t).lines = .ok (set :: others) ∧
        rows.map Value.str
          = rewriteRows set ((Files.unifyLineEnds t).lines.map Value.str) ∧
        c.files.Replaces c'.files w.directory o.path (Utf8.bytes (Text.unlines rows)) := by
  obtain hsame | ⟨opened, id, settings, p, s, v, rules, level, m, m', n, hopen, hnew, hround, hn, h⟩ :=
    run_cases h
  · exact .inl hsame
  obtain ⟨b, hb, hpath, hlines, hmod⟩ := opened_of_read hopen hread
  have hfresh : s.requests = [] ∧ s.cache.entries = [] := by
    obtain ⟨metrics, _, hs⟩ := bind_eq_ok hnew
    cases hs
    exact ⟨rfl, rfl⟩
  let start : Session := { s with buffers := opened, rules, directory := w.cwd }
  have hnumbers : ∀ r ∈ start.requests, r.id ≤ start.lastRequest := by
    intro r hr
    rw [show start.requests = [] from hfresh.1] at hr
    cases hr
  have hstored : start.stored? id = none := by
    by_contra hsome
    obtain ⟨answer, hanswer⟩ := Option.ne_none_iff_exists'.mp hsome
    obtain ⟨_, _, _, key, _, _, hretrieve⟩ := Session.exists_of_stored? hanswer
    have habsent : start.cache.find? key = none := by
      rw [Cache.find?, show start.cache.entries = [] from hfresh.2, List.find?_nil]
    rw [Session.retrieve?_of_absent habsent] at hretrieve
    cases hretrieve
  obtain ⟨answer, set, others, horigin, hparse, _, outcomes, u, haccepts, hall, _, _, _, _,
    written, hwritten, hrewritten, _⟩ := acceptAll_finishes (s := start) hnumbers hb hlines hmod
      hround []
  have hanswer : answer = w.reply.pieces.flatten := by
    rcases horigin with horigin | horigin
    · rw [hstored] at horigin
      cases horigin
    · exact horigin
  have hbelongs : v.Belongs id (some (String.ofList o.path.toText)) := by
    obtain ⟨_, _, held, _, hpos, htook, _⟩ :=
      Session.took_round (s := start) hnumbers (fun _ => streamOf_closed w settings p) hround
    have hheld := (Session.position_eq_ok hpos).1
    obtain rfl : held = b := Option.some.inj (hheld.symm.trans hb)
    exact ⟨held, htook.carries, hpath⟩
  have hfile := (Session.Belongs.accepts (s := { v with journal := [] }) hbelongs haccepts
    rfl).path_eq hwritten
  obtain ⟨rows, hrows⟩ := rewriteFrom_texts set 1 (Files.unifyLineEnds t).lines
  obtain hsame | ⟨n, hn, h⟩ := choose_cases halone hall hn h
  · exact .inl hsame
  obtain hsame | ⟨rfl, hreplaces⟩ :=
    finish_cases hn hplain hwritten hfile (hrewritten.trans hrows) hread h
  · exact .inl hsame
  · exact .inr ⟨set, others, rows, rfl, hanswer ▸ hparse, hrows.symm, hreplaces⟩

/-- **Writing back** what was accepted, whatever the reply and wherever the cursor, where every
content in the reply is a text. A run without a review leaves all files as they are, or it ends well
and gives the file it was called for the rows that come of the first set of the reply: with the
text, but not always the end, that each row no item replaces had. What an item brings are the last
rows of one of the contents. A file that is opened and saved as it is has line feeds for all its
line ends. -/
theorem run_writes {w : World} {files : Files} {o : SuggestOptions} {reviewer : Reviewer}
    {t : Text} {r : Except Console.Stop Unit} {console : Console}
    (hplain : o.path.Plain) (halone : o.interactive = false)
    (hread : files.read w.directory o.path = .ok (Utf8.bytes t))
    (hrun : (run w o reviewer).run { files } = (r, console)) :
    (Answer.Textual w.reply.pieces.flatten → console.files = files ∨
      ∃ (set : SuggestionSet) (others : List SuggestionSet) (rows : List Text),
        r = .ok () ∧
        Answer.parse w.reply.pieces.flatten (Files.unifyLineEnds t).lines = .ok (set :: others) ∧
        (∀ x ∈ set, Answer.Proposes w.reply.pieces.flatten x.lines) ∧
        rows.map Value.str = rewriteRows set ((Files.unifyLineEnds t).lines.map Value.str) ∧
        files.Replaces console.files w.directory o.path
          (Utf8.bytes ((Files.ended rows).flatMap Files.joined)) ∧
        Spares set t rows) ∧
    ∀ bs : Buffers, bs.get? (String.ofList o.path.toText) = none →
      ∃ opened id, bs.openFile files w.directory o.path = .ok (opened, id) ∧
        ∀ bs' written shown, opened.save files w.directory id = (written, .ok (bs', shown)) →
          files.Replaces written w.directory o.path (Utf8.bytes (Files.unifyLineEnds t)) ∧
          (written.read w.directory o.path = files.read w.directory o.path ↔ '\r' ∉ t) := by
  refine ⟨fun htextual => ?_, fun bs hclosed => Buffers.save_opened hplain hclosed hread⟩
  obtain hsame | ⟨set, others, rows, rfl, hanswer, hrows, hreplaces⟩ :=
    replaces_of_run hplain halone hread hrun
  · exact .inl hsame
  have hplaced : Placed (Files.rowsOf t).length set := by
    rw [← List.length_map, Files.map_rowsOf]
    exact Answer.parse_placed hanswer List.mem_cons_self
  rw [← Files.flatMap_ended] at hreplaces
  exact .inr ⟨set, others, rows, rfl, hanswer,
    fun x hx => htextual.proposes hanswer List.mem_cons_self hx, hrows, hreplaces,
    spares_of_rewriteRows hplaced hrows⟩

/-- A text whose rows end in different ways. -/
def stairs : Text := ['a', '\r', '\n', 'b', '\n', 'c', '\r', '\n', 'd']

/-- What is written instead. -/
def levelled : Text := ['x', '\n', 'b', '\n', 'c', '\n', 'd']

/-- A tree with one file. -/
def cellar : Files := ⟨[([['m']], .file (Utf8.bytes stairs))]⟩

/-- A world in which the provider replies with an item for the first row. -/
def cellarWorld : World :=
  { (default : World) with
    environment := [("XAI_API_KEY", ['k'])]
    reply :=
      { pieces := ["[\x7b\"content\": \"x\", \"start_row\": 1, \"end_row\": 1\x7d]".toList] } }

/-- Accept everything and write it back. -/
def cellarOptions : SuggestOptions :=
  { path := .ofText ['m'], line := 1, acceptAll := true, write := true }

/-- A review in which nothing happens. -/
def idle : Reviewer := fun s _ => (s, .ok ())

/-- What comes of a run that accepts everything and writes it back. -/
def cellarRun : Except Console.Stop Unit × Console :=
  (run cellarWorld cellarOptions idle).run { files := cellar }

/-- The set of the reply. -/
def cellarSet : SuggestionSet := [⟨1, ['x'], 1, 1, 1⟩]

/-- The first row is rewritten, and the others are found again. -/
theorem cellar_written :
    cellarOptions.path.Plain ∧ cellarOptions.interactive = false ∧
      cellar.read cellarWorld.directory cellarOptions.path = .ok (Utf8.bytes stairs) ∧
      Answer.Textual cellarWorld.reply.pieces.flatten ∧
      ∃ r console, cellarRun = (r, console) ∧ r = .ok () ∧
        cellar.Replaces console.files cellarWorld.directory cellarOptions.path
          (Utf8.bytes levelled) ∧
        Spares cellarSet stairs [['x'], ['b'], ['c'], ['d']] := by
  have hplain : cellarOptions.path.Plain := Path.plain_ofText ['m']
  have hread : cellar.read cellarWorld.directory cellarOptions.path = .ok (Utf8.bytes stairs) :=
    Answer.eq_ok_of_toOption (by decide +kernel)
  have htextual : Answer.Textual cellarWorld.reply.pieces.flatten := by decide +kernel
  have hchanged : (cellarRun.2.files.read [] cellarOptions.path).toOption
      = some (Utf8.bytes levelled) := by decide +kernel
  have hreply : Answer.parse cellarWorld.reply.pieces.flatten (Files.unifyLineEnds stairs).lines
      = .ok [cellarSet] := Answer.eq_ok_of_toOption (by decide +kernel)
  rcases hgo : cellarRun with ⟨r, console⟩
  rw [hgo] at hchanged
  rw [cellarRun] at hgo
  refine ⟨hplain, rfl, hread, htextual, r, console, rfl, ?_⟩
  obtain hsame | ⟨set, others, rows, hresult, hanswer, _, hrows, hreplaces, hspares⟩ :=
    (run_writes hplain rfl hread hgo).1 htextual
  · rw [hsame, show cellar.read [] cellarOptions.path = .ok (Utf8.bytes stairs) from hread]
      at hchanged
    exact absurd hchanged (by decide +kernel)
  · obtain ⟨rfl, -⟩ := List.cons.inj (Except.ok.inj (hreply.symm.trans hanswer))
    have hsame : rows = [['x'], ['b'], ['c'], ['d']] := by
      have hinj : Function.Injective Value.str := fun _ _ h => Value.str.inj h
      exact List.map_injective_iff.mpr hinj (hrows.trans rfl)
    subst hsame
    exact ⟨hresult, hreplaces, hspares⟩

/-- The third row is not replaced, and what ends it is not what ended it. -/
theorem cellar_altered :
    (cellar.read [] cellarOptions.path).toOption = some (Utf8.bytes stairs) ∧
      (Answer.parse cellarWorld.reply.pieces.flatten (Files.unifyLineEnds stairs).lines).toOption
        = some [cellarSet] ∧
      (∀ x ∈ cellarSet, x.replaces 3 = false) ∧
      (cellarRun.2.files.read [] cellarOptions.path).toOption = some (Utf8.bytes levelled) ∧
      (Files.rowsOf stairs)[2]? = some (['c'], ['\r', '\n']) ∧
      (Files.rowsOf levelled)[2]? = some (['c'], ['\n']) := by
  refine ⟨?_, ?_, ?_, ?_, ?_, ?_⟩ <;> decide +kernel

end Suggest

end GhostEdit
