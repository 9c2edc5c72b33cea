import GhostEdit.Proofs.Provider.Stream
import GhostEdit.Proofs.Session.Frames
import GhostEdit.Session.Round

/-!
# What a round leaves behind

A round starts a request and follows the stream of the provider to its end. It tells whether
suggestions were taken over, and this file says what that answer is worth: when it is yes, the sets
of one answer are on offer in the buffer, the first of them selected, and the buffer itself is as it
was, its marks apart.

The answer is a flag in the record of the request, which is read after the stream has ended. So
there is more to show than that taking over sets it. Nothing else sets it; and whenever something
goes wrong after it was set, the round breaks, because the failure that the provider is then told
about cannot be noted either.

## Main definitions

* `Session.TookOver`: the sets of an answer are on offer

## Main results

* `Session.begin_cases`: how a request starts
* `Session.took_finish`: the end of an answer
* `Session.took_round`: a round that took suggestions over
-/

namespace GhostEdit

namespace Session

variable {s t u : Session} {id : String} {n : Nat} {b : Buffer} {answer : Text}

/-! ## Taking an answer over -/

/-- The sets of an answer about a buffer are on offer, and the first one is selected. -/
structure TookOver (t : Session) (id : String) (b : Buffer) (n : Nat) (answer : Text) : Prop where
  carries : t.Carries id b
  offered : ∃ c, t.context? id = some c ∧ c.phase = .ready ∧ c.request = n ∧ c.index = 0 ∧
    c.sets ≠ [] ∧ Answer.parse answer (b.lines.map Value.plain) = .ok c.sets

/-- What keeps the buffer and the contexts keeps what was taken over. -/
theorem TookOver.frame (h : TookOver t id b n answer) (hcarries : u.Carries id b)
    (hcontexts : u.contexts = t.contexts) : TookOver u id b n answer := by
  refine ⟨hcarries, ?_⟩
  rw [context?, hcontexts]
  exact h.offered

theorem TookOver.isCurrent (h : TookOver t id b n answer) : t.isCurrent id n = true := by
  obtain ⟨c, hc, _, hrequest, _⟩ := h.offered
  rw [Session.isCurrent, hc]
  exact decide_eq_true hrequest

theorem TookOver.record (h : TookOver t id b n answer) (buffer : String) (started : Seconds)
    (cacheHit : Bool) (sets chars : Nat) (success : Bool) :
    TookOver (t.record buffer started cacheHit sets chars success).1 id b n answer := by
  obtain ⟨metrics, journal, hframe⟩ := record_frame t buffer started cacheHit sets chars success
  rw [hframe]
  exact h.frame h.carries rfl

/-- Sets that were offered are those on offer. -/
theorem offer_true {sets : List SuggestionSet} {c : Context} (hc : s.context? id = some c)
    (h : s.offer id sets = (t, .ok true)) :
    sets ≠ [] ∧ t.context? id = some { c with sets, index := 0, phase := .ready } := by
  rw [offer] at h
  split at h
  · cases h
  · next hne =>
    refine ⟨fun hnil => hne (List.isEmpty_iff.mpr hnil), ?_⟩
    dsimp only at h
    split at h
    · cases h
    · next heq =>
      have hcontexts := congrArg contexts (congrArg Prod.fst heq)
      rw [present_contexts] at hcontexts
      cases h
      rw [changeContext, hc] at hcontexts
      rw [context?, ← hcontexts]
      exact context?_setContext (s := s) _

theorem took_commit {key : Option String} (hb : s.Carries id b)
    (h : s.commit id n answer key = (t, .ok true)) : TookOver t id b n answer := by
  have hdraws : Draws id s t := of_fst (draws_commit s id n answer key) h
  refine ⟨hdraws.carries b hb, ?_⟩
  obtain ⟨overlay, hb⟩ := hb
  rw [commit] at h
  split at h
  · next hcurrent =>
    obtain ⟨c, hc, hrequest⟩ := exists_of_isCurrent hcurrent
    rw [Buffers.get_of_get? hb] at h
    dsimp only at h
    split at h
    · cases h
    · next sets hparse =>
      have hnoted := quiet_noteRecords s (Answer.parseLog answer (b.lines.map Value.plain))
      have htaken : sets ≠ [] ∧
          t.context? id = some { c with sets, index := 0, phase := .ready } := by
        split at h
        · next key =>
          have hkept := hnoted.trans (quiet_keep _ key answer)
          exact offer_true ((hkept.context? id).trans hc) h
        · exact offer_true ((hnoted.context? id).trans hc) h
      exact ⟨_, htaken.2, rfl, hrequest, rfl, htaken.1, hparse⟩
  · cases h

/-! ## How a request starts -/

/-- A position is one in a buffer that has rows, on the row of the cursor. -/
theorem position_eq_ok {row col : Int} (h : s.position id = .ok (row, col, b)) :
    s.buffers.get? id = some b ∧ b.lines ≠ [] ∧ b.cursor.row = .ok row := by
  rw [position] at h
  split at h
  · cases h
  · next held hget =>
    have hheld := Buffers.get?_of_get hget
    dsimp only at h
    split at h
    · cases h
    · next hempty =>
      have hne : held.lines ≠ [] := fun hnil => hempty (List.isEmpty_iff.mpr hnil)
      split at h
      · next hcursor =>
        split at h
        · cases h
          exact ⟨hheld, hne, by rw [hcursor]; rfl⟩
        · cases h
      · next hcursor =>
        split at h
        · cases h
          exact ⟨hheld, hne, by rw [hcursor]; rfl⟩
        · cases h
      · cases h

/-- A request that the provider was asked about runs, and nothing has come of it so far. -/
structure Asked (s t : Session) (id : String) (b : Buffer) (n : Nat) : Prop where
  carries : t.Carries id b
  requests : ∃ r : Request, t.requests = s.requests ++ [r] ∧ r.id = n ∧ r.buffer = id ∧
    r.parts = [] ∧ r.committed = false

theorem asked_ask {m : Nat} {key : String} {row col : Int} {messages : List Message}
    {shape : Buffer} (hb : s.Carries id b)
    (h : s.ask id n key row col shape = (t, .asked m messages)) : m = n ∧ Asked s t id b n := by
  rw [ask] at h
  split at h
  · cases h
  · cases h
    exact ⟨rfl, hb, _, rfl, rfl, rfl, rfl, rfl⟩

/-- Asking never tells that an answer was taken over. -/
theorem ask_ne_settled_true (s : Session) (id : String) (n : Nat) (key : String) (row col : Int)
    (shape : Buffer) : (s.ask id n key row col shape).2 ≠ .settled true := by
  rw [ask]
  intro h
  split at h
  · cases h
  · cases h

theorem Asked.of_keeps {v : Session} (h : Asked v t id b n) (hkeeps : Keeps id s v) :
    Asked s t id b n := by
  refine ⟨h.carries, ?_⟩
  rw [← hkeeps.requests]
  exact h.requests

/-- Going on with a request: it is over with the stored answer taken over, or the provider was
asked. -/
theorem proceed_cases {key : String} {row col : Int} {shape : Buffer} {start : Start}
    (hb : s.Carries id b) (h : s.proceed id n key row col shape = (t, .ok start)) :
    (start = .settled true → ∃ answer, s.retrieve? key = some answer ∧ TookOver t id b n answer) ∧
      ∀ m messages, start = .asked m messages → m = n ∧ Asked s t id b n := by
  have hask : ∀ {v : Session}, Draws id s v → v.ask id n key row col shape = (t, start) →
      (start = .settled true →
        ∃ answer, s.retrieve? key = some answer ∧ TookOver t id b n answer) ∧
      ∀ m messages, start = .asked m messages → m = n ∧ Asked s t id b n := by
    intro v hdraws hv
    refine ⟨?_, ?_⟩
    · rintro rfl
      exact absurd (congrArg Prod.snd hv) (ask_ne_settled_true v id n key row col shape)
    · rintro m messages rfl
      obtain ⟨hm, hasked⟩ := asked_ask (hdraws.carries b hb) hv
      exact ⟨hm, hasked.of_keeps hdraws.toKeeps⟩
  have hcached : Draws id s (s.cached key).1 := draws_cached s key
  rw [proceed] at h
  split at h
  · next m heq =>
    rw [heq] at hcached
    cases h
    exact hask hcached rfl
  · next m answer heq =>
    rw [heq] at hcached
    have hretrieve : s.retrieve? key = some answer := by rw [← cached_snd, heq]
    have hlogged : Draws id s (m.log .debug "Using cached suggestions") :=
      hcached.trans (drawsOnly_log ..).toDraws
    have hcommit := hlogged.trans (draws_commit _ id n answer none)
    split at h
    · next v committed hcommitted =>
      obtain ⟨rfl, hnoted⟩ := Prod.mk.inj h
      obtain ⟨_, _, rfl⟩ := map_eq_ok hnoted
      refine ⟨fun hstart => ?_, fun m messages hstart => ?_⟩
      · cases hstart
        have htook := took_commit (hlogged.carries b hb) hcommitted
        exact ⟨answer, hretrieve, htook.record ..⟩
      · cases hstart
    · next v f hfault =>
      rw [hfault] at hcommit
      split at h
      · cases h
        exact hask (hcommit.trans (drawsOnly_report ..).toDraws) rfl
      · cases h
    · cases h

/-- **How a request starts**: from a position in its buffer, with the stored answer taken over or
the provider asked. -/
theorem begin_cases {start : Start} (h : s.begin id = (t, .ok start)) :
    (start = .settled true → ∃ row col b answer, s.position id = .ok (row, col, b) ∧
      s.stored? id = some answer ∧ TookOver t id b (s.lastRequest + 1) answer) ∧
    ∀ m messages, start = .asked m messages → ∃ row col b, s.position id = .ok (row, col, b) ∧
      m = s.lastRequest + 1 ∧ Asked s t id b m := by
  obtain ⟨contexts, henter⟩ := enter_frame s id
  rw [begin, henter] at h
  split at h
  · cases h
    refine ⟨fun hstart => ?_, fun m messages hstart => ?_⟩
    · cases hstart
    · cases hstart
  · next row col b hpos =>
    have hpos : s.position id = .ok (row, col, b) := hpos
    have hcarries := carries_of_get? (position_eq_ok hpos).1
    split at h
    · cases h
    · next key hkey =>
      obtain ⟨hsettled, hasked⟩ := proceed_cases (b := b) (by exact hcarries) h
      refine ⟨fun hstart => ?_, fun m messages hstart => ?_⟩
      · obtain ⟨answer, hretrieve, htook⟩ := hsettled hstart
        refine ⟨row, col, b, answer, hpos, ?_, htook⟩
        rw [stored?, hpos]
        dsimp only
        rw [hkey]
        exact hretrieve
      · obtain ⟨rfl, hasked⟩ := hasked m messages hstart
        exact ⟨row, col, b, hpos, rfl, hasked.carries, hasked.requests⟩

/-! ## What a provider reports -/

/-- Whether the answer of a request was taken over. -/
def flagged (s : Session) (n : Nat) : Bool := (s.request? n).any (·.committed)

theorem conclude_snd (s : Session) (n : Nat) : (s.conclude n).2 = s.flagged n := by
  rw [conclude, flagged]
  cases s.request? n <;> rfl

theorem Keeps.flagged (h : Keeps id s t) (n : Nat) : t.flagged n = s.flagged n := by
  rw [Session.flagged, h.request?, Session.flagged]

theorem request?_changeRequest {r : Request} {f : Request → Request} (hr : s.request? n = some r)
    (hf : ∀ r, (f r).id = r.id) : (s.changeRequest n f).request? n = some (f r) := by
  have hfound : s.requests.find? (fun r => decide (r.id = n)) = some r := hr
  have hn : r.id = n := by simpa using List.find?_some hfound
  have hpred : ((fun r : Request => decide (r.id = n)) ∘ fun r => if r.id = n then f r else r)
      = fun r => decide (r.id = n) := by
    funext r
    by_cases heq : r.id = n
    · simp [heq, hf]
    · simp [heq]
  rw [request?, changeRequest, List.find?_map, hpred, hfound, Option.map_some, if_pos hn]

/-- Noting how a request went fails or not by the clock alone. -/
theorem record_snd (s : Session) (buffer : String) (started : Seconds) (cacheHit : Bool)
    (sets chars : Nat) (success : Bool) :
    (s.record buffer started cacheHit sets chars success).2
      = (s.now - started).toMillis.map fun _ => () := by
  rw [record]
  split
  · next heq => rw [heq]; rfl
  · next heq => rw [heq]; rfl

theorem flagged_record (s : Session) (n : Nat) (buffer : String) (started : Seconds)
    (cacheHit : Bool) (sets chars : Nat) (success : Bool) :
    (s.record buffer started cacheHit sets chars success).1.flagged n = s.flagged n :=
  (drawsOnly_record buffer ..).flagged n

theorem flagged_fail (s : Session) (n : Nat) (e : Failure) :
    (s.fail n e).1.flagged n = s.flagged n := by
  cases hr : s.request? n with
  | none => rw [fail, hr]
  | some r => exact (drawsOnly_fail hr e).flagged n

theorem flagged_orAbort (n : Nat) (result : Session × Except Failure Unit) :
    (orAbort n result).1.flagged n = result.1.flagged n := by
  obtain ⟨s, outcome⟩ := result
  cases outcome with
  | ok _ => rfl
  | error e => exact flagged_fail ..

theorem orAbort_of_ok {result : Session × Except Failure Unit} (h : result.2 = .ok ()) :
    orAbort n result = result := by
  obtain ⟨s, outcome⟩ := result
  cases h
  rfl

/-- What fails to be noted for the newest request cannot be noted as a failure either. -/
theorem orAbort_record_ne_ok {r : Request} (hr : s.request? n = some r)
    (hcurrent : s.isCurrent r.buffer n = true) {sets chars : Nat} {success : Bool} {e : Failure}
    (h : (s.record r.buffer r.started false sets chars success).2 = .error e) :
    (orAbort n (s.record r.buffer r.started false sets chars success)).2 ≠ .ok () := by
  have hclock : ∃ cause, (s.now - r.started).toMillis = .error cause := by
    rw [record_snd] at h
    cases hmillis : (s.now - r.started).toMillis with
    | error cause => exact ⟨cause, rfl⟩
    | ok _ => rw [hmillis] at h; cases h
  obtain ⟨cause, hclock⟩ := hclock
  have hrecord : s.record r.buffer r.started false sets chars success = (s, .error cause) := by
    rw [record, hclock]
  rw [hrecord, orAbort, abort, fail, hr]
  dsimp only
  rw [if_pos hcurrent, record_snd, (drawsOnly_giveUp ..).now, hclock]
  intro hok
  cases hok

/-- **The end of an answer.** If the answer counts as taken over and nothing broke, it was. -/
theorem took_finish {r : Request} (hr : s.request? n = some r) (hunset : r.committed = false)
    (hb : s.Carries r.buffer b) (h : orAbort n (s.finish n) = (t, .ok ()))
    (ht : t.flagged n = true) : TookOver t r.buffer b n r.answer := by
  have hcommit := draws_commit s r.buffer n r.answer (some r.key)
  have hset : ∀ {result}, orAbort n result = (t, .ok ()) → result.1.flagged n = true := by
    intro result hresult
    rw [← flagged_orAbort, hresult]
    exact ht
  -- as long as the requests are as they were, the flag is not set
  have hkept : ∀ {v : Session}, Draws r.buffer s v → v.flagged n ≠ true := by
    intro v hdraws
    rw [hdraws.flagged, flagged, hr, Option.any_some, hunset]
    nofun
  rw [finish, hr] at h
  dsimp only at h
  split at h
  · next v committed heq =>
    rw [heq] at hcommit
    let noted : Session := v.changeRequest n fun r => { r with committed }
    have hrequest : noted.request? n = some { r with committed } :=
      request?_changeRequest ((hcommit.request? n).trans hr) fun _ => rfl
    have hcommitted : committed = true := by
      have hnoted : noted.flagged n = true := (flagged_record ..).symm.trans (hset h)
      rwa [flagged, hrequest, Option.any_some] at hnoted
    subst hcommitted
    have htook : TookOver noted r.buffer b n r.answer :=
      (took_commit hb heq).frame (hcommit.carries b hb) rfl
    cases hnoted : (noted.record r.buffer r.started false (noted.setCount r) r.answer.length
        true).2 with
    | ok =>
      rw [orAbort_of_ok hnoted] at h
      have hrecorded :=
        htook.record r.buffer r.started false (noted.setCount r) r.answer.length true
      rw [h] at hrecorded
      exact hrecorded
    | error e =>
      have hbroke := orAbort_record_ne_ok hrequest htook.isCurrent hnoted
      exact absurd (congrArg Prod.snd h) hbroke
  · next v f heq =>
    rw [heq] at hcommit
    split at h
    · refine absurd (hset h) (hkept ?_)
      exact hcommit.trans ((drawsOnly_giveUp ..).trans (drawsOnly_record ..)).toDraws
    · exact absurd (hset h) (hkept hcommit)
  · next v e _ heq =>
    rw [heq] at hcommit
    exact absurd (hset h) (hkept hcommit)

/-! ## Following a stream -/

theorem follow_pieces (n : Nat) (s : Session) (pieces : List Text) (rest : List StreamEvent) :
    follow n s (pieces.map .chunk ++ rest)
      = follow n (pieces.foldl (fun s piece => s.deliver n piece) s) rest := by
  induction pieces generalizing s with
  | nil => rfl
  | cons piece pieces ih => exact ih _

/-- Pieces are added to their request, and nothing else happens. -/
theorem foldl_deliver {r : Request} (hr : s.request? n = some r) (pieces : List Text) :
    ∃ requests, pieces.foldl (fun s piece => s.deliver n piece) s = { s with requests } ∧
      ({ s with requests } : Session).request? n
        = some { r with parts := r.parts ++ pieces } := by
  induction pieces generalizing s r with
  | nil =>
    refine ⟨s.requests, rfl, ?_⟩
    rw [List.append_nil]
    exact hr
  | cons piece pieces ih =>
    have hnext : (s.deliver n piece).request? n
        = some { r with parts := r.parts ++ [piece] } :=
      request?_changeRequest hr fun _ => rfl
    obtain ⟨requests, hsession, hrequest⟩ := ih hnext
    refine ⟨requests, hsession, ?_⟩
    rw [List.append_assoc] at hrequest
    exact hrequest

theorem follow_singleton (n : Nat) (s : Session) (e : StreamEvent) :
    follow n s [e] = s.receive n e := by
  rw [follow]
  obtain ⟨t, outcome⟩ := s.receive n e
  cases outcome <;> rfl

/-- **A closed stream** whose answer counts as taken over came to its end. -/
theorem took_follow {r : Request} {events : List StreamEvent} (hclosed : StreamEvent.Closed events)
    (hr : s.request? n = some r) (hparts : r.parts = []) (hunset : r.committed = false)
    (hb : s.Carries r.buffer b) (h : follow n s events = (t, .ok ())) (ht : t.flagged n = true) :
    ∃ pieces : List Text, events = pieces.map .chunk ++ [.finished] ∧
      TookOver t r.buffer b n pieces.flatten := by
  obtain ⟨pieces, last, rfl, hlast⟩ := hclosed
  obtain ⟨requests, hsession, hrequest⟩ := foldl_deliver hr pieces
  rw [follow_pieces, hsession, follow_singleton] at h
  rw [hparts, List.nil_append] at hrequest
  have hflagged : ({ s with requests } : Session).flagged n = false := by
    rw [flagged, hrequest, Option.any_some, hunset]
  cases last with
  | chunk piece => exact absurd rfl (hlast piece)
  | finished =>
    have htook := took_finish hrequest hunset hb h ht
    exact ⟨pieces, rfl, htook⟩
  | failed e =>
    have hset := flagged_orAbort n (({ s with requests } : Session).fail n e)
    have h : orAbort n (({ s with requests } : Session).fail n e) = (t, .ok ()) := h
    rw [h, flagged_fail, hflagged] at hset
    exact absurd (ht.symm.trans hset) nofun
  | broke e =>
    have hset := flagged_orAbort n (({ s with requests } : Session), .error e)
    have h : orAbort n (({ s with requests } : Session), .error e) = (t, .ok ()) := h
    rw [h, hflagged] at hset
    exact absurd (ht.symm.trans hset) nofun

/-- A request with a new number is found under it. -/
theorem find?_requests_concat {requests : List Request} {r : Request}
    (hnumbers : ∀ r ∈ requests, r.id ≠ n) (hn : r.id = n) :
    (requests ++ [r]).find? (·.id = n) = some r := by
  have hnone : requests.find? (·.id = n) = none := by simpa using hnumbers
  rw [List.find?_append, hnone, Option.none_or, List.find?_cons_of_pos (by simpa using hn)]

theorem Asked.request? (h : Asked s t id b n) (hnumbers : ∀ r ∈ s.requests, r.id ≠ n) :
    ∃ r, t.request? n = some r ∧ r.buffer = id ∧ r.parts = [] ∧ r.committed = false := by
  obtain ⟨r, hrequests, hn, hbuffer, hparts, hunset⟩ := h.requests
  refine ⟨r, ?_, hbuffer, hparts, hunset⟩
  rw [Session.request?, hrequests]
  exact find?_requests_concat hnumbers hn

variable {stream : List Message → List StreamEvent}

/-- **A round that took suggestions over** leaves the sets of one answer on offer, that of the cache
or that of the provider, in a buffer that is as it was. -/
theorem took_round (hnumbers : ∀ r ∈ s.requests, r.id ≤ s.lastRequest)
    (hclosed : ∀ messages, StreamEvent.Closed (stream messages))
    (h : s.round id stream = (t, .ok true)) :
    ∃ row col b answer, s.position id = .ok (row, col, b) ∧
      TookOver t id b (s.lastRequest + 1) answer ∧
      (s.stored? id = some answer ∨ ∃ (messages : List Message) (pieces : List Text),
        stream messages = pieces.map .chunk ++ [.finished] ∧ answer = pieces.flatten) := by
  rw [round] at h
  split at h
  · cases h
  · next committed hbegin =>
    cases h
    obtain ⟨row, col, b, answer, hpos, hstored, htook⟩ := (begin_cases hbegin).1 rfl
    exact ⟨row, col, b, answer, hpos, htook, .inl hstored⟩
  · next v n messages hbegin =>
    obtain ⟨row, col, b, hpos, rfl, hasked⟩ := (begin_cases hbegin).2 n messages rfl
    have hfresh : ∀ r ∈ s.requests, r.id ≠ s.lastRequest + 1 := by
      intro r hr
      have := hnumbers r hr
      omega
    obtain ⟨r, hr, rfl, hparts, hunset⟩ := hasked.request? hfresh
    cases hfollow : follow (s.lastRequest + 1) v (stream messages) with
    | mk u outcome =>
      rw [hfollow, settleRequest] at h
      obtain ⟨rfl, houtcome⟩ := Prod.mk.inj h
      obtain ⟨⟨⟩, rfl, hconclude⟩ := map_eq_ok houtcome
      have hset := (conclude_snd u (s.lastRequest + 1)).symm.trans hconclude
      obtain ⟨pieces, hpieces, htook⟩ :=
        took_follow (hclosed messages) hr hparts hunset hasked.carries hfollow hset
      have hconcluded := htook.frame (u := (u.conclude (s.lastRequest + 1)).1) htook.carries rfl
      exact ⟨row, col, b, _, hpos, hconcluded, .inr ⟨messages, pieces, hpieces, rfl⟩⟩

end Session

end GhostEdit
