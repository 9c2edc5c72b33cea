import GhostEdit.Prompt
import GhostEdit.Provider.Stream

/-!
# What reaches the caller of a provider

A provider delivers pieces and then its end or a failure, and a guard in front of it may hold the
request back or break the call. Whatever happens, one event closes the stream, and nothing comes
after it.

## Main definitions

* `StreamEvent.Closed`: a stream whose last event is its only one that is no piece
* `StreamEvent.answer?`: what a stream amounts to
* `Endpoint`, `Endpoint.stream`: a provider, and the guard in front of it

## Main results

* `Guard.call_run`: what a guard lets through
* `Endpoint.stream_closed`: every stream is closed
-/

namespace GhostEdit

/-- A stream whose last event is its only one that is no piece. -/
def StreamEvent.Closed (events : List StreamEvent) : Prop :=
  ∃ (pieces : List Text) (last : StreamEvent), events = pieces.map .chunk ++ [last] ∧
    ∀ piece, last ≠ .chunk piece

/-- What a stream amounts to: its pieces, if it comes to its end. -/
def StreamEvent.answer? : List StreamEvent → Option Text
  | [] => none
  | .chunk piece :: rest => (answer? rest).map (piece ++ ·)
  | .finished :: _ => some []
  | .failed _ :: _ => none
  | .broke _ :: _ => none

theorem StreamEvent.answer?_pieces (pieces : List Text) (rest : List StreamEvent) :
    answer? (pieces.map .chunk ++ rest) = (answer? rest).map (pieces.flatten ++ ·) := by
  induction pieces with
  | nil => simp
  | cons piece pieces ih =>
    rw [List.map_cons, List.cons_append, answer?, ih, Option.map_map]
    simp [Function.comp_def]

namespace Guard

/-- A guard passes pieces on as they are. -/
theorem observeAll_pieces (now : Seconds) (g : Guard) (pieces : List Text)
    (rest : List StreamEvent) :
    (observeAll now g (pieces.map .chunk ++ rest)).2
      = pieces.map .chunk ++ (observeAll now g rest).2 := by
  induction pieces with
  | nil => rfl
  | cons piece pieces ih => exact congrArg (StreamEvent.chunk piece :: ·) ih

/-- A guard lets a failure be one. -/
theorem observe_failed (now : Seconds) (g : Guard) (e : Failure) :
    ∃ cause, (g.observe now (.failed e)).2 = .failed cause ∨
      (g.observe now (.failed e)).2 = .broke cause := by
  rw [observe]
  split
  · exact ⟨_, .inl rfl⟩
  · exact ⟨_, .inr rfl⟩

/-- **What a guard lets through** of a provider's stream: the pieces and then the end, or a
failure. -/
theorem call_run (g : Guard) (now : Seconds) (name : String) (available : Bool)
    (pieces : List Text) (breaks : Option Failure) :
    (g.call now (Stream.run name available pieces breaks)).2
        = (pieces.filter (!·.isEmpty)).map .chunk ++ [.finished] ∨
      ∃ (delivered : List Text) (e : Failure),
        (g.call now (Stream.run name available pieces breaks)).2
            = delivered.map .chunk ++ [.failed e] ∨
          (g.call now (Stream.run name available pieces breaks)).2
            = delivered.map .chunk ++ [.broke e] := by
  rw [call]
  split
  · next e _ => exact .inr ⟨[], e, .inl rfl⟩
  · next g _ =>
    unfold Stream.run
    split
    · rw [observeAll_pieces]
      cases breaks with
      | none => exact .inl rfl
      | some cause =>
        obtain ⟨e, he | he⟩ := observe_failed now g (Stream.broken name cause)
        · exact .inr ⟨_, e, .inl (congrArg (_ ++ [·]) he)⟩
        · exact .inr ⟨_, e, .inr (congrArg (_ ++ [·]) he)⟩
    · obtain ⟨e, he | he⟩ := observe_failed now g (Stream.unavailable name)
      · exact .inr ⟨[], e, .inl (congrArg ([·]) he)⟩
      · exact .inr ⟨[], e, .inr (congrArg ([·]) he)⟩

theorem closed_call_run (g : Guard) (now : Seconds) (name : String) (available : Bool)
    (pieces : List Text) (breaks : Option Failure) :
    StreamEvent.Closed (g.call now (Stream.run name available pieces breaks)).2 := by
  rcases g.call_run now name available pieces breaks with h | ⟨delivered, e, h | h⟩
  · exact ⟨_, _, h, nofun⟩
  · exact ⟨delivered, _, h, nofun⟩
  · exact ⟨delivered, _, h, nofun⟩

end Guard

theorem Stream.closed_run (name : String) (available : Bool) (pieces : List Text)
    (breaks : Option Failure) : StreamEvent.Closed (run name available pieces breaks) := by
  unfold run
  split
  · refine ⟨_, _, rfl, ?_⟩
    cases breaks <;> nofun
  · exact ⟨[], _, rfl, nofun⟩

/-- A provider as its caller knows it, with the guard in front of it, if there is one. -/
structure Endpoint where
  name : String
  available : Bool
  /-- The pieces it delivers when it is sent messages. -/
  pieces : List Message → List Text
  /-- What the delivery breaks with, if it does. -/
  breaks : List Message → Option Failure
  guarded : Option Guard

/-- What an endpoint streams when it is sent messages, with what the clock of the guard shows. -/
def Endpoint.stream (p : Endpoint) (now : Seconds) (messages : List Message) : List StreamEvent :=
  let events := Stream.run p.name p.available (p.pieces messages) (p.breaks messages)
  match p.guarded with
  | none => events
  | some g => (g.call now events).2

/-- **Every stream is closed.** -/
theorem Endpoint.stream_closed (p : Endpoint) (now : Seconds) (messages : List Message) :
    StreamEvent.Closed (p.stream now messages) := by
  rw [stream]
  split
  · exact Stream.closed_run ..
  · exact Guard.closed_call_run ..

end GhostEdit
