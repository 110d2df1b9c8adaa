import FleetWarden.Manager.System
import FleetWarden.Proofs.Projection

/-!
# Transcripts

What a client is asked and what it answers, in order. Every client has a transcribed one, which
writes down each question with its answer and does nothing else in another way. An operation is as
good as transcribed if leaving the transcript out gives the operation back.

## Implementation notes

The transcript stands beside the remote side, where the client that is transcribed cannot see it.
Of a description only the name is written down, because nothing else decides what is asked next.
-/

namespace FleetWarden

/-- A question with its answer. -/
inductive Exchange where
  | described (name : String) (answer : Except Fault String)
  | listed (name : String) (answer : Except Fault (List Member))
  | updated (name : String) (capacity : Int) (answer : Except Fault Unit)
  | deleted (name : String) (ids : List String) (answer : Except Fault Unit)

/-- A remote side, and what it was asked so far. -/
structure Transcribed (ρ : Type) where
  remote : ρ
  transcript : List Exchange

section
variable {ρ α : Type}

namespace World

/-- The world without its transcript. -/
def bare (w : World (Transcribed ρ)) : World ρ :=
  ⟨w.remote.remote, w.clock, w.log, w.loopLog, w.threads⟩

/-- The world at the beginning of a transcript. -/
def transcribed (w : World ρ) : World (Transcribed ρ) :=
  ⟨⟨w.remote, []⟩, w.clock, w.log, w.loopLog, w.threads⟩

@[simp] theorem bare_transcribed (w : World ρ) : w.transcribed.bare = w := rfl

end World

/-- Asks as before and writes the exchange down. -/
def Effect.transcribed (write : Except Fault α → Exchange) (x : Effect ρ α) :
    Effect (Transcribed ρ) α := fun w =>
  let (answer, after) := x w.bare
  (answer, ⟨⟨after.remote, w.remote.transcript ++ [write answer]⟩, after.clock, after.log,
    after.loopLog, after.threads⟩)

/-- The client that writes down what it is asked and what it answers. -/
def Client.transcribed (client : Client ρ) : Client (Transcribed ρ) where
  describe name :=
    (client.describe name).transcribed fun answer => .described name (answer.map (·.name))
  list name := (client.list name).transcribed (.listed name)
  update name capacity current :=
    (client.update name capacity current).transcribed (.updated name capacity)
  delete name ids := (client.delete name ids).transcribed (.deleted name ids)

namespace Client
variable {client : Client ρ} {name : String} {w w' : World (Transcribed ρ)}

theorem projects_describe (client : Client ρ) (name : String) :
    Action.Projects World.bare (client.transcribed.describe name) (client.describe name) :=
  fun _ => rfl

theorem projects_list (client : Client ρ) (name : String) :
    Action.Projects World.bare (client.transcribed.list name) (client.list name) := fun _ => rfl

theorem transcript_of_describe {answer : Except Fault Description}
    (h : client.transcribed.describe name w = (answer, w')) :
    w'.remote.transcript = w.remote.transcript ++ [.described name (answer.map (·.name))] := by
  cases h
  rfl

theorem transcript_of_list {answer : Except Fault (List Member)}
    (h : client.transcribed.list name w = (answer, w')) :
    w'.remote.transcript = w.remote.transcript ++ [.listed name answer] := by
  cases h
  rfl

theorem transcript_of_delete {ids : List String} {answer : Except Fault Unit}
    (h : client.transcribed.delete name ids w = (answer, w')) :
    w'.remote.transcript = w.remote.transcript ++ [.deleted name ids answer] := by
  cases h
  rfl

end Client

theorem projects_emit (e : Event) :
    Action.Projects World.bare (emit e : Effect (Transcribed ρ) Unit) (emit e) :=
  Action.projects_change fun _ => rfl

namespace System

/-- The system without its transcript. -/
def bare (s : System (Transcribed ρ)) : System ρ :=
  ⟨s.entries, s.snapshot, s.rebuilds, s.loop, s.world.bare⟩

/-- The system at the beginning of a transcript. -/
def transcribed (s : System ρ) : System (Transcribed ρ) :=
  ⟨s.entries, s.snapshot, s.rebuilds, s.loop, s.world.transcribed⟩

@[simp] theorem bare_transcribed (s : System ρ) : s.transcribed.bare = s := rfl

end System

theorem Effect.projects_lift {x : Effect (Transcribed ρ) α} {y : Effect ρ α}
    (h : Action.Projects World.bare x y) :
    Action.Projects System.bare (Effect.lift x) (Effect.lift y) :=
  h.within (fun _ => rfl) fun _ _ => rfl

end
end FleetWarden
