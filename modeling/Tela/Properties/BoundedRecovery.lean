import Tela.Library.Budget
import Tela.Properties.ReplaySafety

/-!
# Bounded recovery of the bridge

The counter of recovery attempts is a budget: a recovery that looks for the gateway
spends one attempt, and a frame that is fully handled refills it.
-/

namespace Tela.Bridge

open Budget

variable {platform : BridgePlatform} {limit : Nat}

/-! ## Marks -/

def Event.mark? : Event → Option Mark
  | .recovered ⟨true, _⟩ => some .spend
  | _ => none

/-- The gateway recoveries among the events. -/
def eventMarks (events : List Event) : List Mark := events.filterMap Event.mark?

/-- The frame is fully handled: its attempts are given back. -/
def Completion.marks : Completion → List Mark
  | .completed => [.refill]
  | _ => []

def FrameLog.marks (log : FrameLog) : List Mark := eventMarks log.events ++ log.completion.marks

def Recovered.marks (outcome : Recovered) : List Mark := if outcome.probed then [.spend] else []

def CycleLog.marks (log : CycleLog) : List Mark :=
  log.frames.flatMap FrameLog.marks ++ (log.recovered.map Recovered.marks).getD []

/-- Both POSTs of the pass are answered, or fail. -/
structure Round.Answered {ρ : Type} (round : Round ρ) : Prop where
  post : round.post ≠ .unanswered
  bootstrap : round.bootstrap ≠ .unanswered

section Answered

variable {σ ρ : Type} {request : Request} {kind : FrameKind} {endpoint : Endpoint}
  {sessionId : Option String} {round : Round ρ} {state : σ}

end Answered

section Forwarding

variable (platform : BridgePlatform) (limit : Nat) (request : Request) (kind : FrameKind)
  (endpoint : Endpoint) (sessionId : Option String)

end Forwarding

/-! ## One frame -/

section Frame

variable {σ ρ : Type} {bridgeConnectionId : String}
  {recoverTransport : Option (RecoverTransport σ ρ)} {session : BridgeSession}
  {frame : BridgeMessage} {rounds : List (Round ρ)} {brokenWrite : Option (Nat × String)}
  {state : σ}

/-- A frame that cannot be read is not forwarded. -/
theorem forwardFrame_unread {exc : PyException}
    (unread : readRequest platform bridgeConnectionId session frame.payload = .error exc) :
    forwardFrame platform bridgeConnectionId recoverTransport session frame rounds brokenWrite
      state = (⟨frame, [], [], .raised exc⟩, session, state) := by
  unfold forwardFrame
  rw [unread]

/-- What is done for a frame is what its forwarding does. -/
theorem forwardFrame_read {request : Request}
    (read : readRequest platform bridgeConnectionId session frame.payload = .ok request) :
    (forwardFrame platform bridgeConnectionId recoverTransport session frame rounds brokenWrite
        state).1.events =
      (forwardRequestWithRecovery platform recoverTransport request session.endpoint
        session.sessionId rounds state).events ∧
    (forwardFrame platform bridgeConnectionId recoverTransport session frame rounds brokenWrite
        state).2.2 =
      (forwardRequestWithRecovery platform recoverTransport request session.endpoint
        session.sessionId rounds state).state := by
  unfold forwardFrame
  rw [read]
  dsimp only
  split
  · exact ⟨rfl, rfl⟩
  · exact ⟨rfl, rfl⟩
  · exact ⟨rfl, rfl⟩
  · split <;> exact ⟨rfl, rfl⟩

end Frame

variable (platform : BridgePlatform) (limit : Nat) (connectionId : String)

section Ends

variable {platform : BridgePlatform} {limit : Nat} {connectionId : String}

/-- The script of the turn answers its POSTs and goes beyond the attempts. -/
structure Turn.Answered (limit : Nat) (turn : Turn RecoveryAnswer) : Prop where
  enough : limit < turn.rounds.length
  rounds : ∀ round ∈ turn.rounds, round.Answered

/-- The gateway answers or fails every POST of the cycle. -/
def Cycle.Answered (limit : Nat) (cycle : Cycle) : Prop := ∀ turn ∈ cycle.turns, turn.Answered limit

end Ends

end Tela.Bridge
