import Tela.Properties.EndpointFreshness

/-!
# Stdout discipline of the bridge

A frame that is a notification or a response is never answered by the bridge, a
request is answered under its own id, and no failure of a request ends the loop.
-/

namespace Tela.Bridge

open Text (startsWith)

variable {platform : BridgePlatform} {σ ρ : Type}

/-! ## Kinds of frames -/

/-- The object that a frame holds; a batch and a malformed frame hold none. -/
def BridgeMessage.object? (platform : BridgePlatform) (frame : BridgeMessage) :
    Option JsonObject :=
  match platform.loadsUtf8 frame.payload with
  | .value (.obj fields) => some (.ofList fields)
  | _ => none

def BridgeMessage.hasMethod (platform : BridgePlatform) (frame : BridgeMessage) : Bool :=
  (frame.object? platform).any fun decoded => ((decoded.get? "method").bind Json.str?).isSome

def BridgeMessage.isNotification (platform : BridgePlatform) (frame : BridgeMessage) : Bool :=
  frame.hasMethod platform && (frame.object? platform).any fun decoded => !decoded.contains "id"

def BridgeMessage.isResponse (platform : BridgePlatform) (frame : BridgeMessage) : Bool :=
  (frame.object? platform).any fun decoded =>
    decoded.contains "id" && !decoded.contains "method" &&
      (decoded.contains "result" || decoded.contains "error")

/--
No pass raises, no recovery fails with an error that ends the loop, and where the frame
may not be answered nothing fails at all.
-/
def settles (platform : BridgePlatform) (recoverTransport : Option (RecoverTransport σ ρ))
    (request : Request) (kind : FrameKind) (answerable : Bool) :
    List (Round ρ) → Endpoint → (sessionId : Option String) → σ → Bool
  | [], _, _, _ => true
  | round :: rest, endpoint, sessionId, state =>
      match attemptPost platform request kind recoverTransport.isSome endpoint sessionId
          round.post with
      | none => true
      | some (.error _) => false
      | some (.ok (.fail _)) => answerable
      | some (.ok (.drop _)) => true
      | some (.ok (.deliver _ _)) => true
      | some (.ok .recover) =>
          match recoverTransport with
          | none => answerable
          | some recover =>
              match recoverBridgeTransportState platform recover request round state with
              | (_, _, none) => true
              | (_, _, some (.error _)) => false
              | (_, _, some (.ok (.error error))) => answerable && !stops error
              | (_, state, some (.ok (.ok (next, nextSession)))) =>
                  settles platform recoverTransport request kind answerable rest next nextSession
                    state

/-- An error response to the frame names a request. -/
def BridgeMessage.answerable (platform : BridgePlatform) (frame : BridgeMessage) : Bool :=
  !(frame.isNotification platform || frame.isResponse platform) &&
    (jsonrpcRequestId platform frame.payload).isOk

theorem startsWith_append (head rest : String) : startsWith (head ++ rest) head = true := by
  rw [Text.startsWith_iff, String.toList_append]
  exact List.prefix_append _ _

/-- A forwarding that ends neither the loop nor the silence of the bridge. -/
inductive Settled (answerable isNotification : Bool) :
    Option (Except PyException (Except String ForwardedBridgeResponse)) → Prop
  | running : Settled answerable isNotification none
  | failed {error : String} (allowed : answerable = true) (goes : stops error = false) :
      Settled answerable isNotification (some (.ok (.error error)))
  | forwarded {forwarded : ForwardedBridgeResponse}
      (empty : forwarded.responseMessages = [] → isNotification = true) :
      Settled answerable isNotification (some (.ok (.ok forwarded)))

def notification : String := "\x7b\"method\":\"notifications/initialized\"\x7d"

end Tela.Bridge
