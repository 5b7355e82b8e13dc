import Tela.Commands.ConnectBridge
import Tela.Library.Octets

/-!
# Stdio framing

The messages on stdin and stdout: with a `Content-Length` header, or one on a line. The
reader guesses from the first line which of the two a message uses.
-/

namespace Tela.Bridge

open Octets (lineFeed readLine strip)

/-! ## The reader -/

/-- Read the header lines up to the empty one; nothing at the end of the stream. -/
def skipHeaders (stream : Bytes) : Option Bytes :=
  if (readLine stream).1 = [] then none
  else if (readLine stream).1 = [13, lineFeed] ∨ (readLine stream).1 = [lineFeed] then
    some (readLine stream).2
  else skipHeaders (readLine stream).2
termination_by stream.length
decreasing_by exact Octets.readLine_shorter ‹_›

/-- `stream.read(length)` of a buffered reader: the length `-1` reads everything. -/
def readBytes (length : Int) (stream : Bytes) : Except PyException (Bytes × Bytes) :=
  if length > Octets.maxSize ∨ length < -Octets.maxSize - 1 then
    .error ⟨.other, "OverflowError", "cannot fit 'int' into an index-sized integer"⟩
  else if length < -1 then .error (.valueError "read length must be non-negative or -1")
  else if length = -1 then .ok (stream, [])
  else .ok (stream.take length.toNat, stream.drop length.toNat)

def isContentLength (line : Bytes) : Bool :=
  (Octets.ascii "content-length:").isPrefixOf (line.map Octets.lower)

/-- What a read comes to: a message, none at the end of the stream, or an error. -/
abbrev ReadOutcome := Except PyException (Except String (Option BridgeMessage))

/-- The rest of a message whose first line is a `Content-Length` header. -/
def readFramedBody (line stream : Bytes) : ReadOutcome × Bytes :=
  match Octets.int? ((line.dropWhile (· ≠ 58)).drop 1) with
  | none => (.ok (.error "MCP_FORWARD_FAILED: invalid Content-Length header"), stream)
  | some contentLength =>
      match skipHeaders stream with
      | none => (.ok (.error "MCP_FORWARD_FAILED: EOF while reading MCP headers"), [])
      | some body =>
          match readBytes contentLength body with
          | .error exc => (.error exc, body)
          | .ok (payload, rest) =>
              if (payload.length : Int) ≠ contentLength then
                (.ok (.error "MCP_FORWARD_FAILED: EOF while reading MCP frame body"), rest)
              else (.ok (.ok (some ⟨payload, true⟩)), rest)

/-- `read_framed_message`: what it comes to, and what is left of the stream. -/
def readFramedMessage (stream : Bytes) : ReadOutcome × Bytes :=
  if (readLine stream).1 = [] then (.ok (.ok none), (readLine stream).2)
  else if strip (readLine stream).1 = [] then readFramedMessage (readLine stream).2
  else if isContentLength (readLine stream).1 then
    readFramedBody (readLine stream).1 (readLine stream).2
  else (.ok (.ok (some ⟨strip (readLine stream).1, false⟩)), (readLine stream).2)
termination_by stream.length
decreasing_by exact Octets.readLine_shorter ‹_›

/-- The messages up to the end of the stream, when no read fails. -/
inductive ReadsBack : Bytes → List BridgeMessage → Prop
  | ended {stream rest : Bytes} (read : readFramedMessage stream = (.ok (.ok none), rest)) :
      ReadsBack stream []
  | message {stream rest : Bytes} {message : BridgeMessage} {messages : List BridgeMessage}
      (read : readFramedMessage stream = (.ok (.ok (some message)), rest))
      (later : ReadsBack rest messages) : ReadsBack stream (message :: messages)

/-! ## The writer -/

def isLineEnd (b : UInt8) : Bool := b == 13 || b == lineFeed

def contentLengthHeader (length : Nat) : Bytes :=
  Octets.ascii "Content-Length: " ++ Octets.decimal length ++ Octets.ascii "\r\n\r\n"

/-- `write_framed_message`: the bytes that a write that succeeds appends. -/
def writeFramedMessage (payload : Bytes) (framed : Bool) : Bytes :=
  if framed then contentLengthHeader payload.length ++ payload
  else Trim.right isLineEnd payload ++ [lineFeed]

/-- `_write_bridge_response_messages`, when every write succeeds. -/
def responseStream (responseMessages : List Bytes) (framed : Bool) : Bytes :=
  responseMessages.flatMap fun responseMessage => writeFramedMessage responseMessage framed

/-! ## What the reader makes of a stream -/

theorem ReadsBack.unique {stream : Bytes} {messages others : List BridgeMessage}
    (first : ReadsBack stream messages) (second : ReadsBack stream others) : messages = others := by
  induction first generalizing others with
  | ended read =>
      cases second with
      | ended => rfl
      | message read' =>
          rw [read] at read'
          cases read'
  | message read later ih =>
      cases second with
      | ended read' =>
          rw [read] at read'
          cases read'
      | message read' later' =>
          rw [read] at read'
          cases read'
          rw [ih later']

theorem ReadsBack.empty : ReadsBack [] [] := by
  have read : readFramedMessage [] = (.ok (.ok none), []) := by
    rw [readFramedMessage]
    rfl
  exact .ended read

/-- A blank line is skipped. -/
theorem readFramedMessage_blank {line : Bytes} (unbroken : lineFeed ∉ line)
    (blank : strip (line ++ [lineFeed]) = []) (rest : Bytes) :
    readFramedMessage (line ++ lineFeed :: rest) = readFramedMessage rest := by
  rw [readFramedMessage, Octets.readLine_append unbroken, if_neg (by simp), if_pos blank]

/-- Any other line without the header is a message. -/
theorem readFramedMessage_line {line : Bytes} (unbroken : lineFeed ∉ line)
    (ink : strip (line ++ [lineFeed]) ≠ []) (headless : isContentLength (line ++ [lineFeed]) = false)
    (rest : Bytes) :
    readFramedMessage (line ++ lineFeed :: rest) =
      (.ok (.ok (some ⟨strip (line ++ [lineFeed]), false⟩)), rest) := by
  rw [readFramedMessage, Octets.readLine_append unbroken, if_neg (by simp), if_neg ink,
    if_neg (by rw [headless]; nofun)]

theorem ReadsBack.skip {stream rest : Bytes} {messages : List BridgeMessage}
    (same : readFramedMessage stream = readFramedMessage rest) (later : ReadsBack rest messages) :
    ReadsBack stream messages := by
  cases later with
  | ended read => exact .ended (same.trans read)
  | message read later => exact .message (same.trans read) later

end Tela.Bridge
