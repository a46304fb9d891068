import ClimateNode.Shared.CanLink
import ClimateNode.Shared.Commands

/-!
`peer-node/src/main.cpp`: the framing of what the peer sends, and what it does
with a payload that arrives.
-/

namespace ClimateNode.Peer

open Wire

variable (pb : Nanopb)

/-- The frame `send_message` hands to `isotp_send`; `none` is `-EMSGSIZE`. -/
def sendMessage (type : RelayMsgType) (payload : Bytes) : Option Bytes :=
  if payload.length + 1 > 1 + nodeAckSize then none else some (type.byte :: payload)

/-- `send_telemetry`: the payload handed to `send_message`, none when the reading
does not encode. -/
def sendTelemetry (reading : SensorReading) : Option Bytes :=
  let payload := encodeTelemetry pb reading nodeTelemetrySize
  if payload.length = 0 then none else some payload

/-- The decoding half of `handle_incoming`: nothing for a payload that is not a
command, else what `decode_command` says. -/
def decodeIncoming (buf : Bytes) : Option (Bool × Command) :=
  match buf with
  | [] => none
  | type :: bytes =>
      if type ≠ RelayMsgType.command.byte then none else some (decodeCommand pb bytes false)

/-- `handle_incoming`: the payload of the Ack handed to `send_message`, if there
is one, and the commands state after. -/
def handleIncoming (node : NodeIdentity) (st : CommandState) (buf : Bytes) (bus : Int) :
    Option Bytes × CommandState :=
  match decodeIncoming pb buf with
  | none => (none, st)
  | some (false, _) =>
      let payload := encodeAck pb 0 .malformed (some (cstr "decode failed")) none nodeAckSize
      (if payload.length > 0 then some payload else none, st)
  | some (true, cmd) =>
      let handled := handleCommand node st cmd bus
      let payload := encodeAck pb cmd.sequence handled.1.status (some handled.1.detail)
        (if handled.1.hasInfo then some handled.1.info else none) nodeAckSize
      (if payload.length > 0 then some payload else none, handled.2)

/-- The size of the buffer `main` receives into. -/
def recvSize : ℕ := 1 + nodeCommandSize

end ClimateNode.Peer
