import MediaTransport.Text.Quoted

/-!
# Faults of the wire formats

Every way in which a packet cannot be read or written is a cause of its own. The
wording is in `PacketFault.message` and `WireError.message` only.
-/

namespace MediaTransport

/-- Why a packet is malformed, although enough octets are there. -/
inductive PacketFault
  /-- More contributing sources than the four-bit count can say. -/
  | tooManySources (count : Nat)
  /-- A payload type above 127. -/
  | widePayloadType (payloadType : UInt8)
  /-- A header extension that is no whole number of words, or has too many. -/
  | extensionLength (length : Nat)
  | paddingOnEmptyPayload
  /-- A padding length of zero or above the payload's length. -/
  | paddingLength (padding length : Nat)
  /-- More items than the five-bit count of a control packet can say. -/
  | controlCount (count : Nat)
  /-- A control packet whose body is longer than its length field can say. -/
  | controlTooLarge (length : Nat)
  /-- A padding length of zero or above the length of a control packet's body. -/
  | controlPadding (padding : Nat)
  | emptyDatagram
  | described (text : String)
  deriving DecidableEq

/-- Why octets cannot be read, or values cannot be written. -/
inductive WireError
  | bufferTooSmall (required available : Nat)
  /-- The version is not 2. -/
  | invalidVersion (version : UInt8)
  /-- The octets are there but contradict each other. -/
  | invalidPacket (fault : PacketFault)
  /-- A telephone event is shorter than four octets. -/
  | payloadTooShort (length : Nat)
  | unknownDigit (digit : Char)
  /-- A sequence number from before the last wrap. -/
  | sequenceRegression (last received : UInt16)
  deriving DecidableEq

def PacketFault.message : PacketFault → String
  | .tooManySources n => s!"too many CSRC entries: {n}"
  | .widePayloadType t => s!"payload type {t} does not fit in 7 bits"
  | .extensionLength n => s!"invalid header extension length {n}"
  | .paddingOnEmptyPayload => "padding flag set on empty payload"
  | .paddingLength k n => s!"invalid padding length {k} for payload of {n} bytes"
  | .controlCount n => s!"RTCP count {n} exceeds 31"
  | .controlTooLarge n => s!"RTCP packet too large: {n} bytes"
  | .controlPadding k => s!"invalid RTCP padding length {k}"
  | .emptyDatagram => "empty RTCP datagram"
  | .described text => text

def WireError.message : WireError → String
  | .bufferTooSmall required available =>
      s!"buffer too small: required {required} bytes, available {available}"
  | .invalidVersion v => s!"invalid RTP version {v}, expected 2"
  | .invalidPacket fault => s!"invalid packet: {fault.message}"
  | .payloadTooShort n => s!"DTMF payload too short: {n} bytes, need 4"
  | .unknownDigit c => "unknown DTMF digit " ++ Text.quoteChar c
  | .sequenceRegression last received =>
      s!"sequence regression: last={last} received={received}"

end MediaTransport
