import MediaTransport.Rtp.Header

/-!
# Media packets

A packet is a header and a payload. On the wire padding may follow the payload, with
its length in its last octet; it is taken off when a packet is read, and none is
written.
-/

namespace MediaTransport.Rtp

/-- The size of the buffers that hold one datagram. -/
def datagramLimit : Nat := 1600

structure Packet where
  header : Header
  payload : Bytes
  deriving DecidableEq

namespace Packet

def size (p : Packet) : Nat :=
  p.header.size + p.payload.length

def removePadding (payload : Bytes) : Except WireError Bytes :=
  match Bytes.unpad? payload with
  | some rest => .ok rest
  | none =>
      match payload.getLast? with
      | none => .error (.invalidPacket .paddingOnEmptyPayload)
      | some k => .error (.invalidPacket (.paddingLength k.toNat payload.length))

def decode (datagram : Bytes) : Except WireError Packet :=
  match Header.decode datagram with
  | .error refusal => .error refusal.error
  | .ok (header, payload) =>
      if header.padding then
        match removePadding payload with
        | .error e => .error e
        | .ok payload => .ok ⟨header, payload⟩
      else .ok ⟨header, payload⟩

def encode (p : Packet) : Except WireError Bytes :=
  match p.header.encode with
  | .error e => .error e
  | .ok octets => .ok (octets ++ p.payload)

def describe (p : Packet) : String :=
  s!"{p.header.describe}\n\tPayload Length: {p.payload.length}"

end Packet

end MediaTransport.Rtp
