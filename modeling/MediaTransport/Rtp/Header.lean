import MediaTransport.Bytes
import MediaTransport.FirstOctet
import MediaTransport.Rtp.Clock
import MediaTransport.WireError

/-!
# Packet headers

A header is twelve octets, then the contributing sources, then an extension if there
is one. `Header.decode` reads it off the front of a datagram in four steps, each of
which first checks that its octets are there: the fixed part, the sources, the head
of the extension and its data. A refusal says what was missing and how many octets
had been consumed until then.

`Header.encode` checks what the fields of the fixed part cannot say (more than 15
sources, a payload type of more than seven bits, an extension that is no whole
number of words) before it writes anything. The version is reduced to its two bits,
and the padding flag is never written, because no padding is.
-/

namespace MediaTransport.Rtp

/-- A header extension: a profile's mark and its data. -/
structure Extension where
  /-- What the data means, as a profile defines it. -/
  profile : UInt16
  /-- The data, a whole number of 32-bit words when it is sent. -/
  data : Bytes
  deriving DecidableEq

/-- The header of a media packet. -/
structure Header where
  /-- The format version; 2 in every header that is read. -/
  version : UInt8 := formatVersion
  padding : Bool := false
  /-- The profile's mark, on the first packet of a talk spurt. -/
  marker : Bool := false
  /-- Which payload format is carried; seven bits are sent. -/
  payloadType : UInt8
  sequenceNumber : UInt16
  /-- The media clock at the first octet of the payload. -/
  timestamp : Timestamp
  ssrc : UInt32
  /-- The sources that a mixer has combined. -/
  csrc : List UInt32 := []
  extension : Option Extension := none
  deriving DecidableEq

/-- A header that could not be read. -/
structure Header.Refusal where
  error : WireError
  consumed : Nat
  deriving DecidableEq

namespace Extension

/-- Octets of an extension with its head. -/
def size (x : Extension) : Nat :=
  4 + x.data.length

/-- An extension in octets: the profile, the number of words, and the data. -/
def encode (x : Extension) : Bytes :=
  Bytes.octets16 x.profile ++ Bytes.octets16 (UInt16.ofNat (x.data.length / 4)) ++ x.data

/-- Whether the data is a whole number of words that the length field can say. -/
def IsWhole (x : Extension) : Prop :=
  x.data.length % 4 = 0 ∧ x.data.length / 4 ≤ 65535

instance (x : Extension) : Decidable x.IsWhole :=
  inferInstanceAs (Decidable (_ ∧ _))

/-- The extension at the front of `b`, whose first octet is at `offset`. -/
def decode (offset : Nat) (b : Bytes) : Except Header.Refusal (Extension × Bytes) :=
  match b with
  | p1 :: p0 :: n1 :: n0 :: rest =>
      let length := 4 * (Bytes.word16 n1 n0).toNat
      match Bytes.split? length rest with
      | some (data, rest) => .ok (⟨Bytes.word16 p1 p0, data⟩, rest)
      | none => .error ⟨.bufferTooSmall length rest.length, offset + 4⟩
  | short => .error ⟨.bufferTooSmall 4 short.length, offset⟩

end Extension

namespace Header

def fixedSize : Nat := 12

def size (h : Header) : Nat :=
  fixedSize + 4 * h.csrc.length + (h.extension.map Extension.size).getD 0

def markerOf (second : UInt8) : Bool :=
  128 ≤ second.toNat

def payloadTypeOf (second : UInt8) : UInt8 :=
  UInt8.ofNat (second.toNat % 128)

/-- The contributing sources that a first octet announces, from the octets after the
fixed part. -/
def decodeSources (first : UInt8) (b : Bytes) : Except Refusal (List UInt32 × Bytes) :=
  let length := 4 * FirstOctet.sources first
  match Bytes.split? length b with
  | some (sources, rest) => .ok (Bytes.words sources, rest)
  | none => .error ⟨.bufferTooSmall length b.length, fixedSize⟩

/-- The extension that a first octet announces, if it does. -/
def decodeExtension (first : UInt8) (b : Bytes) :
    Except Refusal (Option Extension × Bytes) :=
  if FirstOctet.extension first then
    match Extension.decode (fixedSize + 4 * FirstOctet.sources first) b with
    | .ok (x, rest) => .ok (some x, rest)
    | .error e => .error e
  else .ok (none, b)

/-- The header at the front of a datagram, and what follows it. -/
def decode : Bytes → Except Refusal (Header × Bytes)
  | b0 :: b1 :: s1 :: s0 :: t3 :: t2 :: t1 :: t0 :: c3 :: c2 :: c1 :: c0 :: rest =>
      if FirstOctet.version b0 = formatVersion then
        match decodeSources b0 rest with
        | .error e => .error e
        | .ok (csrc, rest) =>
            match decodeExtension b0 rest with
            | .error e => .error e
            | .ok (extension, rest) =>
                .ok ({ version := FirstOctet.version b0
                       padding := FirstOctet.padding b0
                       marker := markerOf b1
                       payloadType := payloadTypeOf b1
                       sequenceNumber := Bytes.word16 s1 s0
                       timestamp := Bytes.word32 t3 t2 t1 t0
                       ssrc := Bytes.word32 c3 c2 c1 c0
                       csrc := csrc
                       extension := extension }, rest)
      else .error ⟨.invalidVersion (FirstOctet.version b0), 1⟩
  | short => .error ⟨.bufferTooSmall fixedSize short.length, 0⟩

def firstOctet (h : Header) : UInt8 :=
  UInt8.ofNat
    (h.version.toNat % 4 * 64 + (if h.extension.isSome then 16 else 0) + h.csrc.length)

def secondOctet (h : Header) : UInt8 :=
  UInt8.ofNat ((if h.marker then 128 else 0) + h.payloadType.toNat)

/-- The octets of a header whose fields fit. -/
def octets (h : Header) : Bytes :=
  h.firstOctet :: h.secondOctet ::
    (Bytes.octets16 h.sequenceNumber ++ Bytes.octets32 h.timestamp ++ Bytes.octets32 h.ssrc ++
      Bytes.octetsList h.csrc ++ (h.extension.map Extension.encode).getD [])

/-- Why the header cannot be written, if it cannot. -/
def fault? (h : Header) : Option PacketFault :=
  if 15 < h.csrc.length then some (.tooManySources h.csrc.length)
  else if 127 < h.payloadType.toNat then some (.widePayloadType h.payloadType)
  else
    match h.extension with
    | none => none
    | some x => if x.IsWhole then none else some (.extensionLength x.data.length)

def encode (h : Header) : Except WireError Bytes :=
  match h.fault? with
  | some fault => .error (.invalidPacket fault)
  | none => .ok h.octets

/-- A buffer after the header has been written to its end; it stays as it was when
the header cannot be written. -/
def appendTo (buffer : Bytes) (h : Header) : Bytes × Except WireError Unit :=
  match h.encode with
  | .ok octets => (buffer ++ octets, .ok ())
  | .error e => (buffer, .error e)

def describe (h : Header) : String :=
  s!"RTP Header:\n\tVersion: {h.version}\n\tMarker: {h.marker}" ++
    s!"\n\tPayload Type: {h.payloadType}\n\tSequence Number: {h.sequenceNumber}" ++
    s!"\n\tTimestamp: {h.timestamp}\n\tSSRC: {h.ssrc} ({Text.hexWord h.ssrc})"

theorem length_octets (h : Header) : h.octets.length = h.size := by
  obtain ⟨version, padding, marker, payloadType, sequenceNumber, timestamp, ssrc, csrc, x⟩ := h
  cases x <;>
    simp only [octets, size, fixedSize, Extension.size, Extension.encode, List.length_cons,
      List.length_append, Bytes.length_octets16, Bytes.length_octets32,
      Bytes.length_octetsList, Option.map_none, Option.map_some, Option.getD_none,
      Option.getD_some, List.length_nil] <;>
    omega

end Header

end MediaTransport.Rtp
