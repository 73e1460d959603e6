import MediaTransport.Bytes
import MediaTransport.FirstOctet
import MediaTransport.WireError

/-!
# Frames of control packets

Every control packet is framed alike: an octet with version, padding flag and a
count, the packet type, the length of the body in words, and the body. A datagram
is a row of frames. `Frame.split` takes one off its front, without its padding;
`Frame.encode` writes one, after its body has been brought to a whole number of
words.
-/

namespace MediaTransport.Rtcp

/-- A control packet whose body is not looked into. -/
structure Frame where
  packetType : UInt8
  /-- The number of items, or a subtype; five bits are sent. -/
  count : Nat
  body : Bytes
  deriving DecidableEq

namespace Frame

/-- Octets in front of the body. -/
def headSize : Nat := 4

def countLimit : Nat := 31

def bodyLimit : Nat := 262140

def removePadding (body : Bytes) : Except WireError Bytes :=
  match Bytes.unpad? body with
  | some rest => .ok rest
  | none => .error (.invalidPacket (.controlPadding ((body.getLast?.map UInt8.toNat).getD 0)))

/-- The frame at the front of a datagram, and what follows it. -/
def split : Bytes → Except WireError (Frame × Bytes)
  | first :: packetType :: n1 :: n0 :: rest =>
      if FirstOctet.version first = formatVersion then
        let length := 4 * (Bytes.word16 n1 n0).toNat
        match Bytes.split? length rest with
        | none => .error (.bufferTooSmall (headSize + length) (headSize + rest.length))
        | some (body, rest) =>
            if FirstOctet.padding first then
              match removePadding body with
              | .error e => .error e
              | .ok body => .ok (⟨packetType, FirstOctet.items first, body⟩, rest)
            else .ok (⟨packetType, FirstOctet.items first, body⟩, rest)
      else .error (.invalidVersion (FirstOctet.version first))
  | short => .error (.bufferTooSmall headSize short.length)

theorem length_lt_of_split {b rest : Bytes} {f : Frame} (h : split b = .ok (f, rest)) :
    rest.length < b.length := by
  unfold split at h
  split at h
  · rename_i first packetType n1 n0 tail
    split at h
    · dsimp only at h
      split at h
      · simp at h
      · rename_i body tail' hsplit
        have hlength : tail'.length ≤ tail.length := by
          rw [(Bytes.split?_eq_some_iff.mp hsplit).1, List.length_append]
          omega
        have hrest : rest = tail' := by
          split at h
          · split at h
            · simp at h
            · simp only [Except.ok.injEq, Prod.mk.injEq] at h
              exact h.2.symm
          · simp only [Except.ok.injEq, Prod.mk.injEq] at h
            exact h.2.symm
        rw [hrest]
        simp only [List.length_cons]
        omega
    · simp at h
  · simp at h

/-- Why the frame cannot be written, if it cannot. -/
def fault? (f : Frame) : Option PacketFault :=
  let length := (Bytes.padToWord f.body).length
  if countLimit < f.count then some (.controlCount f.count)
  else if bodyLimit < length then some (.controlTooLarge length)
  else none

/-- The octets of a frame whose parts fit. -/
def octets (f : Frame) : Bytes :=
  let body := Bytes.padToWord f.body
  UInt8.ofNat (128 + f.count) :: f.packetType ::
    (Bytes.octets16 (UInt16.ofNat (body.length / 4)) ++ body)

def encode (f : Frame) : Except WireError Bytes :=
  match f.fault? with
  | some fault => .error (.invalidPacket fault)
  | none => .ok f.octets

end Frame

end MediaTransport.Rtcp
