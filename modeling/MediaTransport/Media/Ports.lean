import MediaTransport.Media.Settings
import MediaTransport.Net.Host

/-!
# Pairs of ports

A session receives media on one port and control packets on the port above it. The
pair is found in one of three ways: at the port that was asked for, by scanning a
range, or by trying whatever ports the host hands out. Scans do not all start at the
front of the range: each starts after the pair that the last successful one found.

A pair is taken whole or not at all: when the second port cannot be bound, the first
is freed again.
-/

namespace MediaTransport.Media

open Net

/-- The endpoints of a session. -/
structure PortPair where
  rtp : Endpoint
  /-- Where control packets arrive, if they are exchanged. -/
  rtcp : Option Endpoint
  deriving DecidableEq

def PortPair.endpoints (p : PortPair) : List Endpoint :=
  p.rtp :: p.rtcp.toList

/-- A host, and where the next scan of a range starts. -/
structure Ports where
  /-- The host whose ports are handed out. -/
  host : Host
  /-- The index of the pair with which the next scan starts. -/
  nextPair : Nat := 0

/-- Takes exactly the endpoint that is asked for, and the one above it. -/
def bindExact (h : Host) (e : Endpoint) (rtcp : Bool) : Except Error PortPair × Host :=
  match h.bind e with
  | (.error fault, h) => (.error (.bind e fault), h)
  | (.ok first, h) =>
      if !rtcp then (.ok ⟨first, none⟩, h)
      else
        match first.next? with
        | none => (.error (.portExhaustion (.nothingAbove first)), h.release first)
        | some above =>
            match h.bind above with
            | (.error fault, h) => (.error (.bind above fault), h.release first)
            | (.ok second, h) => (.ok ⟨first, some second⟩, h)

/-- Takes a pair if it is free. -/
def bindPair? (h : Host) (address : IpAddress) (port : UInt16) (rtcp : Bool) :
    Option PortPair × Host :=
  match h.bind ⟨address, port⟩ with
  | (.error _, h) => (none, h)
  | (.ok first, h) =>
      if !rtcp then (some ⟨first, none⟩, h)
      else
        match h.bind ⟨address, port + 1⟩ with
        | (.error _, h) => (none, h.release first)
        | (.ok second, h) => (some ⟨first, some second⟩, h)

/-- The indexes of `n` pairs from the one at `offset` on, and round. -/
def scanOrder (n offset : Nat) : List Nat :=
  (List.range n).map fun step => (offset + step) % n

/-- Takes the first pair that is free, and says which it was. -/
def firstFree? (address : IpAddress) (range : PortRange) (rtcp : Bool) :
    List Nat → Host → Option (Nat × PortPair) × Host
  | [], h => (none, h)
  | i :: rest, h =>
      match bindPair? h address (range.pairPort i) rtcp with
      | (some pair, h) => (some (i, pair), h)
      | (none, h) => firstFree? address range rtcp rest h

/-- Takes a pair at ports that the host chooses, in at most so many attempts. -/
def bindChosen? (address : IpAddress) (rtcp : Bool) : Nat → Host → Option PortPair × Host
  | 0, h => (none, h)
  | attempts + 1, h =>
      match h.bind ⟨address, 0⟩ with
      | (.error _, h) => bindChosen? address rtcp attempts h
      | (.ok first, h) =>
          if !rtcp then (some ⟨first, none⟩, h)
          else
            match first.next?.map h.bind with
            | some (.ok second, h) => (some ⟨first, some second⟩, h)
            | some (.error _, h) => bindChosen? address rtcp attempts (h.release first)
            | none => bindChosen? address rtcp attempts (h.release first)

namespace Ports

/-- Takes the first free pair of a range. -/
def bindInRange (p : Ports) (address : IpAddress) (range : PortRange) (rtcp : Bool) :
    Except Error PortPair × Ports :=
  let n := range.pairs
  if n = 0 then (.error (.portExhaustion (.narrowRange range)), p)
  else
    match firstFree? address range rtcp (scanOrder n (p.nextPair % n)) p.host with
    | (some (i, pair), h) => (.ok pair, ⟨h, (i + 1) % n⟩)
    | (none, h) => (.error (.portExhaustion (.takenRange range)), { p with host := h })

/-- Takes a pair of ports: the one that is asked for, or else one out of the range of
the settings, or else one that the host chooses. The zone of the address has no say. -/
def bindPair (p : Ports) (e : Endpoint) (s : Settings) : Except Error PortPair × Ports :=
  let address := e.address.unzoned
  if e.port ≠ 0 then
    let (result, h) := bindExact p.host ⟨address, e.port⟩ s.rtcpEnabled
    (result, { p with host := h })
  else
    match s.portRange with
    | some range => p.bindInRange address range s.rtcpEnabled
    | none =>
        match bindChosen? address s.rtcpEnabled s.bindAttempts.toNat p.host with
        | (some pair, h) => (.ok pair, { p with host := h })
        | (none, h) =>
            (.error (.portExhaustion (.noFreePair s.bindAttempts.toNat)), { p with host := h })

def release (p : Ports) (es : List Endpoint) : Ports :=
  { p with host := p.host.releaseAll es }

end Ports

end MediaTransport.Media
