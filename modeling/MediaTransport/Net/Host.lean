import MediaTransport.Net.Address
import MediaTransport.Net.Fault
import MediaTransport.Net.PortRange

/-!
# Hosts

A host has addresses of its own and knows which of its ports are taken. Binding a
given port succeeds exactly when the address is local and the port is not taken, and
takes it; binding port zero takes some port of the dynamic range that is not taken.
Releasing an endpoint frees its port.
-/

namespace MediaTransport.Net

/-- The ports and addresses of a host. -/
structure Host where
  isLocal : IpAddress → Bool
  taken : List Endpoint := []
  /-- Where in the dynamic range the search for a port starts. -/
  cursor : Nat := 0

/-- The ports that are handed out when none is asked for. -/
def dynamicPorts : PortRange := ⟨49152, 65535⟩

/-- The endpoint with the next port, where there is one. It is in the default zone. -/
def Endpoint.next? (e : Endpoint) : Option Endpoint :=
  if e.port = 65535 then none else some ⟨e.address.unzoned, e.port + 1⟩

namespace Host

/-- The place of the first port of the dynamic range, from `place` on and round, that
is not taken at an address; at most `n` places are looked at. -/
def unusedPlace? (h : Host) (address : IpAddress) : Nat → Nat → Option Nat
  | 0, _ => none
  | n + 1, place =>
      let width := dynamicPorts.stop.toNat - dynamicPorts.start.toNat
      let port := dynamicPorts.start + UInt16.ofNat (place % width)
      if ⟨address, port⟩ ∈ h.taken then unusedPlace? h address n (place + 1)
      else some (place % width)

/-- Takes some port at an address. -/
def bindAny (h : Host) (address : IpAddress) : Except HostFault Endpoint × Host :=
  let width := dynamicPorts.stop.toNat - dynamicPorts.start.toNat
  match h.unusedPlace? address width h.cursor with
  | none => (.error .addressInUse, h)
  | some place =>
      let e : Endpoint := ⟨address, dynamicPorts.start + UInt16.ofNat place⟩
      (.ok e, { h with taken := e :: h.taken, cursor := place + 1 })

/-- Takes an endpoint, or some port of its address if its port is zero. -/
def bind (h : Host) (e : Endpoint) : Except HostFault Endpoint × Host :=
  if !h.isLocal e.address then (.error .addressNotLocal, h)
  else if e.port = 0 then h.bindAny e.address
  else if e ∈ h.taken then (.error .addressInUse, h)
  else (.ok e, { h with taken := e :: h.taken })

def release (h : Host) (e : Endpoint) : Host :=
  { h with taken := h.taken.erase e }

def releaseAll (h : Host) (es : List Endpoint) : Host :=
  es.foldl release h

end Host

end MediaTransport.Net
