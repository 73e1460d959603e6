import MediaTransport.Bytes
import MediaTransport.Net.Address
import MediaTransport.Net.Fault

/-!
# Networks

What happens to a datagram that a host sends is up to the network: it leaves, with a
number of octets that the host reports, or the host refuses it with a fault.
-/

namespace MediaTransport.Net

/-- A datagram on its way. -/
structure Datagram where
  source : Endpoint
  destination : Endpoint
  payload : Bytes
  deriving DecidableEq

/-- What becomes of the datagrams of a host. -/
structure Network where
  /-- The number of octets that leave, or the fault that keeps them. -/
  carry : Datagram → Except HostFault Nat

namespace Network

/-- The most octets that any datagram can hold. -/
def lengthLimit : Nat := 65535

/-- A network in which every datagram leaves whole. -/
def lossless : Network where
  carry d := .ok d.payload.length

/-- A network without any route. -/
def isolated : Network where
  carry d := .error (if lengthLimit < d.payload.length then .tooLong else .unreachable)

end Network

end MediaTransport.Net
