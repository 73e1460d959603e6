/-!
# Faults of the host

What the host says when a socket cannot be bound or a datagram cannot leave, in the
host's own words and numbers.
-/

namespace MediaTransport.Net

/-- Why the host refuses a socket operation. -/
inductive HostFault
  | addressInUse
  /-- The address belongs to another host. -/
  | addressNotLocal
  | unreachable
  /-- The datagram is longer than any datagram can be. -/
  | tooLong
  | described (text : String)
  deriving DecidableEq

def HostFault.message : HostFault → String
  | .addressInUse => "Address already in use (os error 98)"
  | .addressNotLocal => "Cannot assign requested address (os error 99)"
  | .unreachable => "Network is unreachable (os error 101)"
  | .tooLong => "Message too long (os error 90)"
  | .described text => text

end MediaTransport.Net
