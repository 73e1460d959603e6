import MediaTransport.Rtcp.Packet
import MediaTransport.Rtp.Packet

/-!
# Notices

What sessions, writers and readers report beside their results: anomalies of a
stream, and traces of the packets that come and go.
-/

namespace MediaTransport.Media

/-- Something that is reported on the way. -/
inductive Notice
  /-- A format whose clock is not known. -/
  | unknownClock (format : String)
  /-- A packet from before the last wrap of its sequence numbers. -/
  | regression (error : WireError)
  /-- A packet other than the next one in order. -/
  | outOfOrder (expected actual : Nat) (received : UInt16)
  | rtpWrite (packet : Rtp.Packet)
  | rtpRead (packet : Rtp.Packet)
  | rtcpWrite (packet : Rtcp.Packet)
  | rtcpRead (packet : Rtcp.Packet)
  deriving DecidableEq

namespace Notice

/-- Whether the notice reports an anomaly, and not just traffic. -/
def isWarning : Notice → Bool
  | .unknownClock _ => true
  | .regression _ => true
  | .outOfOrder _ _ _ => true
  | _ => false

def message : Notice → String
  | .unknownClock format => s!"Unsupported format {format}. Using default clock rate"
  | .regression e => e.message
  | .outOfOrder expected actual received =>
      s!"Out of order pkt received actual={actual} expected={expected} real={received}"
  | .rtpWrite p => s!"RTP write:\n{p.describe}"
  | .rtpRead p => s!"Recv RTP\n{p.describe}"
  | .rtcpWrite p => s!"RTCP write:\n{p.describe}"
  | .rtcpRead p => s!"RTCP read:\n{p.describe}"

end Notice

end MediaTransport.Media
