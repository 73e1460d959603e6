import MediaTransport.Config.Error
import MediaTransport.Net.Address
import MediaTransport.Net.Fault
import MediaTransport.Net.PortRange
import MediaTransport.Text.Quoted
import MediaTransport.WireError

/-!
# Faults of media sessions

The causes for which a session, a writer or a reader refuses a call. The wording is
in the three `message` functions only.
-/

namespace MediaTransport.Media

open Net

/-- Why no pair of ports could be bound. -/
inductive PortShortage
  | narrowRange (range : PortRange)
  | takenRange (range : PortRange)
  /-- The last port has none above it. -/
  | nothingAbove (endpoint : Endpoint)
  /-- No attempt found two free ports in a row. -/
  | noFreePair (attempts : Nat)
  | described (text : String)
  deriving DecidableEq

/-- What is wrong with settings, or with using them. -/
inductive SettingsFault
  | unknownMode (text : String)
  | zeroPacketTime
  | noBindAttempts
  /-- A range that starts at zero or ends before it starts. -/
  | emptyRange (range : PortRange)
  /-- A range that is too narrow for a pair. -/
  | narrowRange (range : PortRange)
  /-- A reader for a session without formats. -/
  | nothingToRead
  /-- A writer for a session without formats. -/
  | nothingToWrite
  /-- A writer whose packets would cover no time. -/
  | zeroInterval
  | notLoaded (cause : Config.Error)
  | described (text : String)
  deriving DecidableEq

/-- Why a call on a session, a writer or a reader fails. -/
inductive Error
  | portExhaustion (cause : PortShortage)
  /-- The port that was asked for cannot be bound. -/
  | bind (endpoint : Endpoint) (cause : HostFault)
  | noCommonFormat (offered answered : List String)
  | invalidFormat (format : String)
  /-- A packet of another payload type than the expected one. -/
  | payloadTypeMismatch (expected actual : UInt8)
  /-- A datagram that left only in part. -/
  | shortWrite (written expected : Nat)
  | remoteNotSet
  /-- The session has no control socket. -/
  | rtcpDisabled
  /-- The session is closed, and there is nothing more to read. -/
  | endOfStream
  /-- The session is closed, and nothing can be written. -/
  | sessionClosed
  | timeout
  /-- The host refused. -/
  | io (fault : HostFault)
  | packet (error : WireError)
  | settings (fault : SettingsFault)
  deriving DecidableEq

def PortShortage.message : PortShortage → String
  | .narrowRange r => s!"range {r.text} holds no port pair"
  | .takenRange r => s!"no available ports in range {r.text}"
  | .nothingAbove e => s!"no RTCP port above {e.text}"
  | .noFreePair n => s!"no ephemeral RTP/RTCP pair after {n} attempts"
  | .described text => text

def SettingsFault.message : SettingsFault → String
  | .unknownMode text => s!"unknown media mode: {text}"
  | .zeroPacketTime => "ptime_ms must be greater than zero"
  | .noBindAttempts => "ephemeral_bind_retries must be at least 1"
  | .emptyRange r => s!"invalid RTP port range {r.text}"
  | .narrowRange r => s!"RTP port range {r.text} cannot hold an RTP/RTCP pair"
  | .nothingToRead => "media session has no formats to read"
  | .nothingToWrite => "media session has no formats to write"
  | .zeroInterval => "packetization interval must be greater than zero"
  | .notLoaded cause => cause.message
  | .described text => text

namespace Error

def message : Error → String
  | .portExhaustion cause => s!"no available RTP/RTCP port pair: {cause.message}"
  | .bind e cause => s!"failed to bind {e.text}: {cause.message}"
  | .noCommonFormat offered answered =>
      s!"no common media format: local={Text.quoteList offered}" ++
        s!" remote={Text.quoteList answered}"
  | .invalidFormat format => "invalid media format " ++ Text.quote format
  | .payloadTypeMismatch expected actual =>
      s!"payload type does not match: expected={expected}, actual={actual}"
  | .shortWrite written expected => s!"short write: sent {written} of {expected} bytes"
  | .remoteNotSet => "remote address not set"
  | .rtcpDisabled => "RTCP is disabled for this session"
  | .endOfStream => "end of stream"
  | .sessionClosed => "media session closed"
  | .timeout => "operation timed out"
  | .io fault => s!"I/O error: {fault.message}"
  | .packet e => s!"packet error: {e.message}"
  | .settings fault => s!"configuration error: {fault.message}"

/-- Whether the session is closed for good, so that trying again is of no use. -/
def isClosed : Error → Bool
  | .endOfStream => true
  | .sessionClosed => true
  | _ => false

end Error

end MediaTransport.Media
