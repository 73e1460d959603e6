import MediaTransport.Media.Notice
import MediaTransport.Media.Session
import MediaTransport.Net.Network

/-!
# Reading and writing datagrams

A read takes the first datagram that has arrived, cut to the size of the buffer, or
has to wait (`Attempt.waiting`); waiting ends with a deadline (`Attempt.byDeadline`), or
with the end of the stream when the session is closed meanwhile
(`Attempt.closedMeanwhile`). A datagram that cannot be read as a packet is gone
nevertheless.

A write checks in this order: the packet can be written; control packets are
exchanged at all; the session is open; the other side's address is known. Only then
is the network asked. A session does not change by writing.
-/

namespace MediaTransport.Media

open Net

/-- What an attempt to read comes to. -/
inductive Attempt (α : Type)
  | waiting
  /-- The read has ended. -/
  | done (outcome : Except Error α)

namespace Attempt

variable {α β : Type}

/-- The attempt with what has been read taken further. -/
def bind (attempt : Attempt α) (f : α → Except Error β) : Attempt β :=
  match attempt with
  | .waiting => .waiting
  | .done outcome => .done (outcome.bind f)

/-- What a read comes to when nothing more arrives before its deadline, and when it
ends. What has arrived is read even after the deadline. -/
def byDeadline (attempt : Attempt α) (now deadline : Nat) : Except Error α × Nat :=
  match attempt with
  | .waiting => (.error .timeout, max now deadline)
  | .done outcome => (outcome, now)

/-- What a read comes to when the session is closed before anything more arrives. -/
def closedMeanwhile (attempt : Attempt α) : Except Error α :=
  match attempt with
  | .waiting => .error .endOfStream
  | .done outcome => outcome

end Attempt

/-- Takes the first datagram that has arrived, cut to `size` octets. -/
def Socket.take (socket : Socket) (size : Nat) : Attempt Bytes × Socket :=
  match socket.inbox with
  | [] => (.waiting, socket)
  | datagram :: rest => (.done (.ok (datagram.take size)), { socket with inbox := rest })

namespace Session

/-- Takes the first media datagram, cut to `size` octets. -/
def readRtpOctets (s : Session) (size : Nat) : Attempt Bytes × Session :=
  match s.sockets with
  | none => (.done (.error .endOfStream), s)
  | some sockets =>
      let (attempt, rtp) := sockets.rtp.take size
      (attempt, { s with sockets := some { sockets with rtp := rtp } })

/-- Takes the first control datagram, cut to `size` octets. -/
def readRtcpOctets (s : Session) (size : Nat) : Attempt Bytes × Session :=
  if !s.settings.rtcpEnabled then (.done (.error .rtcpDisabled), s)
  else
    match s.sockets with
    | none => (.done (.error .endOfStream), s)
    | some sockets =>
        match sockets.rtcp with
        | none => (.done (.error .rtcpDisabled), s)
        | some socket =>
            let (attempt, rtcp) := socket.take size
            (attempt, { s with sockets := some { sockets with rtcp := some rtcp } })

/-- The notices of what has been read, if anything was and it is to be traced. -/
def traceRead {α : Type} (trace : Bool) (notices : α → List Notice) : Attempt α → List Notice
  | .done (.ok a) => if trace then notices a else []
  | _ => []

def readRtp (s : Session) : Attempt Rtp.Packet × Session × List Notice :=
  let (attempt, s) := s.readRtpOctets Rtp.datagramLimit
  let attempt := attempt.bind fun datagram => (Rtp.Packet.decode datagram).mapError .packet
  (attempt, s, traceRead s.settings.traceRtp (fun p => [.rtpRead p]) attempt)

def readRtcp (s : Session) : Attempt (List Rtcp.Packet) × Session × List Notice :=
  let (attempt, s) := s.readRtcpOctets Rtp.datagramLimit
  let attempt := attempt.bind fun datagram => (Rtcp.Packet.decodeAll datagram).mapError .packet
  (attempt, s, traceRead s.settings.traceRtcp (fun ps => ps.map .rtcpRead) attempt)

/-- Hands a datagram to the network. -/
def send (net : Network) (socket : Socket) (destination : Endpoint) (payload : Bytes) :
    Except Error Datagram :=
  let datagram : Datagram := ⟨socket.endpoint, destination, payload⟩
  match net.carry datagram with
  | .error fault => .error (.io fault)
  | .ok written =>
      if written = payload.length then .ok datagram
      else .error (.shortWrite written payload.length)

/-- Sends octets to where media goes. -/
def writeRtpOctets (net : Network) (s : Session) (payload : Bytes) : Except Error Datagram :=
  match s.sockets with
  | none => .error .sessionClosed
  | some sockets =>
      match s.remote with
      | none => .error .remoteNotSet
      | some e => send net sockets.rtp e payload

/-- Sends octets to where control packets go. -/
def writeRtcpOctets (net : Network) (s : Session) (payload : Bytes) : Except Error Datagram :=
  if !s.settings.rtcpEnabled then .error .rtcpDisabled
  else
    match s.sockets with
    | none => .error .sessionClosed
    | some sockets =>
        match sockets.rtcp with
        | none => .error .rtcpDisabled
        | some socket =>
            match s.remoteRtcp with
            | none => .error .remoteNotSet
            | some e => send net socket e payload

def writeRtp (net : Network) (s : Session) (p : Rtp.Packet) :
    Except Error Datagram × List Notice :=
  let outcome :=
    match p.encode with
    | .error e => .error (.packet e)
    | .ok octets => s.writeRtpOctets net octets
  (outcome, if s.settings.traceRtp then [.rtpWrite p] else [])

def writeRtcp (net : Network) (s : Session) (ps : List Rtcp.Packet) :
    Except Error Datagram × List Notice :=
  let outcome :=
    match Rtcp.Packet.encodeAll ps with
    | .error e => .error (.packet e)
    | .ok octets => s.writeRtcpOctets net octets
  (outcome, if s.settings.traceRtcp then ps.map .rtcpWrite else [])

/-- Sends control packets by a deadline, and when that ends. A write never waits, so it
is over before any deadline passes. -/
def writeRtcpBy (net : Network) (s : Session) (ps : List Rtcp.Packet) (now deadline : Nat) :
    (Except Error Datagram × Nat) × List Notice :=
  let (outcome, notices) := s.writeRtcp net ps
  ((Attempt.done outcome).byDeadline now deadline, notices)

/-- The session after a datagram has arrived where it receives media. -/
def receiveRtp (s : Session) (datagram : Bytes) : Session :=
  match s.sockets with
  | none => s
  | some sockets =>
      let rtp := { sockets.rtp with inbox := sockets.rtp.inbox ++ [datagram] }
      { s with sockets := some { sockets with rtp := rtp } }

/-- The session after a datagram has arrived where it receives control packets. -/
def receiveRtcp (s : Session) (datagram : Bytes) : Session :=
  match s.sockets with
  | none => s
  | some sockets =>
      let rtcp := sockets.rtcp.map fun socket =>
        { socket with inbox := socket.inbox ++ [datagram] }
      { s with sockets := some { sockets with rtcp := rtcp } }

end Session

end MediaTransport.Media
