import MediaTransport.Bytes
import MediaTransport.Media.Description
import MediaTransport.Media.Ports

/-!
# Media sessions

A session holds a socket for media and, if its settings say so, one for control
packets; what it has agreed on with the other side; and whether it is closed. The
sockets queue the datagrams that have arrived and not been read. Closing a session
gives its sockets up, with all that is still queued; what has been agreed on stays.

The other side's address for control packets follows from its address for media: it
is always the next port.
-/

namespace MediaTransport.Media

open Net

/-- A bound socket and what has arrived at it. -/
structure Socket where
  /-- The endpoint at which the socket is bound. -/
  endpoint : Endpoint
  /-- The datagrams that have not been read, the first to arrive first. -/
  inbox : List Bytes := []
  deriving DecidableEq

/-- The sockets of an open session. -/
structure Sockets where
  rtp : Socket
  rtcp : Option Socket
  deriving DecidableEq

/-- A media session. -/
structure Session where
  settings : Settings
  /-- The endpoint at which it receives media, or did. -/
  localEndpoint : Endpoint
  /-- The sockets, until the session is closed. -/
  sockets : Option Sockets
  closed : Bool := false
  remote : Option Endpoint := none
  remoteRtcp : Option Endpoint := none
  /-- The formats that are left to use. -/
  formats : List String
  /-- The mode as this side sees it. -/
  mode : Mode
  deriving DecidableEq

namespace Session

/-- A session at endpoints that have been bound for it. -/
def ofPair (s : Settings) (pair : PortPair) : Session where
  settings := s
  localEndpoint := pair.rtp
  sockets := some ⟨⟨pair.rtp, []⟩, pair.rtcp.map fun e => ⟨e, []⟩⟩
  formats := s.formats
  mode := s.mode

/-- Opens a session at an endpoint, or at any port of its address if the port is
zero. -/
def openAt (p : Ports) (e : Endpoint) (s : Settings) : Except Error Session × Ports :=
  match s.validate with
  | .error error => (.error error, p)
  | .ok _ =>
      match p.bindPair e s with
      | (.error error, p) => (.error error, p)
      | (.ok pair, p) => (.ok (ofPair s pair), p)

def endpoints (s : Session) : List Endpoint :=
  match s.sockets with
  | none => []
  | some sockets => sockets.rtp.endpoint :: (sockets.rtcp.map Socket.endpoint).toList

/-- Closes a session. Closing it again changes nothing. -/
def close (s : Session) : Session :=
  { s with sockets := none, closed := true }

/-- Whether the session has a socket for control packets, or had one when it was
open. -/
def rtcpEnabled (s : Session) : Bool :=
  match s.sockets with
  | none => s.settings.rtcpEnabled
  | some sockets => sockets.rtcp.isSome

def setMode (s : Session) (mode : Mode) : Session :=
  { s with mode := mode }

def setRemote (s : Session) (e : Endpoint) : Session :=
  { s with remote := some e, remoteRtcp := e.next? }

/-- The session after an answer has come: it sends to where the answer says, and keeps
the formats that the answer lists too. -/
def negotiate (s : Session) (answer : Description) : Except Error Session :=
  (Format.negotiate s.formats answer.formats).map fun formats =>
    { s.setRemote answer.endpoint with formats := formats }

/-- The session after the other side has described itself anew: as after an answer,
and its mode is what the other side's mode means for this side. -/
def update (s : Session) (answer : Description) : Except Error Session :=
  (s.negotiate answer).map fun s => s.setMode answer.mode.reverse

/-- The session after an answer that may not fit: then it stays as it was. -/
def negotiated (s : Session) (answer : Description) : Session :=
  (s.negotiate answer).toOption.getD s

/-- The session after a description that may not fit: then it stays as it was. -/
def updated (s : Session) (answer : Description) : Session :=
  (s.update answer).toOption.getD s

/-- What this side says about the stream. -/
def description (s : Session) : Description where
  address := s.localEndpoint.address.unzoned
  port := s.localEndpoint.port
  mode := s.mode
  formats := s.formats

end Session

end MediaTransport.Media
