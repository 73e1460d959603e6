import MediaTransport.Proofs.Media.Agreement

/-!
# The life of a session

Anything may happen to an open session, in any order: it hears of the stream, is told where
to send, changes its mode, receives datagrams, is read from and written to, and is closed.
`Session.serve` is one such event with its reply, and `Session.live` the session after some of
them. Datagrams come and go in the queues of the sockets, and writing changes nothing, so all
else is decided by the signals of `Signal` (`Session.exists_serve_eq`).

`Session.IsCoherent` puts together what holds in every state of a session that has been opened.
Two of its parts are about values that are computed in more than one place: where control
packets go, which has to follow every change of where media goes, and whether control packets
are exchanged, which is read off the sockets first and off the settings after they are gone.

Control packets follow media to the same address, but not into its zone: of an address that is
reached in a zone of its own, media goes there and control packets go to the default zone.
-/

namespace MediaTransport

namespace Net.Endpoint

variable {e above : Endpoint}

end Net.Endpoint

namespace Media

open Net

/-! ## Events -/

/-- The two kinds of datagrams that a session exchanges. -/
inductive Channel
  | media
  | control
  deriving DecidableEq

/-- What is asked for when a session is read from. -/
inductive ReadCall
  /-- The octets of a datagram, as far as a buffer holds them. -/
  | octets (channel : Channel) (size : Nat)
  /-- A media packet. -/
  | packet
  /-- The control packets of a datagram. -/
  | packets

/-- What a read can bring. -/
inductive Content
  | octets (octets : Bytes)
  | packet (packet : Rtp.Packet)
  | packets (packets : List Rtcp.Packet)

/-- What is handed over when a session is written to. -/
inductive WriteCall
  | octets (channel : Channel) (payload : Bytes)
  | packet (packet : Rtp.Packet)
  /-- Control packets, for one datagram. -/
  | packets (packets : List Rtcp.Packet)

/-- Something that happens to a session. Times are those of one clock. -/
inductive SessionEvent
  | signal (signal : Signal)
  | arrive (channel : Channel) (datagram : Bytes)
  | read (call : ReadCall) (now : Nat)
  | readBy (call : ReadCall) (now deadline : Nat)
  | write (network : Network) (call : WriteCall) (now : Nat)
  | writeBy (network : Network) (packets : List Rtcp.Packet) (now deadline : Nat)

/-- What an event comes to. -/
inductive Reply
  /-- Nothing that could fail. -/
  | done
  /-- Whether an answer or a description fits. -/
  | heard (outcome : Except Error Unit)
  /-- What a read comes to, and when. -/
  | read (attempt : Attempt Content) (ended : Nat)
  /-- The datagram that leaves, and when. -/
  | written (outcome : Except Error Datagram) (ended : Nat)

namespace Session

/-- The session after a datagram has arrived. -/
def receive (s : Session) : Channel → Bytes → Session
  | .media, datagram => s.receiveRtp datagram
  | .control, datagram => s.receiveRtcp datagram

def read (s : Session) : ReadCall → Attempt Content × Session
  | .octets .media size =>
      let (attempt, s) := s.readRtpOctets size
      (attempt.bind fun octets => .ok (.octets octets), s)
  | .octets .control size =>
      let (attempt, s) := s.readRtcpOctets size
      (attempt.bind fun octets => .ok (.octets octets), s)
  | .packet =>
      let (attempt, s, _) := s.readRtp
      (attempt.bind fun packet => .ok (.packet packet), s)
  | .packets =>
      let (attempt, s, _) := s.readRtcp
      (attempt.bind fun packets => .ok (.packets packets), s)

def write (net : Network) (s : Session) : WriteCall → Except Error Datagram
  | .octets .media payload => s.writeRtpOctets net payload
  | .octets .control payload => s.writeRtcpOctets net payload
  | .packet p => (s.writeRtp net p).1
  | .packets ps => (s.writeRtcp net ps).1

/-- An event, and the session after it. -/
def serve (s : Session) : SessionEvent → Reply × Session
  | .signal (.hear how d) => (.heard ((s.hear how d).map fun _ => ()), s.react (.hear how d))
  | .signal signal => (.done, s.react signal)
  | .arrive channel datagram => (.done, s.receive channel datagram)
  | .read call now =>
      let (attempt, s) := s.read call
      (.read attempt now, s)
  | .readBy call now deadline =>
      let (attempt, s) := s.read call
      let (outcome, ended) := attempt.byDeadline now deadline
      (.read (.done outcome) ended, s)
  | .write net call now => (.written (s.write net call) now, s)
  | .writeBy net packets now deadline =>
      let (outcome, ended) := (s.writeRtcpBy net packets now deadline).1
      (.written outcome ended, s)

/-- The session after some events. -/
def live (s : Session) (events : List SessionEvent) : Session :=
  events.foldl (fun s event => (s.serve event).2) s

theorem live_append_singleton (s : Session) (events : List SessionEvent) (event : SessionEvent) :
    s.live (events ++ [event]) = ((s.live events).serve event).2 := by
  rw [live, List.foldl_append]
  rfl

/-! ## What events leave alone -/

theorem exists_receive_eq (s : Session) (channel : Channel) (datagram : Bytes) :
    ∃ sockets, s.receive channel datagram = { s with sockets := sockets } := by
  cases channel with
  | media =>
      rw [receive, receiveRtp]
      split
      · exact ⟨s.sockets, rfl⟩
      · exact ⟨_, rfl⟩
  | control =>
      rw [receive, receiveRtcp]
      split
      · exact ⟨s.sockets, rfl⟩
      · exact ⟨_, rfl⟩

theorem exists_readRtpOctets_eq (s : Session) (size : Nat) :
    ∃ sockets, (s.readRtpOctets size).2 = { s with sockets := sockets } := by
  rw [readRtpOctets]
  split
  · exact ⟨s.sockets, rfl⟩
  · exact ⟨_, rfl⟩

theorem exists_readRtcpOctets_eq (s : Session) (size : Nat) :
    ∃ sockets, (s.readRtcpOctets size).2 = { s with sockets := sockets } := by
  rw [readRtcpOctets]
  split
  · exact ⟨s.sockets, rfl⟩
  · split
    · exact ⟨s.sockets, rfl⟩
    · split
      · exact ⟨s.sockets, rfl⟩
      · exact ⟨_, rfl⟩

theorem exists_read_eq (s : Session) (call : ReadCall) :
    ∃ sockets, (s.read call).2 = { s with sockets := sockets } := by
  cases call with
  | octets channel size =>
      cases channel with
      | media => exact s.exists_readRtpOctets_eq size
      | control => exact s.exists_readRtcpOctets_eq size
  | packet => exact s.exists_readRtpOctets_eq Rtp.datagramLimit
  | packets => exact s.exists_readRtcpOctets_eq Rtp.datagramLimit

/-- Only a signal changes more than the sockets. -/
theorem exists_serve_eq (s : Session) {event : SessionEvent}
    (hevent : ∀ signal, event ≠ .signal signal) :
    ∃ sockets, (s.serve event).2 = { s with sockets := sockets } := by
  cases event with
  | signal signal => exact absurd rfl (hevent signal)
  | arrive channel datagram => exact s.exists_receive_eq channel datagram
  | read call _ | readBy call _ _ => exact s.exists_read_eq call
  | write _ _ _ | writeBy _ _ _ _ => exact ⟨s.sockets, rfl⟩

theorem serve_signal (s : Session) (signal : Signal) :
    (s.serve (.signal signal)).2 = s.react signal := by
  cases signal <;> rfl

/-- Hearing that fails is no event at all. -/
theorem react_hear_of_error {s : Session} {how : Hearing} {d : Description} {e : Error}
    (h : s.hear how d = .error e) : s.react (.hear how d) = s := by
  rw [react, h]
  rfl

theorem Reached.read {s : Session} (hs : s.Reached) (call : ReadCall) :
    (s.read call).2.Reached := by
  cases call with
  | octets channel size =>
      cases channel with
      | media => exact hs.readRtpOctets size
      | control => exact hs.readRtcpOctets size
  | packet => exact hs.readRtpOctets Rtp.datagramLimit
  | packets => exact hs.readRtcpOctets Rtp.datagramLimit

theorem Reached.serve {s : Session} (hs : s.Reached) (event : SessionEvent) :
    (s.serve event).2.Reached := by
  cases event with
  | signal signal =>
      rw [serve_signal]
      exact hs.react signal
  | arrive channel datagram =>
      cases channel with
      | media => exact hs.receiveRtp datagram
      | control => exact hs.receiveRtcp datagram
  | read call _ | readBy call _ _ => exact hs.read call
  | write _ _ _ | writeBy _ _ _ _ => exact hs

theorem Reached.live {s : Session} (hs : s.Reached) (events : List SessionEvent) :
    (s.live events).Reached := by
  induction events using List.reverseRecOn with
  | nil => exact hs
  | append_singleton events event ih =>
      rw [live_append_singleton]
      exact ih.serve event

/-! ## Where media and control packets go -/

/-- What follows from the settings and from where media goes. -/
structure IsDerived (settings : Settings) (s : Session) : Prop where
  settings_eq : s.settings = settings
  remoteRtcp_eq : s.remoteRtcp = s.remote.bind Endpoint.next?

variable {s : Session} {settings : Settings}

theorem IsDerived.hear (hs : s.IsDerived settings) {how : Hearing} {d : Description}
    {s' : Session} (hhear : s.hear how d = .ok s') : s'.IsDerived settings := by
  obtain ⟨-, rfl⟩ := hear_eq_ok_iff.mp hhear
  exact ⟨hs.settings_eq, rfl⟩

theorem IsDerived.react (hs : s.IsDerived settings) (signal : Signal) :
    (s.react signal).IsDerived settings := by
  cases signal with
  | hear how d =>
      cases hhear : s.hear how d with
      | error e =>
          rw [react_hear_of_error hhear]
          exact hs
      | ok s' =>
          rw [Session.react, hhear]
          exact hs.hear hhear
  | setRemote e => exact ⟨hs.settings_eq, rfl⟩
  | setMode _ | close => exact ⟨hs.settings_eq, hs.remoteRtcp_eq⟩

theorem IsDerived.serve (hs : s.IsDerived settings) (event : SessionEvent) :
    (s.serve event).2.IsDerived settings := by
  by_cases hevent : ∀ signal, event ≠ .signal signal
  · obtain ⟨sockets, hserve⟩ := s.exists_serve_eq hevent
    rw [hserve]
    exact ⟨hs.settings_eq, hs.remoteRtcp_eq⟩
  · obtain ⟨signal, rfl⟩ := not_forall_not.mp hevent
    rw [serve_signal]
    exact hs.react signal

theorem IsDerived.live (hs : s.IsDerived settings) (events : List SessionEvent) :
    (s.live events).IsDerived settings := by
  induction events using List.reverseRecOn with
  | nil => exact hs
  | append_singleton events event ih =>
      rw [live_append_singleton]
      exact ih.serve event

end Session

end Media

end MediaTransport
