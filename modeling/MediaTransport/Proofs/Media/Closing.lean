import MediaTransport.Proofs.Media.Lifetime

/-!
# Closed sessions

A closed session has no sockets and never gets one again, so all that it does with datagrams
from then on is to refuse them. Which fault a call meets does not depend on what has happened
before it, before or after the session was closed, nor on a deadline: it is said by
`ReadCall.refusal` and `WriteCall.refusal`, which know the call and the settings only.

What is handed over is put in octets first (`WriteCall.fault?`), so that a packet that cannot be
written is refused as such by every session. Then comes the question whether datagrams of its
kind are exchanged at all, then whether the session is open, and last whether it is known where
they go: only an open session says that it is not.
-/

namespace MediaTransport.Media

open Net

/-! ## Faults of calls -/

/-- Whether a session with these settings exchanges datagrams of the kind at all. -/
def Channel.isUsed (settings : Settings) : Channel → Bool
  | .media => true
  | .control => settings.rtcpEnabled

namespace ReadCall

def channel : ReadCall → Channel
  | octets channel _ => channel
  | packet => .media
  | packets => .control

/-- What a read of a closed session fails with. -/
def refusal (settings : Settings) (call : ReadCall) : Error :=
  if call.channel.isUsed settings then .endOfStream else .rtcpDisabled

end ReadCall

namespace WriteCall

def channel : WriteCall → Channel
  | octets channel _ => channel
  | packet _ => .media
  | packets _ => .control

/-- Why what is handed over cannot be put in octets, if it cannot. -/
def fault? : WriteCall → Option WireError
  | octets _ _ => none
  | packet p =>
      match p.encode with
      | .error e => some e
      | .ok _ => none
  | packets ps =>
      match Rtcp.Packet.encodeAll ps with
      | .error e => some e
      | .ok _ => none

/-- What a write to a closed session fails with. -/
def refusal (settings : Settings) (call : WriteCall) : Error :=
  match call.fault? with
  | some e => .packet e
  | none => if call.channel.isUsed settings then .sessionClosed else .rtcpDisabled

end WriteCall

namespace Session

variable {s : Session} {settings : Settings} {net : Network}

/-- Where datagrams of the kind go. -/
def remoteOf (s : Session) : Channel → Option Endpoint
  | .media => s.remote
  | .control => s.remoteRtcp

/-! ## Writing -/

theorem write_of_fault {call : WriteCall} {e : WireError} (hfault : call.fault? = some e) :
    s.write net call = .error (.packet e) := by
  cases call with
  | octets channel payload => cases hfault
  | packet p =>
      rw [WriteCall.fault?] at hfault
      rw [write, writeRtp]
      cases hencode : p.encode with
      | error e' =>
          rw [hencode] at hfault
          cases hfault
          rfl
      | ok octets =>
          rw [hencode] at hfault
          cases hfault
  | packets ps =>
      rw [WriteCall.fault?] at hfault
      rw [write, writeRtcp]
      cases hencode : Rtcp.Packet.encodeAll ps with
      | error e' =>
          rw [hencode] at hfault
          cases hfault
          rfl
      | ok octets =>
          rw [hencode] at hfault
          cases hfault

/-- What can be put in octets is written as these octets. -/
theorem exists_write_eq (s : Session) (net : Network) {call : WriteCall}
    (hfault : call.fault? = none) :
    ∃ payload, s.write net call = s.write net (.octets call.channel payload) := by
  cases call with
  | octets channel payload => exact ⟨payload, rfl⟩
  | packet p =>
      rw [WriteCall.fault?] at hfault
      cases hencode : p.encode with
      | error e =>
          rw [hencode] at hfault
          cases hfault
      | ok octets =>
          refine ⟨octets, ?_⟩
          rw [write, writeRtp, hencode]
          rfl
  | packets ps =>
      rw [WriteCall.fault?] at hfault
      cases hencode : Rtcp.Packet.encodeAll ps with
      | error e =>
          rw [hencode] at hfault
          cases hfault
      | ok octets =>
          refine ⟨octets, ?_⟩
          rw [write, writeRtcp, hencode]
          rfl

/-- A deadline makes no difference to a write, which never waits. -/
theorem serve_writeBy (s : Session) (net : Network) (packets : List Rtcp.Packet)
    (now deadline : Nat) :
    s.serve (.writeBy net packets now deadline) = s.serve (.write net (.packets packets) now) :=
  rfl

/-! ## Without sockets -/

/-- A session that has given up its sockets. -/
structure IsShut (settings : Settings) (s : Session) : Prop where
  sockets_eq : s.sockets = none
  settings_eq : s.settings = settings

namespace IsShut

theorem readRtpOctets (hs : s.IsShut settings) (size : Nat) :
    s.readRtpOctets size = (.done (.error .endOfStream), s) := by
  rw [Session.readRtpOctets, hs.sockets_eq]

theorem readRtcpOctets (hs : s.IsShut settings) (size : Nat) :
    s.readRtcpOctets size =
      (.done (.error (if settings.rtcpEnabled then .endOfStream else .rtcpDisabled)), s) := by
  rw [Session.readRtcpOctets, hs.sockets_eq, hs.settings_eq]
  cases settings.rtcpEnabled <;> rfl

theorem read (hs : s.IsShut settings) (call : ReadCall) :
    s.read call = (.done (.error (call.refusal settings)), s) := by
  cases call with
  | octets channel size =>
      cases channel with
      | media =>
          rw [Session.read, hs.readRtpOctets]
          rfl
      | control =>
          rw [Session.read, hs.readRtcpOctets]
          rfl
  | packet =>
      rw [Session.read, readRtp, hs.readRtpOctets]
      rfl
  | packets =>
      rw [Session.read, readRtcp, hs.readRtcpOctets]
      rfl

theorem write_octets (hs : s.IsShut settings) (channel : Channel) (payload : Bytes) :
    s.write net (.octets channel payload) =
      .error (if channel.isUsed settings then .sessionClosed else .rtcpDisabled) := by
  cases channel with
  | media =>
      rw [Session.write, writeRtpOctets, hs.sockets_eq]
      rfl
  | control =>
      rw [Session.write, writeRtcpOctets, hs.sockets_eq, hs.settings_eq, Channel.isUsed]
      cases settings.rtcpEnabled <;> rfl

theorem write (hs : s.IsShut settings) (call : WriteCall) :
    s.write net call = .error (call.refusal settings) := by
  cases hfault : call.fault? with
  | some e => rw [write_of_fault hfault, WriteCall.refusal, hfault]
  | none =>
      obtain ⟨payload, hwrite⟩ := s.exists_write_eq net hfault
      rw [hwrite, hs.write_octets, WriteCall.refusal, hfault]

theorem receive (hs : s.IsShut settings) (channel : Channel) (datagram : Bytes) :
    s.receive channel datagram = s := by
  cases channel with
  | media => rw [Session.receive, receiveRtp, hs.sockets_eq]
  | control => rw [Session.receive, receiveRtcp, hs.sockets_eq]

theorem react (hs : s.IsShut settings) (signal : Signal) : (s.react signal).IsShut settings := by
  cases signal with
  | hear how d =>
      cases hhear : s.hear how d with
      | error e =>
          rw [react_hear_of_error hhear]
          exact hs
      | ok s' =>
          rw [Session.react, hhear]
          obtain ⟨-, rfl⟩ := hear_eq_ok_iff.mp hhear
          exact ⟨hs.sockets_eq, hs.settings_eq⟩
  | close => exact ⟨rfl, hs.settings_eq⟩
  | setRemote _ | setMode _ => exact ⟨hs.sockets_eq, hs.settings_eq⟩

theorem serve (hs : s.IsShut settings) (event : SessionEvent) :
    (s.serve event).2.IsShut settings := by
  cases event with
  | signal signal =>
      rw [serve_signal]
      exact hs.react signal
  | arrive channel datagram =>
      rw [Session.serve, hs.receive]
      exact hs
  | read call _ | readBy call _ _ =>
      rw [Session.serve, hs.read]
      exact hs
  | write _ _ _ | writeBy _ _ _ _ => exact hs

theorem live (hs : s.IsShut settings) (events : List SessionEvent) :
    (s.live events).IsShut settings := by
  induction events using List.reverseRecOn with
  | nil => exact hs
  | append_singleton events event ih =>
      rw [live_append_singleton]
      exact ih.serve event

end IsShut

/-! ## With sockets -/

theorem send_ne_remoteNotSet (net : Network) (socket : Socket) (e : Endpoint) (payload : Bytes) :
    send net socket e payload ≠ .error .remoteNotSet := by
  intro hsend
  rw [send] at hsend
  split at hsend
  · cases hsend
  · split at hsend <;> cases hsend

/-- An open session misses an address where it has a socket to send from, and only there. -/
theorem IsPlaced.write_octets_eq_iff (hs : s.IsPlaced) (hopen : s.closed = false)
    (net : Network) (channel : Channel) (payload : Bytes) :
    s.write net (.octets channel payload) = .error .remoteNotSet ↔
      channel.isUsed s.settings ∧ s.remoteOf channel = none := by
  obtain ⟨sockets, hsockets⟩ := hs.exists_sockets_eq hopen
  cases channel with
  | media =>
      rw [write, writeRtpOctets, hsockets, remoteOf]
      cases hremote : s.remote with
      | none => exact iff_of_true rfl ⟨rfl, rfl⟩
      | some e => exact iff_of_false (send_ne_remoteNotSet _ _ _ _) nofun
  | control =>
      have hrtcp := hs.isSome_rtcp hsockets
      rw [write, writeRtcpOctets, hsockets, remoteOf, Channel.isUsed]
      cases hsettings : s.settings.rtcpEnabled with
      | false => exact iff_of_false nofun nofun
      | true =>
          rw [hsettings] at hrtcp
          obtain ⟨socket, hsocket⟩ := Option.isSome_iff_exists.mp hrtcp
          dsimp only
          rw [hsocket, Bool.not_true, if_neg Bool.false_ne_true]
          cases hremote : s.remoteRtcp with
          | none => exact iff_of_true rfl ⟨rfl, rfl⟩
          | some e => exact iff_of_false (send_ne_remoteNotSet _ _ _ _) nofun

theorem IsPlaced.write_eq_iff (hs : s.IsPlaced) (hopen : s.closed = false) (net : Network)
    (call : WriteCall) :
    s.write net call = .error .remoteNotSet ↔
      call.fault? = none ∧ call.channel.isUsed s.settings ∧ s.remoteOf call.channel = none := by
  cases hfault : call.fault? with
  | some e =>
      rw [write_of_fault hfault]
      exact iff_of_false nofun nofun
  | none =>
      obtain ⟨payload, hwrite⟩ := s.exists_write_eq net hfault
      rw [hwrite, hs.write_octets_eq_iff hopen]
      exact (and_iff_right rfl).symm

/-! ## Before and after -/

/-- Once a session is closed, whatever it was and whatever happens to it afterwards, every read
and every write is refused at once, and the fault depends on the call and the settings only. A
missing address is reported before that, by an open session, and only when nothing else is
wrong. -/
theorem refused_after_close (hs : s.Reached) :
    (∀ events,
      let now := s.close.live events
      (∀ call t, (now.serve (.read call t)).1 =
        .read (.done (.error (call.refusal s.settings))) t) ∧
      (∀ call t deadline, (now.serve (.readBy call t deadline)).1 =
        .read (.done (.error (call.refusal s.settings))) t) ∧
      (∀ net call t, (now.serve (.write net call t)).1 =
        .written (.error (call.refusal s.settings)) t) ∧
      ∀ net ps t deadline, (now.serve (.writeBy net ps t deadline)).1 =
        .written (.error ((WriteCall.packets ps).refusal s.settings)) t) ∧
    (s.closed = false →
      (∀ net call t, (s.serve (.write net call t)).1 = .written (.error .remoteNotSet) t ↔
        call.fault? = none ∧ call.channel.isUsed s.settings ∧
          s.remoteOf call.channel = none) ∧
      ∀ net ps t deadline,
        (s.serve (.writeBy net ps t deadline)).1 = .written (.error .remoteNotSet) t ↔
          (WriteCall.packets ps).fault? = none ∧ s.settings.rtcpEnabled ∧
            s.remoteRtcp = none) := by
  have hopened (hopen : s.closed = false) (net : Network) (call : WriteCall) (t : Nat) :
      (s.serve (.write net call t)).1 = .written (.error .remoteNotSet) t ↔
        call.fault? = none ∧ call.channel.isUsed s.settings ∧
          s.remoteOf call.channel = none := by
    rw [← hs.isPlaced.write_eq_iff hopen, serve, Reply.written.injEq,
      and_iff_left rfl]
  refine ⟨?_, fun hopen => ⟨hopened hopen, ?_⟩⟩
  · intro events now
    have hclosed : s.close.IsShut s.settings := ⟨rfl, rfl⟩
    have hnow := hclosed.live events
    refine ⟨?_, ?_, ?_, ?_⟩
    · intro call t
      rw [serve, hnow.read]
    · intro call t deadline
      rw [serve, hnow.read]
      rfl
    · intro net call t
      rw [serve, hnow.write]
    · intro net ps t deadline
      rw [serve_writeBy, serve, hnow.write]
  · intro net ps t deadline
    rw [serve_writeBy]
    exact hopened hopen net (.packets ps) t

/-- A session for media only, with a datagram to read and nowhere to send. -/
def listener : Session :=
  (ofPair { rtcpEnabled := false } ⟨⟨.v4 ⟨127, 0, 0, 1⟩, 5000⟩, none⟩).receiveRtp [128]

theorem refused_after_close_listener :
    let now := listener.close.live [.arrive .media [129]]
    let write := SessionEvent.write .lossless (.octets .media [7]) 3
    (listener.serve (.read (.octets .media 8) 3)).1 = .read (.done (.ok (.octets [128]))) 3 ∧
    (now.serve (.readBy (.octets .media 8) 3 9)).1 = .read (.done (.error .endOfStream)) 3 ∧
    (now.serve (.readBy .packets 3 9)).1 = .read (.done (.error .rtcpDisabled)) 3 ∧
    (listener.serve write).1 = .written (.error .remoteNotSet) 3 ∧
    (now.serve write).1 = .written (.error .sessionClosed) 3 := by
  let ports : Ports := ⟨{ isLocal := fun _ => true }, 0⟩
  have hopened := Reached.opened
    (show openAt ports ⟨.v4 ⟨127, 0, 0, 1⟩, 5000⟩ { rtcpEnabled := false } = (.ok _, _) from rfl)
  obtain ⟨hafter, hbefore⟩ := refused_after_close (hopened.receiveRtp [128])
  obtain ⟨-, hreadBy, hwrite, -⟩ := hafter [.arrive .media [129]]
  refine ⟨rfl, hreadBy (.octets .media 8) 3 9, hreadBy .packets 3 9, ?_,
    hwrite .lossless (.octets .media [7]) 3⟩
  exact ((hbefore rfl).1 .lossless (.octets .media [7]) 3).mpr ⟨rfl, rfl, rfl⟩

end Session

end MediaTransport.Media
