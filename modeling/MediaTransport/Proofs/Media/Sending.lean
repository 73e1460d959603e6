import MediaTransport.Media.Writer
import MediaTransport.Proofs.Rtp.History
import MediaTransport.Proofs.Rtp.RoundTrip

/-!
# Sending a stream

A stream is sent by a list of calls to one writer, each with the network and the
session that it meets. A call builds one packet, whose header the state of the writer
decides, and moves the writer on by one number, whether or not the packet can be sent
(`Writer.Sends`). What calls that succeed put on the wire is a row of plain packets
(`Outgoing`): one source, numbers that follow each other, and no more in a header than
its fixed part. A receiver cuts such a packet in its payload only.
-/

namespace MediaTransport

namespace Rtp

/-- A header with nothing but its fixed part. -/
structure Header.IsPlain (h : Header) : Prop where
  version_eq : h.version = formatVersion
  padding_eq : h.padding = false
  csrc_eq : h.csrc = []
  extension_eq : h.extension = none

theorem Header.IsPlain.length_octets {h : Header} (hplain : h.IsPlain) :
    h.octets.length = fixedSize := by
  rw [Header.length_octets, size, hplain.csrc_eq, hplain.extension_eq]
  rfl

namespace Packet

/-- The datagram of a packet whose header fits. -/
def datagram (p : Packet) : Bytes :=
  p.header.octets ++ p.payload

/-- What a receive buffer keeps of a packet with a plain header. -/
def cut (p : Packet) : Packet :=
  { p with payload := p.payload.take 1588 }

theorem decode_datagram {p : Packet} (hfits : p.header.Fits) (hplain : p.header.IsPlain) :
    decode p.datagram = .ok p := by
  rw [datagram, decode_octets_append hfits, hplain.version_eq, if_pos (by decide)]
  obtain ⟨⟨version, padding, marker, payloadType, sequenceNumber, timestamp, ssrc, csrc, x⟩,
    payload⟩ := p
  obtain ⟨rfl, rfl, -, -⟩ := hplain
  rfl

theorem take_datagram {p : Packet} (hplain : p.header.IsPlain) :
    p.datagram.take datagramLimit = p.cut.datagram := by
  have hlength : datagramLimit = p.header.octets.length + 1588 := by
    rw [hplain.length_octets]
    rfl
  rw [datagram, hlength, List.take_length_add_append]
  rfl

theorem decode_take_datagram {p : Packet} (hfits : p.header.Fits) (hplain : p.header.IsPlain) :
    decode (p.datagram.take datagramLimit) = .ok p.cut := by
  rw [take_datagram hplain]
  exact decode_datagram hfits hplain

end Packet

end Rtp

namespace Media

open Net

/-- How a payload is sent. -/
inductive Manner
  | frame (now : Nat)
  | samples (ticks : Rtp.Timestamp) (marker : Bool) (payloadType : UInt8)

/-- A call that sends a payload, and what it meets. -/
structure Sending where
  network : Network
  session : Session
  payload : Bytes
  manner : Manner

/-- The payload type of what is sent, by a writer that has one of its own. -/
def Sending.payloadType (x : Sending) (own : UInt8) : UInt8 :=
  match x.manner with
  | .frame _ => own
  | .samples _ _ payloadType => payloadType

/-! ## What leaves a session -/

namespace Session

theorem payload_of_send {net : Network} {socket : Socket} {destination : Endpoint}
    {octets : Bytes} {d : Datagram} (h : send net socket destination octets = .ok d) :
    d.payload = octets := by
  unfold send at h
  dsimp only at h
  split at h
  · cases h
  · split at h
    · cases h
      rfl
    · cases h

theorem payload_of_writeRtpOctets {net : Network} {s : Session} {octets : Bytes} {d : Datagram}
    (h : s.writeRtpOctets net octets = .ok d) : d.payload = octets := by
  unfold writeRtpOctets at h
  split at h
  · cases h
  · split at h
    · cases h
    · exact payload_of_send h

theorem encode_of_writeRtp {net : Network} {s : Session} {p : Rtp.Packet} {d : Datagram}
    (h : (s.writeRtp net p).1 = .ok d) : p.encode = .ok d.payload := by
  unfold writeRtp at h
  cases hencode : p.encode with
  | error e =>
      rw [hencode] at h
      cases h
  | ok octets =>
      rw [hencode] at h
      rw [payload_of_writeRtpOctets h]

end Session

namespace Writer

def send (w : Writer) (x : Sending) : Written Nat :=
  match x.manner with
  | .frame now => (w.write x.network x.session x.payload now).1
  | .samples ticks marker payloadType =>
      w.writeSamples x.network x.session x.payload ticks marker payloadType

/-- What some calls come to, one after the other. -/
def sendAll (w : Writer) : List Sending → List (Written Nat)
  | [] => []
  | x :: xs => w.send x :: (w.send x).writer.sendAll xs

/-! ## One call -/

/-- What a call does, however it ends. -/
structure Sends (w : Writer) (payload : Bytes) (payloadType : UInt8) (y : Written Nat) :
    Prop where
  built : ∃ marker, y.built = [w.packetFor payload marker payloadType]
  sequencer : y.writer.sequencer = w.sequencer.next.2
  ssrc : y.writer.ssrc = w.ssrc
  payloadType : y.writer.payloadType = w.payloadType
  /-- A call succeeds with one datagram, which is the packet in octets. -/
  sent : y.outcome.isOk → ∃ d, y.sent = [d] ∧ ∀ p ∈ y.built, p.encode = .ok d.payload

theorem sends_writeSamples (net : Network) (s : Session) (w : Writer) (payload : Bytes)
    (ticks : Rtp.Timestamp) (marker : Bool) (payloadType : UInt8) :
    w.Sends payload payloadType (w.writeSamples net s payload ticks marker payloadType) := by
  rw [writeSamples]
  cases hwrite : s.writeRtp net (w.packetFor payload marker payloadType) with
  | mk outcome notices =>
      cases outcome with
      | error e => exact ⟨⟨marker, rfl⟩, rfl, rfl, rfl, fun h => by cases h⟩
      | ok d =>
          have hencode := Session.encode_of_writeRtp (congrArg Prod.fst hwrite)
          refine ⟨⟨marker, rfl⟩, rfl, rfl, rfl, fun _ => ⟨d, rfl, ?_⟩⟩
          intro p hp
          rw [List.mem_singleton.mp hp]
          exact hencode

theorem sends_send (w : Writer) (x : Sending) :
    w.Sends x.payload (x.payloadType w.payloadType) (w.send x) := by
  obtain ⟨net, s, payload, manner⟩ := x
  cases manner with
  | frame now =>
      have h := sends_writeSamples net s w payload w.packetTicks w.lastPacket.isNone w.payloadType
      exact ⟨h.built, h.sequencer, h.ssrc, h.payloadType, h.sent⟩
  | samples ticks marker payloadType => exact sends_writeSamples net s w payload ticks marker _

end Writer

/-! ## All calls -/

/-- A row of packets with plain headers, and the datagrams that they are sent as. -/
structure Outgoing (ssrc : UInt32) (first : Nat) (payloadType : UInt8) (payloads : List Bytes)
    (packets : List Rtp.Packet) (datagrams : List Bytes) : Prop where
  payloads_eq : packets.map Rtp.Packet.payload = payloads
  datagrams_eq : datagrams = packets.map Rtp.Packet.datagram
  row : Rtp.History.IsRow ssrc first (packets.map Rtp.Packet.header)
  fits : ∀ p ∈ packets, p.header.Fits
  plain : ∀ p ∈ packets, p.header.IsPlain
  payloadType_eq : ∀ p ∈ packets, p.header.payloadType = payloadType

namespace Outgoing

variable {ssrc : UInt32} {first : Nat} {payloadType : UInt8} {payloads : List Bytes}
  {packets : List Rtp.Packet} {datagrams : List Bytes}

theorem nil (ssrc : UInt32) (first : Nat) (payloadType : UInt8) :
    Outgoing ssrc first payloadType [] [] [] :=
  ⟨rfl, rfl, .nil ssrc first, List.forall_mem_nil _, List.forall_mem_nil _,
    List.forall_mem_nil _⟩

theorem cons {w : Writer} {payload octets : Bytes} {marker : Bool}
    (hnumber : w.sequencer.upcoming = UInt16.ofNat first)
    (hencode : (w.packetFor payload marker payloadType).encode = .ok octets)
    (hrest : Outgoing w.ssrc (first + 1) payloadType payloads packets datagrams) :
    Outgoing w.ssrc first payloadType (payload :: payloads)
      (w.packetFor payload marker payloadType :: packets) (octets :: datagrams) := by
  obtain ⟨hfits, hoctets⟩ := Rtp.Packet.encode_eq_ok_iff.mp hencode
  refine ⟨?_, ?_, ?_, ?_, ?_, ?_⟩
  · rw [List.map_cons, hrest.payloads_eq]
    rfl
  · rw [List.map_cons, ← hrest.datagrams_eq, hoctets]
    rfl
  · exact .cons rfl hnumber hrest.row
  · exact List.forall_mem_cons.mpr ⟨hfits, hrest.fits⟩
  · exact List.forall_mem_cons.mpr ⟨⟨rfl, rfl, rfl, rfl⟩, hrest.plain⟩
  · exact List.forall_mem_cons.mpr ⟨rfl, hrest.payloadType_eq⟩

theorem take (h : Outgoing ssrc first payloadType payloads packets datagrams) (m : Nat) :
    Outgoing ssrc first payloadType (payloads.take m) (packets.take m) (datagrams.take m) := by
  obtain ⟨hpayloads, hdatagrams, hrow, hfits, hplain, htype⟩ := h
  refine ⟨?_, ?_, ?_, ?_, ?_, ?_⟩
  · rw [List.map_take, hpayloads]
  · rw [List.map_take, hdatagrams]
  · rw [List.map_take]
    exact hrow.take m
  · exact fun p hp => hfits p (List.mem_of_mem_take hp)
  · exact fun p hp => hplain p (List.mem_of_mem_take hp)
  · exact fun p hp => htype p (List.mem_of_mem_take hp)

end Outgoing

/-- Calls that succeed send their payloads in order, numbered from where the writer
stands. -/
theorem Writer.outgoing_sendAll {w : Writer} {xs : List Sending} {first : Nat}
    {payloadType : UInt8} (hnumber : w.sequencer.upcoming = UInt16.ofNat first)
    (htype : ∀ x ∈ xs, x.payloadType w.payloadType = payloadType)
    (hsent : ∀ y ∈ w.sendAll xs, y.outcome.isOk) :
    Outgoing w.ssrc first payloadType (xs.map Sending.payload)
      ((w.sendAll xs).flatMap Written.built)
      (((w.sendAll xs).flatMap Written.sent).map Datagram.payload) := by
  induction xs generalizing w first with
  | nil => exact .nil _ _ _
  | cons x xs ih =>
      obtain ⟨htype, htypes⟩ := List.forall_mem_cons.mp htype
      obtain ⟨hone, hsent⟩ := List.forall_mem_cons.mp hsent
      obtain ⟨⟨marker, hbuilt⟩, hsequencer, hssrc, hown, hdatagram⟩ := w.sends_send x
      obtain ⟨d, hd, hencode⟩ := hdatagram hone
      rw [hbuilt, htype] at hencode
      have hnext : (w.send x).writer.sequencer.upcoming = UInt16.ofNat (first + 1) := by
        rw [hsequencer, Rtp.Sequencer.next, hnumber, UInt16.ofNat_add]
        rfl
      have hrest := ih hnext (hown ▸ htypes) hsent
      rw [hssrc] at hrest
      rw [sendAll, List.flatMap_cons, List.flatMap_cons, hbuilt, hd, htype]
      exact .cons hnumber (hencode _ (List.mem_singleton_self _)) hrest

end Media

end MediaTransport
