import MediaTransport.Proofs.Media.Delivery
import MediaTransport.Proofs.Media.Sending
import MediaTransport.Proofs.Media.SourceTracking

/-!
# From a writer to a reader

A channel hands over what a writer sends: every datagram once, in order, and nothing
else. Then what a reader has taken is the front of what was sent, for the queue of its
session is a queue (`Reception.queue_run`). Every such datagram is a packet that the
reader expects, so it is accepted, cut to the receive buffer (`Reading.accepted_of_expects`).
The balance of octets and the record of what has been accepted say the rest.
-/

namespace MediaTransport.Media

namespace Reading

variable {x : Reading}

/-- A read that takes what is expected accepts it. -/
theorem accepted_of_expects
    (h : ∀ d ∈ x.taken, ∃ p, x.reader.expect (d.take Rtp.datagramLimit) = .ok p) :
    x.accepted = x.taken.filterMap packetOf? := by
  rw [accepted_eq_filter, List.filter_eq_self]
  intro p hp
  obtain ⟨d, hd, hpacket⟩ := List.mem_filterMap.mp hp
  obtain ⟨q, hq⟩ := h d hd
  rw [packetOf?_of_expect_eq_ok hq] at hpacket
  cases hpacket
  exact decide_eq_true (Reader.expect_eq_ok_iff.mp hq).2

end Reading

namespace Reception

theorem payloadType_run {c : Reception} {events : List ReceptionEvent}
    (hexpected : ∀ t, .setPayloadType t ∈ events → t = c.reader.payloadType) :
    Keeps (fun r _ => r.payloadType = c.reader.payloadType) (c.run events) := by
  refine keeps_run (fun x hx => x.payloadType_result.trans hx) ?_ rfl
  intro event hevent c' hc'
  cases event with
  | setPayloadType t => exact hexpected t hevent
  | arrive _ | read _ | close => exact hc'

end Reception

/-! ## A row of packets that has been taken -/

theorem filterMap_packetOf?_map_datagram {packets : List Rtp.Packet}
    (hfits : ∀ p ∈ packets, p.header.Fits) (hplain : ∀ p ∈ packets, p.header.IsPlain) :
    (packets.map Rtp.Packet.datagram).filterMap packetOf? = packets.map Rtp.Packet.cut := by
  have hcut : ∀ p ∈ packets, packetOf? p.datagram = some p.cut := by
    intro p hp
    exact packetOf?_eq_some_iff.mpr (Rtp.Packet.decode_take_datagram (hfits p hp) (hplain p hp))
  rw [List.filterMap_map]
  exact (List.filterMap_congr hcut).trans (congrFun List.filterMap_eq_map packets)

namespace Outgoing

variable {ssrc : UInt32} {first : Nat} {payloadType : UInt8} {payloads : List Bytes}
  {packets : List Rtp.Packet} {datagrams : List Bytes}

theorem decode_take (h : Outgoing ssrc first payloadType payloads packets datagrams)
    {p : Rtp.Packet} (hp : p ∈ packets) :
    Rtp.Packet.decode (p.datagram.take Rtp.datagramLimit) = .ok p.cut :=
  Rtp.Packet.decode_take_datagram (h.fits p hp) (h.plain p hp)

/-- A reader of the right type expects all of it. -/
theorem exists_expect (h : Outgoing ssrc first payloadType payloads packets datagrams)
    {r : Reader} (hr : r.payloadType = payloadType) {d : Bytes} (hd : d ∈ datagrams) :
    ∃ p, r.expect (d.take Rtp.datagramLimit) = .ok p := by
  rw [h.datagrams_eq] at hd
  obtain ⟨p, hp, rfl⟩ := List.mem_map.mp hd
  have htype : p.cut.header.payloadType = r.payloadType := (h.payloadType_eq p hp).trans hr.symm
  exact ⟨p.cut, Reader.expect_eq_ok_iff.mpr ⟨h.decode_take hp, htype⟩⟩

variable {readings : List Reading}

theorem accepted_eq
    (h : Outgoing ssrc first payloadType payloads packets (readings.flatMap Reading.taken))
    (hreadings : ∀ x ∈ readings, x.reader.payloadType = payloadType) :
    readings.flatMap Reading.accepted = packets.map Rtp.Packet.cut := by
  have hall : ∀ x ∈ readings, x.accepted = x.taken.filterMap packetOf? := by
    intro x hx
    refine Reading.accepted_of_expects fun d hd => ?_
    exact h.exists_expect (hreadings x hx) (List.mem_flatMap.mpr ⟨x, hx, hd⟩)
  rw [List.flatMap_congr hall, ← List.filterMap_flatMap, h.datagrams_eq,
    filterMap_packetOf?_map_datagram h.fits h.plain]

theorem payloads_eq_flatMap
    (h : Outgoing ssrc first payloadType payloads packets (readings.flatMap Reading.taken))
    (hreadings : ∀ x ∈ readings, x.reader.payloadType = payloadType) :
    readings.flatMap Reading.payloads = payloads.flatMap fun payload => payload.take 1588 := by
  have hall : ∀ x ∈ readings, x.payloads = x.taken.flatMap (payloadOf payloadType) := by
    intro x hx
    rw [Reading.payloads, hreadings x hx]
  have hcut : ∀ p ∈ packets, payloadOf payloadType p.datagram = p.payload.take 1588 := by
    intro p hp
    rw [payloadOf, h.decode_take hp]
    exact if_pos (h.payloadType_eq p hp)
  rw [List.flatMap_congr hall, ← List.flatMap_assoc, h.datagrams_eq, List.flatMap_map,
    List.flatMap_congr hcut, ← h.payloads_eq, List.flatMap_map]

/-- What a reader knows of a row that it has accepted. -/
theorem records (h : Outgoing ssrc first payloadType payloads packets datagrams)
    (hfirst : first < 65536) {r : Reader} (hr : Records r (packets.map Rtp.Packet.cut)) :
    r.counts.packets = packets.length ∧
    r.counts.octets = (payloads.map fun payload => (payload.take 1588).length).sum ∧
    r.counts.outOfOrder = 0 ∧ r.counts.regressions = 0 ∧ r.counts.sourceChanges = 0 ∧
    (packets ≠ [] → r.tracker.extended = first + packets.length - 1) ∧
    r.lastHeader = packets.getLast?.map Rtp.Packet.header := by
  have hheaders : (packets.map Rtp.Packet.cut).map Rtp.Packet.header =
      packets.map Rtp.Packet.header := List.map_map
  obtain ⟨htracks, hheader, hpackets, hoctets⟩ := hr
  rw [hheaders] at htracks
  refine ⟨?_, ?_, ?_, ?_, ?_, ?_, ?_⟩
  · rw [hpackets, List.length_map]
  · rw [hoctets, ← h.payloads_eq, List.map_map, List.map_map]
    rfl
  · rw [htracks.outOfOrder, h.row.count_isStray hfirst]
  · rw [htracks.regressions, h.row.count_isRegression hfirst]
  · rw [htracks.sourceChanges, h.row.count_isTurn]
  · intro hne
    rw [htracks.tracker, h.row.extended_tracker hfirst (mt List.map_eq_nil_iff.mp hne),
      List.length_map]
  · rw [hheader, List.getLast?_map, Option.map_map]
    rfl

end Outgoing

/-- Whatever a writer sends and however it is read: on a channel that hands over every
datagram once, in order, and carries nothing else, the octets returned and then those
pending are the payloads of the datagrams taken so far, each as far as a receive
buffer holds it. The reader has counted all of them, none as out of order. It stands
at the number of the last one, counted on from the first without wrapping, and has the
header that the writer gave it. -/
theorem received_of_sent {w : Writer} {calls : List Sending} {payloadType : UInt8}
    {b : Session} {events : List ReceptionEvent}
    (htype : ∀ x ∈ calls, x.payloadType w.payloadType = payloadType)
    (hsent : ∀ y ∈ w.sendAll calls, y.outcome.isOk)
    (hexpected : ∀ t, .setPayloadType t ∈ events → t = payloadType)
    (hchannel : b.inbox ++ Reception.arrivals events <+:
      ((w.sendAll calls).flatMap Written.sent).map Net.Datagram.payload) :
    let start : Reception := ⟨{ payloadType := payloadType }, b, none⟩
    let readings := (start.run events).1
    let reader := (start.run events).2.reader
    let taken := (readings.flatMap Reading.taken).length
    let built := (w.sendAll calls).flatMap Written.built
    readings.flatMap Reading.returned ++ reader.pending =
      (calls.take taken).flatMap (fun x => x.payload.take 1588) ∧
    reader.counts.packets = taken ∧
    reader.counts.octets = ((calls.take taken).map fun x => (x.payload.take 1588).length).sum ∧
    reader.counts.outOfOrder = 0 ∧ reader.counts.regressions = 0 ∧
    reader.counts.sourceChanges = 0 ∧
    (1 ≤ taken →
      reader.tracker.extended = w.sequencer.upcoming.toNat + taken - 1 ∧
      ∃ p, built[taken - 1]? = some p ∧ reader.lastHeader = some p.header) := by
  intro start readings reader taken built
  have hnumber : w.sequencer.upcoming = UInt16.ofNat w.sequencer.upcoming.toNat :=
    UInt16.ofNat_toNat.symm
  have hout := w.outgoing_sendAll hnumber htype hsent
  have hfront : readings.flatMap Reading.taken <+: b.inbox ++ Reception.arrivals events :=
    (start.queue_run events).1
  have htaken := List.prefix_iff_eq_take.mp (hfront.trans hchannel)
  have hrow := hout.take taken
  rw [← htaken] at hrow
  have hreadings := (Reception.payloadType_run (c := start) hexpected).readings
  have hlength : (built.take taken).length = taken := by
    rw [← List.length_map Rtp.Packet.datagram, ← hrow.datagrams_eq]
  have hstart : Records start.reader [] := .of_new payloadType
  have hrecords : Records reader (readings.flatMap Reading.accepted) :=
    Reception.records_run hstart events
  have hbalance : readings.flatMap Reading.payloads =
      readings.flatMap Reading.returned ++ reader.pending := start.balance_run events
  rw [hrow.accepted_eq hreadings] at hrecords
  rw [hrow.payloads_eq_flatMap hreadings, ← List.map_take, List.flatMap_map] at hbalance
  obtain ⟨hpackets, hoctets, hdisorder, hregressions, hchanges, hextended, hheader⟩ :=
    hrow.records (UInt16.toNat_lt _) hrecords
  rw [hlength] at hpackets hextended
  rw [← List.map_take, List.map_map] at hoctets
  refine ⟨hbalance.symm, hpackets, hoctets, hdisorder, hregressions, hchanges, ?_⟩
  intro hone
  have hne : built.take taken ≠ [] := by
    intro hnil
    rw [hnil, List.length_nil] at hlength
    omega
  have hlast := List.getLast?_eq_some_getLast hne
  refine ⟨hextended hne, _, ?_, hheader.trans (congrArg _ hlast)⟩
  rw [List.getLast?_eq_getElem?, hlength, List.getElem?_take_of_lt (by omega)] at hlast
  exact hlast

/-- A writer whose numbers and timestamps are about to wrap. -/
def wrappingWriter : Writer where
  sequencer := ⟨65535⟩
  payloadType := 0
  ssrc := 7
  clockRate := 8000
  packetTime := .ofMillis 20
  packetTicks := 160
  timestamp := 4294967290

/-- A session of a writer, and of its reader. -/
def loopback : Session where
  settings := {}
  localEndpoint := ⟨.v4 ⟨127, 0, 0, 1⟩, 4000⟩
  sockets := some ⟨⟨⟨.v4 ⟨127, 0, 0, 1⟩, 4000⟩, []⟩, none⟩
  remote := some ⟨.v4 ⟨127, 0, 0, 1⟩, 4000⟩
  formats := []
  mode := .sendReceive

def wrappingCalls : List Sending :=
  [⟨.lossless, loopback, [1, 2, 3], .frame 0⟩, ⟨.lossless, loopback, [4, 5], .samples 160 false 0⟩]

/-- Both packets arrive and are read, the first one in two parts. -/
def wrappingEvents : List ReceptionEvent :=
  (((wrappingWriter.sendAll wrappingCalls).flatMap Written.sent).map fun d =>
    .arrive d.payload) ++ [.read 2, .read 5, .read 5]

theorem received_of_sent_wrappingCalls :
    let start : Reception := ⟨{ payloadType := 0 }, loopback, none⟩
    let stop := (start.run wrappingEvents).2
    (∀ y ∈ wrappingWriter.sendAll wrappingCalls, y.outcome.isOk) ∧
    (start.run wrappingEvents).1.flatMap Reading.returned ++ stop.reader.pending =
      [1, 2, 3, 4, 5] ∧
    stop.reader.counts.octets = 5 ∧ stop.reader.tracker.extended = 65536 := by
  have htype : ∀ x ∈ wrappingCalls, x.payloadType wrappingWriter.payloadType = 0 := by decide
  have hsent : ∀ y ∈ wrappingWriter.sendAll wrappingCalls, y.outcome.isOk := by decide
  have hexpected : ∀ t, .setPayloadType t ∈ wrappingEvents → t = 0 := by
    intro t ht
    simp [wrappingEvents] at ht
  have hchannel : loopback.inbox ++ Reception.arrivals wrappingEvents <+:
      ((wrappingWriter.sendAll wrappingCalls).flatMap Written.sent).map Net.Datagram.payload := by
    decide
  obtain ⟨hreturned, -, hoctets, -, -, -, hlast⟩ :=
    received_of_sent htype hsent hexpected hchannel
  have htaken : ((Reception.run ⟨{ payloadType := 0 }, loopback, none⟩
      wrappingEvents).1.flatMap Reading.taken).length = 2 := by
    decide
  rw [htaken] at hreturned hoctets hlast
  exact ⟨hsent, hreturned, hoctets, (hlast (by decide)).1⟩

end MediaTransport.Media
