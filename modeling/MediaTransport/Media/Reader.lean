import MediaTransport.Media.Exchange
import MediaTransport.Rtp.Sequence

/-!
# Readers

A reader turns the packets of a session into a stream of octets. What a buffer does
not hold of a payload is kept for the next reads, and while anything is kept no
packet is taken from the session. There is no reordering: payloads come in the order
of arrival, and what is out of order is counted and reported.

One source is tracked at a time; the first packet of another one starts the tracker
afresh.
-/

namespace MediaTransport.Media

/-- What a reader has counted. -/
structure ReaderCounts where
  packets : Nat := 0
  octets : Nat := 0
  /-- Packets other than the next one in order. -/
  outOfOrder : Nat := 0
  /-- Packets from before the last wrap. -/
  regressions : Nat := 0
  sourceChanges : Nat := 0
  deriving DecidableEq

/-- The state of an incoming stream. -/
structure Reader where
  payloadType : UInt8
  /-- The sequence numbers of the source. -/
  tracker : Rtp.Tracker := {}
  lastSsrc : Option UInt32 := none
  /-- What has been received and not been read. -/
  pending : Bytes := []
  lastHeader : Option Rtp.Header := none
  counts : ReaderCounts := {}
  deriving DecidableEq

/-- What a read comes to. -/
structure ReadResult where
  attempt : Attempt Bytes
  reader : Reader
  session : Session
  accepted : Option Rtp.Packet := none
  /-- What was reported on the way. -/
  notices : List Notice := []

namespace Reader

/-- A reader for the first format of a session. -/
def ofSession (s : Session) : Except Error Reader × List Notice :=
  match s.formats with
  | [] => (.error (.settings .nothingToRead), [])
  | format :: _ =>
      match Format.payloadType format with
      | .error e => (.error e, [])
      | .ok payloadType =>
          let notices := if (Format.clockRate? format).isSome then [] else [.unknownClock format]
          (.ok { payloadType := payloadType }, notices)

/-- The first `size` octets of what is pending, and the reader without them. -/
def drain (r : Reader) (size : Nat) : Bytes × Reader :=
  (r.pending.take size, { r with pending := r.pending.drop size })

/-- The reader after the sequence number of a packet from the source it follows, and
what is reported about it. -/
def follow (r : Reader) (seq : UInt16) : Reader × List Notice :=
  let expected := r.tracker.extended + 1
  let tracker := r.tracker.advance seq
  let (late, regressions) :=
    match r.tracker.update seq with
    | .ok _ => (0, [])
    | .error e => (1, [Notice.regression e])
  let (strayed, disorder) :=
    if tracker.extended = expected then (0, [])
    else (1, [Notice.outOfOrder expected tracker.extended seq])
  let counts :=
    { r.counts with
      regressions := r.counts.regressions + late
      outOfOrder := r.counts.outOfOrder + strayed }
  ({ r with tracker := tracker, counts := counts }, regressions ++ disorder)

/-- The reader after a packet from a source that it did not follow. -/
def turnTo (r : Reader) (seq : UInt16) : Reader :=
  let changed := if r.lastSsrc.isSome then 1 else 0
  { r with
    tracker := .start seq
    counts := { r.counts with sourceChanges := r.counts.sourceChanges + changed } }

/-- The reader after the place of a packet in its stream has been noted, and what is
reported about it. -/
def track (r : Reader) (h : Rtp.Header) : Reader × List Notice :=
  let (r, notices) :=
    if r.lastSsrc = some h.ssrc then r.follow h.sequenceNumber
    else (r.turnTo h.sequenceNumber, [])
  ({ r with lastSsrc := some h.ssrc }, notices)

/-- The reader after a packet has been accepted, and what is reported about it. -/
def accept (r : Reader) (p : Rtp.Packet) : Reader × List Notice :=
  let (r, notices) := r.track p.header
  ({ r with
     pending := p.payload
     lastHeader := some p.header
     counts :=
       { r.counts with
         packets := r.counts.packets + 1, octets := r.counts.octets + p.payload.length } },
    notices)

/-- The packet of a datagram, when it has the payload type that is expected. -/
def expect (r : Reader) (datagram : Bytes) : Except Error Rtp.Packet :=
  match Rtp.Packet.decode datagram with
  | .error e => .error (.packet e)
  | .ok p =>
      if p.header.payloadType = r.payloadType then .ok p
      else .error (.payloadTypeMismatch r.payloadType p.header.payloadType)

/-- Reads up to `size` octets: of what is pending, or else of the payload of one more
datagram. -/
def read (r : Reader) (s : Session) (size : Nat) : ReadResult :=
  if !r.pending.isEmpty then
    let (octets, r) := r.drain size
    { attempt := .done (.ok octets), reader := r, session := s }
  else
    match s.readRtpOctets Rtp.datagramLimit with
    | (.waiting, s) => { attempt := .waiting, reader := r, session := s }
    | (.done (.error e), s) => { attempt := .done (.error e), reader := r, session := s }
    | (.done (.ok datagram), s) =>
        match r.expect datagram with
        | .error e => { attempt := .done (.error e), reader := r, session := s }
        | .ok p =>
            let traced := if s.settings.traceRtp then [.rtpRead p] else []
            let (r, notices) := r.accept p
            let (octets, r) := r.drain size
            { attempt := .done (.ok octets), reader := r, session := s
              accepted := some p, notices := traced ++ notices }

def setPayloadType (r : Reader) (payloadType : UInt8) : Reader :=
  { r with payloadType := payloadType }

def describe (r : Reader) : String :=
  let source :=
    match r.lastSsrc with
    | none => "None"
    | some ssrc => s!"Some({ssrc})"
  s!"RtpReader \x7b payload_type: {r.payloadType}, last_ssrc: {source}, " ++
    s!"sequence: ExtendedSequenceNumber \x7b cycles: {r.tracker.cycles}, " ++
    s!"last_seq: {r.tracker.last} \x7d, pending: {r.pending.length}, " ++
    s!"stats: ReaderStats \x7b packets: {r.counts.packets}, bytes: {r.counts.octets}, " ++
    s!"out_of_order: {r.counts.outOfOrder}, regressions: {r.counts.regressions}, " ++
    s!"ssrc_changes: {r.counts.sourceChanges} \x7d \x7d"

end Reader

end MediaTransport.Media
