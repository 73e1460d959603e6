import MediaTransport.Duration.Text
import MediaTransport.Media.Exchange
import MediaTransport.Media.Pacer
import MediaTransport.Rtp.Sequence
import MediaTransport.Rtp.TelephoneEvent

/-!
# Writers

A writer turns the frames of one outgoing stream into packets. Each packet takes the
next sequence number and the timestamp reached so far, whether or not it can be sent;
only the counts of what has been sent depend on that. `write` sends a frame that
covers one packet time and then waits for its pacer, `writeSamples` sends without
waiting, and `writeDigit` sends the burst of a telephone event, whose packets share
one timestamp.

A writer does not hold its session: each call is given the session and the network as
they are at that time.
-/

namespace MediaTransport.Media

open Net

/-- The values with which a stream starts. -/
structure StreamStart where
  ssrc : UInt32
  sequenceNumber : UInt16
  /-- The first timestamp, unless it is to be zero. -/
  timestamp : Rtp.Timestamp
  deriving DecidableEq

/-- The state of an outgoing stream. -/
structure Writer where
  sequencer : Rtp.Sequencer
  payloadType : UInt8
  ssrc : UInt32
  clockRate : UInt32
  packetTime : Duration
  /-- How far a frame advances the timestamp. -/
  packetTicks : Rtp.Timestamp
  /-- The timestamp of the next packet. -/
  timestamp : Rtp.Timestamp
  /-- The pacer, once a frame has been sent at this packet time. -/
  pacer : Option Pacer := none
  lastPacket : Option Rtp.Packet := none
  /-- Packets sent, modulo 2^32. -/
  packetsSent : UInt32 := 0
  /-- Payload octets sent, modulo 2^32. -/
  octetsSent : UInt32 := 0
  deriving DecidableEq

/-- What a call to a writer comes to. -/
structure Written (α : Type) where
  outcome : Except Error α
  writer : Writer
  /-- The packets that were built, in order. -/
  built : List Rtp.Packet := []
  /-- The datagrams that were sent, in order. -/
  sent : List Datagram := []
  /-- What was reported on the way. -/
  notices : List Notice := []

namespace Writer

/-- A writer for the first format of a session. -/
def ofSession (s : Session) (start : StreamStart) : Except Error Writer × List Notice :=
  match s.formats with
  | [] => (.error (.settings .nothingToWrite), [])
  | format :: _ =>
      match Format.payloadType format with
      | .error e => (.error e, [])
      | .ok payloadType =>
          let clockRate := (Format.clockRate? format).getD Rtp.Clock.narrowband
          let notices := if (Format.clockRate? format).isSome then [] else [.unknownClock format]
          (.ok {
            sequencer := ⟨start.sequenceNumber⟩
            payloadType := payloadType
            ssrc := start.ssrc
            clockRate := clockRate
            packetTime := s.settings.packetTime
            packetTicks := Rtp.Clock.ticksPerPacket clockRate s.settings.packetTime
            timestamp := if s.settings.randomTimestamp then start.timestamp else 0 }, notices)

/-- The packet that a payload becomes. -/
def packetFor (w : Writer) (payload : Bytes) (marker : Bool) (payloadType : UInt8) :
    Rtp.Packet where
  header :=
    { marker := marker
      payloadType := payloadType
      sequenceNumber := w.sequencer.upcoming
      timestamp := w.timestamp
      ssrc := w.ssrc }
  payload := payload

/-- Sends a payload, after which the timestamp advances by `ticks`. The result is the
number of octets taken. -/
def writeSamples (net : Network) (s : Session) (w : Writer) (payload : Bytes)
    (ticks : Rtp.Timestamp) (marker : Bool) (payloadType : UInt8) : Written Nat :=
  let packet := w.packetFor payload marker payloadType
  let next : Writer :=
    { w with
      sequencer := w.sequencer.next.2
      timestamp := w.timestamp + ticks
      lastPacket := some packet }
  match s.writeRtp net packet with
  | (.error e, notices) =>
      { outcome := .error e, writer := next, built := [packet], notices := notices }
  | (.ok datagram, notices) =>
      { outcome := .ok payload.length
        writer :=
          { next with
            packetsSent := next.packetsSent + 1
            octetsSent := next.octetsSent + UInt32.ofNat payload.length }
        built := [packet]
        sent := [datagram]
        notices := notices }

/-- Waits until the pacer lets the writer go on: when the wait ends, and the writer
after it. -/
def tick (w : Writer) (now : Nat) : Nat × Writer :=
  let pacer := w.pacer.getD (.start now w.packetTime.toNanos)
  let (now, pacer) := pacer.tick now
  (now, { w with pacer := some pacer })

/-- Sends a frame and waits, also when it could not be sent; and when the wait ends.
The first packet of a stream is marked. -/
def write (net : Network) (s : Session) (w : Writer) (frame : Bytes) (now : Nat) :
    Written Nat × Nat :=
  let written := w.writeSamples net s frame w.packetTicks w.lastPacket.isNone w.payloadType
  let (now, w) := written.writer.tick now
  ({ written with writer := w }, now)

/-- Sends the payloads of an event, the first of them marked if `marker` says so, and
waits after each. The first that cannot be sent ends this, without a wait. -/
def writeEvents (net : Network) (s : Session) (payloadType : UInt8) :
    Bool → List Rtp.TelephoneEvent → Writer → Nat → Written Unit × Nat
  | _, [], w, now => ({ outcome := .ok (), writer := w }, now)
  | marker, event :: events, w, now =>
      let one := w.writeSamples net s event.encode 0 marker payloadType
      match one.outcome with
      | .error e => ({ one with outcome := .error e }, now)
      | .ok _ =>
          let (now, w) := one.writer.tick now
          let (rest, now) := writeEvents net s payloadType false events w now
          ({ outcome := rest.outcome
             writer := rest.writer
             built := one.built ++ rest.built
             sent := one.sent ++ rest.sent
             notices := one.notices ++ rest.notices }, now)

/-- Sends a keypad digit as a telephone event, and when that ends. The timestamp moves
past the event only when all of it has been sent. -/
def writeDigit (net : Network) (s : Session) (w : Writer) (digit : Char)
    (payloadType : UInt8) (now : Nat) : Written Unit × Nat :=
  match Rtp.TelephoneEvent.burst digit with
  | .error e => ({ outcome := .error (.packet e), writer := w }, now)
  | .ok events =>
      let (written, now) := writeEvents net s payloadType true events w now
      match written.outcome with
      | .error _ => (written, now)
      | .ok _ =>
          let duration := (events.getLast?.map Rtp.TelephoneEvent.duration).getD 0
          let timestamp := w.timestamp + duration.toUInt32
          ({ written with writer := { written.writer with timestamp := timestamp } }, now)

/-- The writer with another packet time, which is not zero. -/
def setPacketTime (w : Writer) (d : Duration) : Except Error Writer :=
  if d.isZero then .error (.settings .zeroInterval)
  else
    .ok { w with
      packetTime := d, packetTicks := Rtp.Clock.ticksPerPacket w.clockRate d, pacer := none }

def setClockRate (w : Writer) (rate : UInt32) : Writer :=
  { w with clockRate := rate, packetTicks := Rtp.Clock.ticksPerPacket rate w.packetTime }

def setPayloadType (w : Writer) (payloadType : UInt8) : Writer :=
  { w with payloadType := payloadType }

def setSsrc (w : Writer) (ssrc : UInt32) : Writer :=
  { w with ssrc := ssrc }

/-- A report on what has been sent until `time`. -/
def senderReport (w : Writer) (time : Rtcp.NtpTime) : Rtcp.SenderReport where
  ssrc := w.ssrc
  time := time
  timestamp := w.timestamp
  packetCount := w.packetsSent
  octetCount := w.octetsSent

def describe (w : Writer) : String :=
  s!"RtpWriter \x7b ssrc: {w.ssrc}, payload_type: {w.payloadType}, " ++
    s!"sample_rate: {w.clockRate}, ptime: {w.packetTime.text}, " ++
    s!"next_timestamp: {w.timestamp}, next_sequence_number: {w.sequencer.upcoming} \x7d"

end Writer

end MediaTransport.Media
