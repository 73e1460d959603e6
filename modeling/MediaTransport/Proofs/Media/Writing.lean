import MediaTransport.Proofs.Media.Sending

/-!
# What a writer has written

Frames, samples and digits are written and the writer is set up anew, in any order, and
every packet may be sent or not. A call that has been made is a `Writing`: the call and
the writer that it found. `Writing.built` are the packets that it built, of which
`Writing.delivered` could be sent, and `Writing.advance` is how far the call moves the
timestamp.

`Writer.Accounts w past now` says what a writer that began as `w` has become after the
calls of `past`, and `Writing.Follows w past x` what the next call builds, both in terms
of those calls alone. All that a call does with the packets it builds is the same for
one packet and for a burst (`Writer.Emits`), so bursts are put together by
`Writer.Emits.append`.
-/

namespace MediaTransport.Media

open Net

/-- A call to a writer, and what it meets. -/
inductive WriterCall
  | send (sending : Sending)
  | digit (network : Network) (session : Session) (digit : Char) (payloadType : UInt8)
      (now : Nat)
  | setSsrc (ssrc : UInt32)
  | setPayloadType (payloadType : UInt8)
  | setClockRate (rate : UInt32)
  | setPacketTime (d : Duration)

namespace WriterCall

/-- Whether a packet can be sent during the call. -/
def delivers : WriterCall → Rtp.Packet → Bool
  | send x, p => (x.session.writeRtp x.network p).1.isOk
  | digit network session _ _ _, p => (session.writeRtp network p).1.isOk
  | _, _ => false

def ssrc? : WriterCall → Option UInt32
  | setSsrc ssrc => some ssrc
  | _ => none

end WriterCall

/-- A call that has been made, and the writer that it found. -/
structure Writing where
  writer : Writer
  call : WriterCall

namespace Writing

/-- What the call came to. -/
def result (x : Writing) : Written Unit :=
  match x.call with
  | .send y =>
      let written := x.writer.send y
      { written with outcome := written.outcome.map fun _ => () }
  | .digit network session digit payloadType now =>
      (x.writer.writeDigit network session digit payloadType now).1
  | .setSsrc ssrc => { outcome := .ok (), writer := x.writer.setSsrc ssrc }
  | .setPayloadType payloadType =>
      { outcome := .ok (), writer := x.writer.setPayloadType payloadType }
  | .setClockRate rate => { outcome := .ok (), writer := x.writer.setClockRate rate }
  | .setPacketTime d =>
      match x.writer.setPacketTime d with
      | .error e => { outcome := .error e, writer := x.writer }
      | .ok w => { outcome := .ok (), writer := w }

/-- The packets that the call built, in order. -/
def built (x : Writing) : List Rtp.Packet :=
  x.result.built

/-- The packets that the call built and sent. -/
def delivered (x : Writing) : List Rtp.Packet :=
  x.built.filter x.call.delivers

/-- How far the call moves the timestamp, whether or not a packet could be sent. Only a
digit has to be sent whole for that. -/
def advance (x : Writing) : Nat :=
  match x.call with
  | .send ⟨_, _, _, .frame _⟩ => x.writer.packetTicks.toNat
  | .send ⟨_, _, _, .samples ticks _ _⟩ => ticks.toNat
  | .digit _ _ _ _ _ => if x.result.outcome.isOk then 800 else 0
  | _ => 0

end Writing

/-! ## Packets in a row -/

namespace Writer

/-- The header of the packet at place `i` of a row that the writer builds. -/
structure Heads (w : Writer) (i : Nat) (h : Rtp.Header) : Prop where
  plain : h.IsPlain
  sequenceNumber : h.sequenceNumber = (w.sequencer.skip i).upcoming
  timestamp : h.timestamp = w.timestamp
  ssrc : h.ssrc = w.ssrc

/-- What building some packets in a row does to a writer, of which those are sent that
`delivers` says. -/
structure Emits (delivers : Rtp.Packet → Bool) (w : Writer) (built : List Rtp.Packet)
    (after : Writer) : Prop where
  header : ∀ i p, built[i]? = some p → w.Heads i p.header
  sequencer : after.sequencer = w.sequencer.skip built.length
  lastPacket : after.lastPacket = built.getLast?.or w.lastPacket
  packetsSent : after.packetsSent = w.packetsSent + UInt32.ofNat (built.filter delivers).length
  octetsSent : after.octetsSent =
    w.octetsSent + UInt32.ofNat ((built.filter delivers).map fun p => p.payload.length).sum

namespace Emits

variable {delivers : Rtp.Packet → Bool} {w v after : Writer} {early late : List Rtp.Packet}

theorem nil (hsequencer : after.sequencer = w.sequencer) (hlast : after.lastPacket = w.lastPacket)
    (hpackets : after.packetsSent = w.packetsSent) (hoctets : after.octetsSent = w.octetsSent) :
    Emits delivers w [] after := by
  refine ⟨by simp, ?_, hlast, ?_, ?_⟩
  · simpa [Rtp.Sequencer.skip] using hsequencer
  · simpa using hpackets
  · simpa using hoctets

/-- What is built says nothing about the timestamp and the pacer that are left. -/
theorem congr (h : Emits delivers w early v) (hsequencer : after.sequencer = v.sequencer)
    (hlast : after.lastPacket = v.lastPacket) (hpackets : after.packetsSent = v.packetsSent)
    (hoctets : after.octetsSent = v.octetsSent) : Emits delivers w early after :=
  ⟨h.header, hsequencer.trans h.sequencer, hlast.trans h.lastPacket,
    hpackets.trans h.packetsSent, hoctets.trans h.octetsSent⟩

theorem append (hearly : Emits delivers w early v) (hlate : Emits delivers v late after)
    (htimestamp : v.timestamp = w.timestamp) (hssrc : v.ssrc = w.ssrc) :
    Emits delivers w (early ++ late) after := by
  refine ⟨?_, ?_, ?_, ?_, ?_⟩
  · intro i p hp
    by_cases hi : i < early.length
    · rw [List.getElem?_append_left hi] at hp
      exact hearly.header i p hp
    · have hle : early.length ≤ i := Nat.le_of_not_lt hi
      rw [List.getElem?_append_right hle] at hp
      obtain ⟨hplain, hnumber, htime, hsource⟩ := hlate.header _ p hp
      refine ⟨hplain, ?_, htime.trans htimestamp, hsource.trans hssrc⟩
      rw [hnumber, hearly.sequencer, ← Rtp.Sequencer.skip_add, Nat.add_sub_cancel' hle]
  · rw [hlate.sequencer, hearly.sequencer, ← Rtp.Sequencer.skip_add, List.length_append]
  · rw [hlate.lastPacket, hearly.lastPacket, List.getLast?_append, Option.or_assoc]
  · rw [hlate.packetsSent, hearly.packetsSent, List.filter_append, List.length_append,
      UInt32.ofNat_add, UInt32.add_assoc]
  · rw [hlate.octetsSent, hearly.octetsSent, List.filter_append, List.map_append, List.sum_append,
      UInt32.ofNat_add, UInt32.add_assoc]

end Emits

@[simp] theorem payload_packetFor (w : Writer) (payload : Bytes) (marker : Bool)
    (payloadType : UInt8) : (w.packetFor payload marker payloadType).payload = payload := rfl

/-- Whether a packet can be sent decides the counts, and nothing else. -/
theorem emits_writeSamples (net : Network) (s : Session) (w : Writer) (payload : Bytes)
    (ticks : Rtp.Timestamp) (marker : Bool) (payloadType : UInt8) :
    Emits (fun p => (s.writeRtp net p).1.isOk) w [w.packetFor payload marker payloadType]
      (w.writeSamples net s payload ticks marker payloadType).writer := by
  have hheads : ∀ i p, [w.packetFor payload marker payloadType][i]? = some p →
      w.Heads i p.header := by
    intro i p hp
    obtain ⟨hi, rfl⟩ := List.getElem?_eq_some_iff.mp hp
    obtain rfl : i = 0 := by simpa using hi
    refine ⟨⟨rfl, rfl, rfl, rfl⟩, ?_, rfl, rfl⟩
    simp [packetFor, Rtp.Sequencer.skip]
  rw [writeSamples]
  cases hwrite : s.writeRtp net (w.packetFor payload marker payloadType) with
  | mk outcome notices =>
      cases outcome with
      | error e =>
          have hlost : (s.writeRtp net
              (w.packetFor payload marker payloadType)).1.isOk = false := by
            rw [hwrite]
            rfl
          exact ⟨hheads, rfl, rfl, by simp [hlost], by simp [hlost]⟩
      | ok d =>
          have hsent : (s.writeRtp net (w.packetFor payload marker payloadType)).1.isOk = true := by
            rw [hwrite]
            rfl
          exact ⟨hheads, rfl, rfl, by simp [hsent], by simp [hsent]⟩

theorem writeSamples_frame (net : Network) (s : Session) (w : Writer) (payload : Bytes)
    (ticks : Rtp.Timestamp) (marker : Bool) (payloadType : UInt8) :
    (w.writeSamples net s payload ticks marker payloadType).built =
        [w.packetFor payload marker payloadType] ∧
      (w.writeSamples net s payload ticks marker payloadType).writer.timestamp =
        w.timestamp + ticks ∧
      (w.writeSamples net s payload ticks marker payloadType).writer.ssrc = w.ssrc := by
  rw [writeSamples]
  cases s.writeRtp net (w.packetFor payload marker payloadType) with
  | mk outcome notices => cases outcome <;> exact ⟨rfl, rfl, rfl⟩

/-! ## Bursts -/

/-- What a call comes to that goes on after a first packet. -/
def goOn (one : Written Nat) (rest : Written Unit) : Written Unit :=
  { rest with
    built := one.built ++ rest.built
    sent := one.sent ++ rest.sent
    notices := one.notices ++ rest.notices }

/-- Events are sent one by one: there is none, the first cannot be sent, or it is sent and waited
for, and the others follow. -/
theorem writeEvents_induction {net : Network} {s : Session} {payloadType : UInt8}
    {motive : Bool → List Rtp.TelephoneEvent → Writer → Written Unit → Prop}
    (nil : ∀ marker w, motive marker [] w { outcome := .ok (), writer := w })
    (stop : ∀ marker event events w e,
      let one := writeSamples net s w event.encode 0 marker payloadType
      one.outcome = .error e →
        motive marker (event :: events) w { one with outcome := .error e })
    (next : ∀ marker event events w n now rest,
      let one := writeSamples net s w event.encode 0 marker payloadType
      one.outcome = .ok n → motive false events (one.writer.tick now).2 rest →
        motive marker (event :: events) w (goOn one rest))
    (marker : Bool) (events : List Rtp.TelephoneEvent) (w : Writer) (now : Nat) :
    motive marker events w (writeEvents net s payloadType marker events w now).1 := by
  induction events generalizing marker w now with
  | nil => exact nil marker w
  | cons event events ih =>
      rw [writeEvents]
      cases houtcome : (w.writeSamples net s event.encode 0 marker payloadType).outcome with
      | error e => exact stop marker event events w e houtcome
      | ok n => exact next marker event events w n _ _ houtcome (ih false _ _)

/-- One event of a burst takes a number, and leaves the timestamp where it was. -/
theorem emits_event (net : Network) (s : Session) (w : Writer) (event : Rtp.TelephoneEvent)
    (marker : Bool) (payloadType : UInt8) :
    let one := w.writeSamples net s event.encode 0 marker payloadType
    Emits (fun p => (s.writeRtp net p).1.isOk) w one.built one.writer ∧
      one.writer.timestamp = w.timestamp ∧ one.writer.ssrc = w.ssrc ∧ one.built.length = 1 := by
  intro one
  have hone := emits_writeSamples net s w event.encode 0 marker payloadType
  obtain ⟨hbuilt, htimestamp, hssrc⟩ :=
    writeSamples_frame net s w event.encode 0 marker payloadType
  rw [← hbuilt] at hone
  exact ⟨hone, htimestamp.trans (UInt32.add_zero _), hssrc, congrArg List.length hbuilt⟩

/-- What sending events one after the other does to a writer. -/
structure SendsEvents (net : Network) (s : Session) (w : Writer)
    (events : List Rtp.TelephoneEvent) (y : Written Unit) : Prop where
  emits : Emits (fun p => (s.writeRtp net p).1.isOk) w y.built y.writer
  timestamp : y.writer.timestamp = w.timestamp
  ssrc : y.writer.ssrc = w.ssrc
  /-- Nothing is left out unless something could not be sent. -/
  whole : y.outcome.isOk → y.built.length = events.length

theorem sendsEvents_writeEvents (net : Network) (s : Session) (payloadType : UInt8)
    (marker : Bool) (events : List Rtp.TelephoneEvent) (w : Writer) (now : Nat) :
    SendsEvents net s w events (writeEvents net s payloadType marker events w now).1 := by
  refine writeEvents_induction (motive := fun _ events w y => SendsEvents net s w events y)
    ?nil ?stop ?next marker events w now
  case nil => exact fun _ _ => ⟨.nil rfl rfl rfl rfl, rfl, rfl, fun _ => rfl⟩
  case stop =>
    intro marker event events w e one _
    obtain ⟨hone, htimestamp, hssrc, -⟩ := emits_event net s w event marker payloadType
    exact ⟨hone, htimestamp, hssrc, fun h => by cases h⟩
  case next =>
    intro marker event events w n now rest one _ hrest
    obtain ⟨hone, htimestamp, hssrc, hlength⟩ := emits_event net s w event marker payloadType
    have hwaited : Emits (fun p => (s.writeRtp net p).1.isOk) w one.built (one.writer.tick now).2 :=
      hone.congr rfl rfl rfl rfl
    refine ⟨hwaited.append hrest.emits htimestamp hssrc, hrest.timestamp.trans htimestamp,
      hrest.ssrc.trans hssrc, ?_⟩
    intro hok
    rw [goOn, List.length_append, hrest.whole hok, hlength, List.length_cons, Nat.add_comm]

/-- A digit is refused, or its events are sent; the timestamp moves past the event when all of
them have been sent. -/
theorem writeDigit_cases (net : Network) (s : Session) (w : Writer) (digit : Char)
    (payloadType : UInt8) (now : Nat) :
    (∃ e, Rtp.TelephoneEvent.codeOf digit = .error e ∧
      w.writeDigit net s digit payloadType now =
        ({ outcome := .error (.packet e), writer := w }, now)) ∨
    ∃ code, Rtp.TelephoneEvent.codeOf digit = .ok code ∧
      let y := (writeEvents net s payloadType true (Rtp.TelephoneEvent.burstOf code) w now).1
      (∃ e, y.outcome = .error e ∧ (w.writeDigit net s digit payloadType now).1 = y) ∨
        y.outcome = .ok () ∧ (w.writeDigit net s digit payloadType now).1 =
          { y with writer := { y.writer with timestamp := w.timestamp + 800 } } := by
  rw [writeDigit, Rtp.TelephoneEvent.burst]
  cases Rtp.TelephoneEvent.codeOf digit with
  | error e => exact Or.inl ⟨e, rfl, rfl⟩
  | ok code =>
      refine Or.inr ⟨code, rfl, ?_⟩
      dsimp only [Except.map]
      generalize writeEvents net s payloadType true (Rtp.TelephoneEvent.burstOf code) w now = sent
      obtain ⟨written, woken⟩ := sent
      cases houtcome : written.outcome with
      | error e => exact Or.inl ⟨e, rfl, rfl⟩
      | ok _ =>
          refine Or.inr ⟨rfl, ?_⟩
          dsimp only
          rw [Rtp.TelephoneEvent.duration_getLast_burstOf]
          rfl

/-- What sending a digit does to a writer. The timestamp moves past the event when all of
it has been sent, and not otherwise. -/
structure SendsDigit (net : Network) (s : Session) (w : Writer) (y : Written Unit) : Prop where
  emits : Emits (fun p => (s.writeRtp net p).1.isOk) w y.built y.writer
  timestamp : y.writer.timestamp = w.timestamp + UInt32.ofNat (if y.outcome.isOk then 800 else 0)
  ssrc : y.writer.ssrc = w.ssrc
  whole : y.outcome.isOk → y.built.length = 7

theorem sendsDigit_writeDigit (net : Network) (s : Session) (w : Writer) (digit : Char)
    (payloadType : UInt8) (now : Nat) :
    SendsDigit net s w (w.writeDigit net s digit payloadType now).1 := by
  have hstill : w.timestamp = w.timestamp + UInt32.ofNat 0 := (UInt32.add_zero _).symm
  rcases w.writeDigit_cases net s digit payloadType now with
    ⟨e, -, hrefused⟩ | ⟨code, -, ⟨e, houtcome, hstopped⟩ | ⟨houtcome, hwhole⟩⟩
  · rw [hrefused]
    exact ⟨.nil rfl rfl rfl rfl, hstill, rfl, fun h => by cases h⟩
  · obtain ⟨hemits, htimestamp, hssrc, -⟩ := w.sendsEvents_writeEvents net s payloadType true
      (Rtp.TelephoneEvent.burstOf code) now
    rw [hstopped]
    refine ⟨hemits, ?_, hssrc, ?_⟩
    · rw [houtcome]
      exact htimestamp.trans hstill
    · rw [houtcome]
      exact fun h => by cases h
  · obtain ⟨hemits, htimestamp, hssrc, hlength⟩ := w.sendsEvents_writeEvents net s payloadType
      true (Rtp.TelephoneEvent.burstOf code) now
    rw [houtcome] at hlength
    rw [hwhole]
    refine ⟨hemits.congr rfl rfl rfl rfl, ?_, hssrc, fun _ => hlength rfl⟩
    rw [houtcome]
    rfl

end Writer

/-! ## One call -/

namespace Writing

/-- What a call does to the writer that it found. -/
structure Moves (x : Writing) : Prop where
  emits : x.writer.Emits x.call.delivers x.built x.result.writer
  timestamp : x.result.writer.timestamp = x.writer.timestamp + UInt32.ofNat x.advance
  ssrc : x.result.writer.ssrc = x.call.ssrc?.getD x.writer.ssrc

theorem moves_send (w : Writer) (y : Sending) : Moves ⟨w, .send y⟩ := by
  obtain ⟨net, s, payload, manner⟩ := y
  cases manner with
  | frame now =>
      have hone :=
        w.emits_writeSamples net s payload w.packetTicks w.lastPacket.isNone w.payloadType
      obtain ⟨hbuilt, htimestamp, hssrc⟩ :=
        w.writeSamples_frame net s payload w.packetTicks w.lastPacket.isNone w.payloadType
      rw [← hbuilt] at hone
      refine ⟨hone.congr rfl rfl rfl rfl, htimestamp.trans ?_, hssrc⟩
      rw [advance, UInt32.ofNat_toNat]
  | samples ticks marker payloadType =>
      have hone := w.emits_writeSamples net s payload ticks marker payloadType
      obtain ⟨hbuilt, htimestamp, hssrc⟩ :=
        w.writeSamples_frame net s payload ticks marker payloadType
      rw [← hbuilt] at hone
      refine ⟨hone, htimestamp.trans ?_, hssrc⟩
      rw [advance, UInt32.ofNat_toNat]

/-- A packet time is refused when it is zero, and the writer is as it was. -/
theorem result_setPacketTime (w : Writer) (d : Duration) :
    result ⟨w, .setPacketTime d⟩ =
      if d = .zero then { outcome := .error (.settings .zeroInterval), writer := w }
      else
        { outcome := .ok ()
          writer := { w with
            packetTime := d
            packetTicks := Rtp.Clock.ticksPerPacket w.clockRate d
            pacer := none } } := by
  have hzero : d.isZero = true ↔ d = .zero := by
    rw [Duration.isZero_iff, ← Duration.toNanos_inj]
    rfl
  rw [result]
  dsimp only
  rw [Writer.setPacketTime]
  by_cases hd : d = .zero
  · rw [if_pos hd, if_pos (hzero.mpr hd)]
  · rw [if_neg hd, if_neg (mt hzero.mp hd)]

theorem moves_setPacketTime (w : Writer) (d : Duration) : Moves ⟨w, .setPacketTime d⟩ := by
  have hresult : ∃ outcome clock ticks pacer, result ⟨w, .setPacketTime d⟩ =
      { outcome, writer := { w with packetTime := clock, packetTicks := ticks, pacer } } := by
    rw [result_setPacketTime]
    by_cases hd : d = .zero
    · rw [if_pos hd]
      exact ⟨_, _, _, _, rfl⟩
    · rw [if_neg hd]
      exact ⟨_, _, _, _, rfl⟩
  obtain ⟨outcome, clock, ticks, pacer, hresult⟩ := hresult
  refine ⟨?_, ?_, ?_⟩
  · rw [built, hresult]
    exact .nil rfl rfl rfl rfl
  · rw [hresult]
    exact (UInt32.add_zero _).symm
  · rw [hresult]
    rfl

theorem moves (x : Writing) : x.Moves := by
  obtain ⟨w, call⟩ := x
  cases call with
  | send y => exact moves_send w y
  | digit net s digit payloadType now =>
      obtain ⟨hemits, htimestamp, hssrc, -⟩ :=
        w.sendsDigit_writeDigit net s digit payloadType now
      exact ⟨hemits, htimestamp, hssrc⟩
  | setSsrc _ | setPayloadType _ | setClockRate _ =>
      exact ⟨.nil rfl rfl rfl rfl, (UInt32.add_zero _).symm, rfl⟩
  | setPacketTime d => exact moves_setPacketTime w d

end Writing

/-! ## All calls -/

namespace Writer

/-- The writer after some calls. -/
def after (w : Writer) : List WriterCall → Writer
  | [] => w
  | call :: calls => (Writing.result ⟨w, call⟩).writer.after calls

/-- Some calls as they were made, one after the other. -/
def writings (w : Writer) : List WriterCall → List Writing
  | [] => []
  | call :: calls => ⟨w, call⟩ :: (Writing.result ⟨w, call⟩).writer.writings calls

theorem after_append_singleton (w : Writer) (calls : List WriterCall) (call : WriterCall) :
    w.after (calls ++ [call]) = (Writing.result ⟨w.after calls, call⟩).writer := by
  induction calls generalizing w with
  | nil => rfl
  | cons _ _ ih => exact ih _

theorem writings_append_singleton (w : Writer) (calls : List WriterCall) (call : WriterCall) :
    w.writings (calls ++ [call]) = w.writings calls ++ [⟨w.after calls, call⟩] := by
  induction calls generalizing w with
  | nil => rfl
  | cons _ _ ih =>
      rw [List.cons_append, writings, ih]
      rfl

/-- The source that some calls have set last, or else the one of the writer. -/
def ssrcAfter (w : Writer) (past : List Writing) : UInt32 :=
  past.foldl (fun ssrc x => x.call.ssrc?.getD ssrc) w.ssrc

/-- What has become of a writer after some calls. -/
structure Accounts (w : Writer) (past : List Writing) (now : Writer) : Prop where
  sequenceNumber : now.sequencer.upcoming.toNat =
    (w.sequencer.upcoming.toNat + (past.flatMap Writing.built).length) % 65536
  timestamp : now.timestamp.toNat =
    (w.timestamp.toNat + (past.map Writing.advance).sum) % 4294967296
  ssrc : now.ssrc = w.ssrcAfter past
  lastPacket : now.lastPacket = (past.flatMap Writing.built).getLast?.or w.lastPacket
  packetsSent : now.packetsSent.toNat =
    (w.packetsSent.toNat + (past.flatMap Writing.delivered).length) % 4294967296
  octetsSent : now.octetsSent.toNat =
    (w.octetsSent.toNat +
      ((past.flatMap Writing.delivered).map fun p => p.payload.length).sum) % 4294967296

end Writer

/-- What a call builds after some others: packets of the source that is set, with the
numbers that follow and the timestamp that has been reached. -/
structure Writing.Follows (w : Writer) (past : List Writing) (x : Writing) : Prop where
  header : ∀ i p, x.built[i]? = some p →
    p.header.IsPlain ∧
    p.header.sequenceNumber.toNat =
      (w.sequencer.upcoming.toNat + ((past.flatMap Writing.built).length + i)) % 65536 ∧
    p.header.timestamp.toNat =
      (w.timestamp.toNat + (past.map Writing.advance).sum) % 4294967296 ∧
    p.header.ssrc = w.ssrcAfter past
  /-- A frame is marked when nothing was built before it. -/
  frame : ∀ net s payload now, x.call = .send ⟨net, s, payload, .frame now⟩ →
    ∃ p, x.built = [p] ∧ p.payload = payload ∧ p.header.payloadType = x.writer.payloadType ∧
      (p.header.marker = true ↔ w.lastPacket = none ∧ past.flatMap Writing.built = [])
  samples : ∀ net s payload ticks marker payloadType,
    x.call = .send ⟨net, s, payload, .samples ticks marker payloadType⟩ →
    ∃ p, x.built = [p] ∧ p.payload = payload ∧ p.header.payloadType = payloadType ∧
      p.header.marker = marker
  digit : ∀ net s digit payloadType now, x.call = .digit net s digit payloadType now →
    x.result.outcome.isOk → x.built.length = 7

namespace Writer

/-- A sum modulo 2^32 goes on from what has been reached. -/
theorem toNat_add_ofNat {x y : UInt32} {m : Nat} (h : y.toNat = (x.toNat + m) % 4294967296)
    (n : Nat) : (y + UInt32.ofNat n).toNat = (x.toNat + (m + n)) % 4294967296 := by
  rw [UInt32.toNat_add, UInt32.toNat_ofNat', Nat.add_mod_mod, h, Nat.mod_add_mod, Nat.add_assoc]

namespace Accounts

variable {w now : Writer} {past : List Writing}

theorem nil (w : Writer) : w.Accounts [] w := by
  refine ⟨?_, ?_, rfl, rfl, ?_, ?_⟩
  · exact (Nat.mod_eq_of_lt w.sequencer.upcoming.toNat_lt).symm
  · exact (Nat.mod_eq_of_lt w.timestamp.toNat_lt).symm
  · exact (Nat.mod_eq_of_lt w.packetsSent.toNat_lt).symm
  · exact (Nat.mod_eq_of_lt w.octetsSent.toNat_lt).symm

theorem append_singleton (h : w.Accounts past now) (call : WriterCall) :
    w.Accounts (past ++ [⟨now, call⟩]) (Writing.result ⟨now, call⟩).writer := by
  obtain ⟨hemits, htimestamp, hssrc⟩ := Writing.moves ⟨now, call⟩
  refine ⟨?_, ?_, ?_, ?_, ?_, ?_⟩
  · rw [hemits.sequencer, Rtp.Sequencer.toNat_upcoming_skip, h.sequenceNumber, Nat.mod_add_mod,
      List.flatMap_append, List.flatMap_singleton, List.length_append, Nat.add_assoc]
  · rw [htimestamp, toNat_add_ofNat h.timestamp, List.map_append, List.sum_append,
      List.map_singleton, List.sum_singleton]
  · rw [hssrc, ssrcAfter, List.foldl_append]
    exact congrArg call.ssrc?.getD h.ssrc
  · rw [hemits.lastPacket, h.lastPacket, List.flatMap_append, List.flatMap_singleton,
      List.getLast?_append, Option.or_assoc]
  · rw [hemits.packetsSent, toNat_add_ofNat h.packetsSent, List.flatMap_append,
      List.flatMap_singleton, List.length_append]
    rfl
  · rw [hemits.octetsSent, toNat_add_ofNat h.octetsSent, List.flatMap_append,
      List.flatMap_singleton, List.map_append, List.sum_append]
    rfl

end Accounts

theorem accounts_after (w : Writer) (calls : List WriterCall) :
    w.Accounts (w.writings calls) (w.after calls) := by
  induction calls using List.reverseRecOn with
  | nil => exact .nil w
  | append_singleton calls call ih =>
      rw [after_append_singleton, writings_append_singleton]
      exact ih.append_singleton call

theorem Accounts.follows {w now : Writer} {past : List Writing} (h : w.Accounts past now)
    (call : WriterCall) : Writing.Follows w past ⟨now, call⟩ := by
  obtain ⟨hemits, -, -⟩ := Writing.moves ⟨now, call⟩
  refine ⟨?_, ?_, ?_, ?_⟩
  · intro i p hp
    obtain ⟨hplain, hnumber, htimestamp, hssrc⟩ := hemits.header i p hp
    refine ⟨hplain, ?_, ?_, ?_⟩
    · rw [hnumber, Rtp.Sequencer.toNat_upcoming_skip, h.sequenceNumber, Nat.mod_add_mod,
        Nat.add_assoc]
    · rw [htimestamp, h.timestamp]
    · rw [hssrc, h.ssrc]
  · rintro net s payload start rfl
    obtain ⟨hbuilt, -, -⟩ :=
      now.writeSamples_frame net s payload now.packetTicks now.lastPacket.isNone now.payloadType
    refine ⟨_, hbuilt, rfl, rfl, ?_⟩
    change now.lastPacket.isNone = true ↔ _
    rw [Option.isNone_iff_eq_none, h.lastPacket, Option.or_eq_none_iff,
      List.getLast?_eq_none_iff, and_comm]
  · rintro net s payload ticks marker payloadType rfl
    obtain ⟨hbuilt, -, -⟩ := now.writeSamples_frame net s payload ticks marker payloadType
    exact ⟨_, hbuilt, rfl, rfl, rfl⟩
  · rintro net s digit payloadType start rfl
    exact (now.sendsDigit_writeDigit net s digit payloadType start).whole

/-- Whatever is called and whatever can be sent: the packets that a writer builds are
numbered in the order in which they are built, and each has the timestamp that the calls
before it have reached and the source that they have set. -/
theorem accounts_after_and_follows (w : Writer) (calls : List WriterCall) (next : WriterCall) :
    w.Accounts (w.writings calls) (w.after calls) ∧
      Writing.Follows w (w.writings calls) ⟨w.after calls, next⟩ :=
  ⟨w.accounts_after calls, (w.accounts_after calls).follows next⟩

end Writer

end MediaTransport.Media
