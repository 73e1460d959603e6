import MediaTransport.Proofs.Media.Writing
import MediaTransport.Proofs.Rtp.ClockConversion

/-!
# The clock step of a writer

How far a frame moves the timestamp is kept beside the packet time and the clock rate that it comes
from, and the pacer keeps a period of its own. `Writer.IsInStep` says that they fit together: it
holds of a writer for a session with valid settings, and whatever is called then, it goes on to
hold. Only two calls touch any of the four, and sending in every form leaves them alone
(`Writer.KeepsStep`).

The step is rounded down to whole ticks, so frames can fall behind the time that they cover. They
do not when the packet time itself is a number of whole ticks, and at the narrowband clock every
packet time in milliseconds is.
-/

namespace MediaTransport.Media

open Net

/-- With valid settings every packet covers some time. -/
theorem Settings.packetTime_pos {s : Settings} (hvalid : s.validate = .ok ()) :
    0 < s.packetTime.toNanos := by
  have hmillis : s.packetMillis ≠ 0 := by
    intro hzero
    rw [validate, fault?, if_pos hzero] at hvalid
    cases hvalid
  have hpos : 0 < s.packetMillis.toNat :=
    Nat.pos_of_ne_zero fun hzero => hmillis (UInt64.toNat_inj.mp hzero)
  rw [packetTime, Duration.toNanos_ofMillis]
  exact Nat.mul_pos hpos (by decide)

namespace Writer

/-- The time from one due time to the next, also before there is a pacer. -/
def pace (w : Writer) : Nat :=
  (w.pacer.map Pacer.period).getD w.packetTime.toNanos

/-- The clock step and the pace are those of the packet time, which is not zero. -/
structure IsInStep (w : Writer) : Prop where
  packetTime_pos : 0 < w.packetTime.toNanos
  pace_eq : w.pace = w.packetTime.toNanos
  packetTicks_eq : w.packetTicks.toNat =
    w.packetTime.toNanos * w.clockRate.toNat / 1000000000 % 4294967296

/-! ## Sending -/

/-- What sending leaves as it was. -/
structure KeepsStep (w after : Writer) : Prop where
  packetTime : after.packetTime = w.packetTime
  clockRate : after.clockRate = w.clockRate
  packetTicks : after.packetTicks = w.packetTicks
  pace : after.pace = w.pace

variable {w v after : Writer}

namespace KeepsStep

theorem refl (w : Writer) : w.KeepsStep w :=
  ⟨rfl, rfl, rfl, rfl⟩

theorem trans (hearly : w.KeepsStep v) (hlate : v.KeepsStep after) : w.KeepsStep after :=
  ⟨hlate.packetTime.trans hearly.packetTime, hlate.clockRate.trans hearly.clockRate,
    hlate.packetTicks.trans hearly.packetTicks, hlate.pace.trans hearly.pace⟩

theorem withTimestamp (h : w.KeepsStep v) (timestamp : Rtp.Timestamp) :
    w.KeepsStep { v with timestamp := timestamp } :=
  ⟨h.packetTime, h.clockRate, h.packetTicks, h.pace⟩

theorem isInStep (h : w.KeepsStep after) (hw : w.IsInStep) : after.IsInStep := by
  obtain ⟨htime, hrate, hticks, hpace⟩ := h
  refine ⟨?_, ?_, ?_⟩
  · rw [htime]
    exact hw.packetTime_pos
  · rw [hpace, htime]
    exact hw.pace_eq
  · rw [hticks, htime, hrate]
    exact hw.packetTicks_eq

end KeepsStep

theorem keepsStep_tick (w : Writer) (now : Nat) : w.KeepsStep (w.tick now).2 := by
  refine ⟨rfl, rfl, rfl, ?_⟩
  cases hpacer : w.pacer with
  | none => rw [pace, pace, tick, hpacer]; rfl
  | some pacer => rw [pace, pace, tick, hpacer]; rfl

theorem keepsStep_writeSamples (net : Network) (s : Session) (w : Writer) (payload : Bytes)
    (ticks : Rtp.Timestamp) (marker : Bool) (payloadType : UInt8) :
    w.KeepsStep (w.writeSamples net s payload ticks marker payloadType).writer := by
  rw [writeSamples]
  cases s.writeRtp net (w.packetFor payload marker payloadType) with
  | mk outcome notices => cases outcome <;> exact ⟨rfl, rfl, rfl, rfl⟩

theorem keepsStep_send (w : Writer) (x : Sending) : w.KeepsStep (w.send x).writer := by
  obtain ⟨net, s, payload, manner⟩ := x
  cases manner with
  | frame now => exact (keepsStep_writeSamples net s w payload _ _ _).trans (keepsStep_tick _ now)
  | samples ticks marker payloadType => exact keepsStep_writeSamples net s w payload _ _ _

theorem keepsStep_writeEvents (net : Network) (s : Session) (payloadType : UInt8) (marker : Bool)
    (events : List Rtp.TelephoneEvent) (w : Writer) (now : Nat) :
    w.KeepsStep (writeEvents net s payloadType marker events w now).1.writer := by
  refine writeEvents_induction (motive := fun _ _ w y => w.KeepsStep y.writer)
    ?nil ?stop ?next marker events w now
  case nil => exact fun _ w => .refl w
  case stop =>
    intro marker event events w e one _
    exact keepsStep_writeSamples net s w event.encode 0 marker payloadType
  case next =>
    intro marker event events w n now rest one _ hrest
    have hone := keepsStep_writeSamples net s w event.encode 0 marker payloadType
    exact (hone.trans (keepsStep_tick _ now)).trans hrest

theorem keepsStep_writeDigit (net : Network) (s : Session) (w : Writer) (digit : Char)
    (payloadType : UInt8) (now : Nat) :
    w.KeepsStep (w.writeDigit net s digit payloadType now).1.writer := by
  rcases w.writeDigit_cases net s digit payloadType now with
    ⟨e, -, hrefused⟩ | ⟨code, -, ⟨e, -, hstopped⟩ | ⟨-, hwhole⟩⟩
  · rw [hrefused]
    exact .refl w
  · rw [hstopped]
    exact keepsStep_writeEvents net s payloadType true _ w now
  · rw [hwhole]
    exact (keepsStep_writeEvents net s payloadType true _ w now).withTimestamp _

/-! ## All calls -/

theorem isInStep_setClockRate (hw : w.IsInStep) (rate : UInt32) : (w.setClockRate rate).IsInStep :=
  ⟨hw.packetTime_pos, hw.pace_eq, Rtp.Clock.toNat_ticksOf w.packetTime rate⟩

theorem isInStep_result (x : Writing) (hx : x.writer.IsInStep) : x.result.writer.IsInStep := by
  obtain ⟨w, call⟩ := x
  cases call with
  | send y => exact (w.keepsStep_send y).isInStep hx
  | digit net s digit payloadType now =>
      exact (w.keepsStep_writeDigit net s digit payloadType now).isInStep hx
  | setSsrc _ | setPayloadType _ =>
      exact ⟨hx.packetTime_pos, hx.pace_eq, hx.packetTicks_eq⟩
  | setClockRate rate => exact isInStep_setClockRate hx rate
  | setPacketTime d =>
      rw [Writing.result_setPacketTime]
      by_cases hd : d = .zero
      · rw [if_pos hd]
        exact hx
      · rw [if_neg hd]
        have hpos : 0 < d.toNanos :=
          Nat.pos_of_ne_zero fun hzero => hd (Duration.toNanos_inj.mp hzero)
        exact ⟨hpos, rfl, Rtp.Clock.toNat_ticksOf d w.clockRate⟩

theorem isInStep_after (hw : w.IsInStep) (calls : List WriterCall) : (w.after calls).IsInStep := by
  induction calls using List.reverseRecOn with
  | nil => exact hw
  | append_singleton calls call ih =>
      rw [after_append_singleton]
      exact isInStep_result ⟨w.after calls, call⟩ ih

/-! ## Frames -/

end Writer

/-- A frame is written. -/
def WriterCall.IsFrame (call : WriterCall) : Prop :=
  ∃ net s payload now, call = .send ⟨net, s, payload, .frame now⟩

namespace Writer

variable {w : Writer} {calls : List WriterCall}

theorem advance_and_keepsStep_of_isFrame {call : WriterCall} (w : Writer) (hcall : call.IsFrame) :
    Writing.advance ⟨w, call⟩ = w.packetTicks.toNat ∧
      w.KeepsStep (Writing.result ⟨w, call⟩).writer := by
  obtain ⟨net, s, payload, now, rfl⟩ := hcall
  exact ⟨rfl, w.keepsStep_send ⟨net, s, payload, .frame now⟩⟩

theorem map_advance_writings (hcalls : ∀ call ∈ calls, call.IsFrame) :
    (w.writings calls).map Writing.advance = List.replicate calls.length w.packetTicks.toNat := by
  induction calls generalizing w with
  | nil => rfl
  | cons call calls ih =>
      obtain ⟨hcall, hcalls⟩ := List.forall_mem_cons.mp hcalls
      obtain ⟨hadvance, hkeeps⟩ := w.advance_and_keepsStep_of_isFrame hcall
      rw [writings, List.map_cons, ih hcalls, hkeeps.packetTicks, hadvance, List.length_cons,
        List.replicate_succ]

/-- When the packet time is a number of whole ticks, frames stay with the time that they cover,
however many there are. -/
theorem toNat_timestamp_after (hw : w.IsInStep) (hcalls : ∀ call ∈ calls, call.IsFrame)
    (hwhole : 1000000000 ∣ w.packetTime.toNanos * w.clockRate.toNat) :
    (w.after calls).timestamp.toNat =
      (w.timestamp.toNat +
        rescale 1000000000 w.clockRate.toNat (calls.length * w.packetTime.toNanos)) %
          4294967296 := by
  rw [(w.accounts_after calls).timestamp, map_advance_writings hcalls, List.sum_replicate_nat,
    hw.packetTicks_eq, rescale_mul hwhole, rescale, Nat.add_mod, Nat.mul_mod_mod, ← Nat.add_mod]

/-! ## A new writer -/

/-- A new writer has a narrowband clock, whether or not its format is known. -/
theorem of_ofSession {s : Session} {start : StreamStart} (h : (ofSession s start).1 = .ok w) :
    w.clockRate = Rtp.Clock.narrowband ∧ w.packetTime = s.settings.packetTime ∧
      w.packetTicks = Rtp.Clock.ticksPerPacket w.clockRate w.packetTime ∧ w.pacer = none := by
  rw [ofSession] at h
  cases hformats : s.formats with
  | nil =>
      rw [hformats] at h
      cases h
  | cons format formats =>
      have hrate : (Format.clockRate? format).getD Rtp.Clock.narrowband = Rtp.Clock.narrowband := by
        rw [Format.clockRate?]
        split <;> rfl
      rw [hformats] at h
      dsimp only at h
      cases htype : Format.payloadType format with
      | error e =>
          rw [htype] at h
          cases h
      | ok payloadType =>
          rw [htype] at h
          cases h
          exact ⟨hrate, rfl, rfl, rfl⟩

theorem isInStep_of_ofSession {s : Session} {start : StreamStart}
    (hvalid : s.settings.validate = .ok ()) (h : (ofSession s start).1 = .ok w) : w.IsInStep := by
  obtain ⟨-, htime, hticks, hpacer⟩ := of_ofSession h
  refine ⟨?_, ?_, ?_⟩
  · rw [htime]
    exact Settings.packetTime_pos hvalid
  · rw [pace, hpacer]
    rfl
  · rw [hticks]
    exact Rtp.Clock.toNat_ticksOf w.packetTime w.clockRate

/-- A millisecond is eight ticks of a narrowband clock. -/
theorem mul_narrowband (s : Settings) :
    s.packetTime.toNanos * Rtp.Clock.narrowband.toNat =
      1000000000 * (8 * s.packetMillis.toNat) := by
  rw [Settings.packetTime, Duration.toNanos_ofMillis]
  change s.packetMillis.toNat * 1000000 * 8000 = _
  omega

/-- Whatever is called on a writer for a session with valid settings, its packet time is not zero,
the pacer has it as its period, and the clock step is the number of whole ticks that it covers; a
packet time of zero is refused, and changes nothing. A new writer that does nothing but write
frames, sent or not, is where a clock would be that was read only once, after all of them. -/
theorem isInStep_after_and_timestamp_after {s : Session} {start : StreamStart}
    (hvalid : s.settings.validate = .ok ()) (hw : (ofSession s start).1 = .ok w) :
    (∀ calls : List WriterCall,
      let now := w.after calls
      now.IsInStep ∧
      (∀ d, (Writing.result ⟨now, .setPacketTime d⟩).outcome.isOk ↔ d ≠ .zero) ∧
      Writing.result ⟨now, .setPacketTime .zero⟩ =
        { outcome := .error (.settings .zeroInterval), writer := now }) ∧
    ∀ calls : List WriterCall, (∀ call ∈ calls, call.IsFrame) →
      let now := w.after calls
      now.timestamp.toNat =
        (w.timestamp.toNat + calls.length * (8 * s.settings.packetMillis.toNat)) % 4294967296 ∧
      now.timestamp.toNat =
        (w.timestamp.toNat + calls.length * s.settings.packetTime.toNanos * 8000 / 1000000000) %
          4294967296 ∧
      ∀ d : Duration, d.toNanos = calls.length * s.settings.packetTime.toNanos →
        now.timestamp = w.timestamp + Rtp.Clock.ticksOf d Rtp.Clock.narrowband := by
  have hstep := isInStep_of_ofSession hvalid hw
  refine ⟨fun calls => ⟨isInStep_after hstep calls, fun d => ?_, ?_⟩, fun calls hcalls => ?_⟩
  · rw [Writing.result_setPacketTime]
    by_cases hd : d = .zero
    · rw [if_pos hd]
      exact iff_of_false Bool.false_ne_true (not_not_intro hd)
    · rw [if_neg hd]
      exact iff_of_true rfl hd
  · rw [Writing.result_setPacketTime, if_pos rfl]
  · obtain ⟨hrate, htime, -, -⟩ := of_ofSession hw
    have hnanos := mul_narrowband s.settings
    have hwhole : 1000000000 ∣ s.settings.packetTime.toNanos * Rtp.Clock.narrowband.toNat :=
      ⟨_, hnanos⟩
    have hexact := toNat_timestamp_after hstep hcalls (by rwa [htime, hrate])
    rw [htime, hrate] at hexact
    refine ⟨?_, hexact, fun d hd => ?_⟩
    · rw [hexact, rescale_mul hwhole, rescale, hnanos, Nat.mul_div_cancel_left _ (by decide)]
    · rw [← UInt32.toNat_inj, hexact, UInt32.toNat_add, Rtp.Clock.toNat_ticksOf,
        Rtp.Clock.wholeTicks_eq, hd, Nat.add_mod_mod]

/-- A closed session, whose format has no known clock. -/
def unheard : Session where
  settings := { packetMillis := 30, randomTimestamp := true }
  localEndpoint := ⟨.v4 ⟨127, 0, 0, 1⟩, 4000⟩
  sockets := none
  closed := true
  formats := ["96"]
  mode := .sendReceive

/-- Its writer, whose timestamps are about to wrap. -/
def unheardWriter : Writer where
  sequencer := ⟨65535⟩
  payloadType := 96
  ssrc := 7
  clockRate := 8000
  packetTime := .ofMillis 30
  packetTicks := 240
  timestamp := 4294967000

/-- A frame that cannot be sent. -/
def unheardFrame : WriterCall :=
  .send ⟨.lossless, unheard, [1, 2, 3], .frame 0⟩

theorem isInStep_after_and_timestamp_after_unheard :
    unheard.settings.validate = .ok () ∧
    (ofSession unheard ⟨7, 65535, 4294967000⟩).1 = .ok unheardWriter ∧
    (unheardWriter.after [.setClockRate 44100, unheardFrame,
      .setPacketTime ⟨0, 2500000, by decide, by decide⟩]).packetTicks.toNat = 110 ∧
    (∀ call ∈ [unheardFrame, unheardFrame], call.IsFrame) ∧
    (unheardWriter.after [unheardFrame, unheardFrame]).timestamp.toNat = 184 := by
  have hvalid : unheard.settings.validate = .ok () := rfl
  have hwriter : (ofSession unheard ⟨7, 65535, 4294967000⟩).1 = .ok unheardWriter := rfl
  have hframes : ∀ call ∈ [unheardFrame, unheardFrame], call.IsFrame := by
    intro call hcall
    rw [List.mem_pair, or_self] at hcall
    exact ⟨_, _, _, _, hcall⟩
  obtain ⟨hsteps, htimestamps⟩ := isInStep_after_and_timestamp_after hvalid hwriter
  exact ⟨hvalid, hwriter, (hsteps _).1.packetTicks_eq, hframes, (htimestamps _ hframes).1⟩

end Writer

end MediaTransport.Media
