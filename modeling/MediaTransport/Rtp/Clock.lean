import MediaTransport.Duration

/-!
# Media clocks

An RTP timestamp counts ticks of the payload's media clock in 32 bits and wraps. The
conversions here go between timestamps and durations at a clock rate in hertz; both
round down.
-/

namespace MediaTransport.Rtp

/-- A 32-bit count of media clock ticks. -/
abbrev Timestamp := UInt32

namespace Clock

/-- The clock rate of narrowband audio and of telephone events. -/
def narrowband : UInt32 := 8000

/-- The time that `ticks` take at `rate` hertz, rounded down to a nanosecond. A
stopped clock takes no time. -/
def durationOf (ticks : Timestamp) (rate : UInt32) : Duration :=
  if h : rate.toNat = 0 then .zero
  else
    { seconds := ticks.toNat / rate.toNat
      nanos := ticks.toNat % rate.toNat * 1000000000 / rate.toNat
      seconds_lt := by
        have ht := ticks.toNat_lt
        have hle := Nat.div_le_self ticks.toNat rate.toNat
        omega
      nanos_lt := by
        have hr : 0 < rate.toNat := by omega
        have hmod := Nat.mod_lt ticks.toNat hr
        apply Nat.div_lt_of_lt_mul
        exact Nat.mul_lt_mul_of_pos_right hmod (by decide) }

/-- How many whole ticks a clock of `rate` hertz makes during `d`, before the count
is reduced to 32 bits. -/
def wholeTicks (d : Duration) (rate : UInt32) : Nat :=
  d.toNanos * rate.toNat / 1000000000

/-- How far a timestamp advances during `d` at `rate` hertz. -/
def ticksOf (d : Duration) (rate : UInt32) : Timestamp :=
  UInt32.ofNat (wholeTicks d rate)

/-- How far the timestamps of successive packets are apart when each covers
`ptime`. -/
def ticksPerPacket (rate : UInt32) (ptime : Duration) : Timestamp :=
  ticksOf ptime rate

/-- The distance from one timestamp forward to another, across a wrap if need be. -/
def distance (first second : Timestamp) : Timestamp :=
  second - first

end Clock

end MediaTransport.Rtp
