import MediaTransport.Bytes
import MediaTransport.Duration

/-!
# NTP time

A sender report says when it was made as seconds since 1900 and a binary fraction of
32 bits. The conversions from and to durations since 1970 round down.
-/

namespace MediaTransport.Rtcp

/-- A point in time, counted from the start of 1900. -/
structure NtpTime where
  /-- Whole seconds, modulo 2^32. -/
  seconds : UInt32
  /-- The rest of a second, in units of 2^-32. -/
  fraction : UInt32
  deriving DecidableEq

namespace NtpTime

/-- Seconds from the start of 1900 to the start of 1970. -/
def unixOffset : Nat := 2208988800

/-- The time at `d` after the start of 1970. -/
def ofUnix (d : Duration) : NtpTime where
  seconds := UInt32.ofNat (d.seconds + unixOffset)
  fraction := UInt32.ofNat (d.nanos * 4294967296 / 1000000000)

/-- The time at `d` after, or before, the start of 1970. Times before it count as
the start. -/
def ofClock (d : Duration) (before : Bool) : NtpTime :=
  ofUnix (if before then .zero else d)

/-- How long after the start of 1970 the time is; zero for times before it. -/
def toUnix (t : NtpTime) : Duration where
  seconds := t.seconds.toNat - unixOffset
  nanos := t.fraction.toNat * 1000000000 / 4294967296
  seconds_lt := by have := t.seconds.toNat_lt; omega
  nanos_lt := by have := t.fraction.toNat_lt; omega

/-- The time as one number: its seconds above its fraction. -/
def toWord (t : NtpTime) : UInt64 :=
  UInt64.ofNat (t.seconds.toNat * 4294967296 + t.fraction.toNat)

def ofWord (x : UInt64) : NtpTime where
  seconds := UInt32.ofNat (x.toNat / 4294967296)
  fraction := UInt32.ofNat x.toNat

/-- The middle half of the number, as report blocks echo it. -/
def compact (t : NtpTime) : UInt32 :=
  UInt32.ofNat (t.seconds.toNat % 65536 * 65536 + t.fraction.toNat / 65536)

def encode (t : NtpTime) : Bytes :=
  Bytes.octets32 t.seconds ++ Bytes.octets32 t.fraction

@[simp] theorem ofWord_toWord (t : NtpTime) : ofWord t.toWord = t := by
  obtain ⟨s, f⟩ := t
  have hs := s.toNat_lt
  have hf := f.toNat_lt
  simp only [ofWord, toWord, NtpTime.mk.injEq]
  constructor <;> apply UInt32.toNat_inj.mp <;>
    simp only [UInt32.toNat_ofNat', UInt64.toNat_ofNat'] <;> omega

@[simp] theorem toWord_ofWord (x : UInt64) : (ofWord x).toWord = x := by
  have hx := x.toNat_lt
  apply UInt64.toNat_inj.mp
  simp only [ofWord, toWord, UInt32.toNat_ofNat', UInt64.toNat_ofNat']
  omega

end NtpTime

end MediaTransport.Rtcp
