/-!
# Durations

A duration is a number of whole seconds below 2^64 and of nanoseconds below 10^9.
Both bounds are part of the type, so conversions need no check of their own.
-/

namespace MediaTransport

/-- A span of time that is not negative, to the nanosecond. -/
structure Duration where
  seconds : Nat
  /-- The nanoseconds beyond the whole seconds. -/
  nanos : Nat
  seconds_lt : seconds < 18446744073709551616 := by decide
  nanos_lt : nanos < 1000000000 := by decide
  deriving DecidableEq

namespace Duration

def zero : Duration := ⟨0, 0, by decide, by decide⟩

instance : Inhabited Duration := ⟨zero⟩

/-- The duration of so many seconds and nanoseconds, when both are in range. -/
def of? (seconds nanos : Nat) : Option Duration :=
  if h : seconds < 18446744073709551616 ∧ nanos < 1000000000 then
    some ⟨seconds, nanos, h.1, h.2⟩
  else none

def ofMillis (ms : UInt64) : Duration where
  seconds := ms.toNat / 1000
  nanos := ms.toNat % 1000 * 1000000
  seconds_lt := by have := ms.toNat_lt; omega
  nanos_lt := by omega

def toNanos (d : Duration) : Nat :=
  d.seconds * 1000000000 + d.nanos

/-- The duration in whole milliseconds, reduced to 64 bits. -/
def toMillis (d : Duration) : UInt64 :=
  UInt64.ofNat (d.toNanos / 1000000)

def isZero (d : Duration) : Bool :=
  d.seconds == 0 && d.nanos == 0

theorem toNanos_lt (d : Duration) : d.toNanos < 18446744073709551616 * 1000000000 := by
  have hs := d.seconds_lt
  have hn := d.nanos_lt
  simp only [toNanos]
  omega

@[simp] theorem toNanos_ofMillis (ms : UInt64) : (ofMillis ms).toNanos = ms.toNat * 1000000 := by
  simp only [toNanos, ofMillis]
  omega

theorem toNanos_inj {d e : Duration} : d.toNanos = e.toNanos ↔ d = e := by
  refine ⟨fun h => ?_, fun h => h ▸ rfl⟩
  obtain ⟨s, n, hs, hn⟩ := d
  obtain ⟨t, m, ht, hm⟩ := e
  simp only [toNanos] at h
  have hst : s = t := by omega
  have hnm : n = m := by omega
  subst hst hnm
  rfl

/-- Durations are ordered by their seconds, and by their nanoseconds within a second. -/
theorem toNanos_lt_iff {d e : Duration} :
    d.toNanos < e.toNanos ↔ d.seconds < e.seconds ∨ d.seconds = e.seconds ∧ d.nanos < e.nanos := by
  have hd := d.nanos_lt
  have he := e.nanos_lt
  simp only [toNanos]
  omega

theorem isZero_iff {d : Duration} : d.isZero = true ↔ d.toNanos = 0 := by
  simp only [isZero, toNanos, Bool.and_eq_true, beq_iff_eq]
  omega

end Duration

end MediaTransport
