import MediaTransport.Proofs.Rescaling
import MediaTransport.Rtp.Clock
import Mathlib.Algebra.Order.Field.Basic
import Mathlib.Algebra.Order.Field.Rat
import Mathlib.Data.Nat.Cast.Order.Ring
import Mathlib.Order.Bounds.Defs
import Mathlib.Tactic.NormNum

/-!
# Timestamps and durations

Both conversions of a media clock count in other units (`rescale`): of ticks, `rate` make a second,
and of nanoseconds a thousand million. A duration is long enough for 96 bits and a clock rate fits
into 32, so words of 128 bits hold all that comes up on the way from one to the other
(`Clock.wideTicks`), and only the result is reduced.

A clock that ticks no more than once in a nanosecond has the coarser unit. A timestamp then comes
back from its duration as it was, or one tick short; what a duration loses on its way through a
timestamp is a matter of the clock rate.
-/

namespace MediaTransport.Rtp.Clock

variable {d : Duration} {rate : UInt32} {ticks : Timestamp}

/-! ## From ticks to time -/

theorem toNanos_durationOf (hrate : 0 < rate.toNat) (ticks : Timestamp) :
    (durationOf ticks rate).toNanos = rescale rate.toNat 1000000000 ticks.toNat := by
  have hsplit := Nat.div_add_mod ticks.toNat rate.toNat
  rw [durationOf, dif_neg hrate.ne', Duration.toNanos, rescale]
  dsimp only
  conv_rhs => rw [← hsplit, Nat.add_mul, Nat.mul_assoc, Nat.mul_add_div hrate]

/-- A duration is as many whole nanoseconds as there are in the time that the ticks take. -/
theorem isGreatest_toNanos_durationOf (hrate : 0 < rate.toNat) (ticks : Timestamp) :
    IsGreatest {n : ℕ | (n : ℚ) / 1000000000 ≤ ticks.toNat / rate.toNat}
      (durationOf ticks rate).toNanos := by
  have hmem : ∀ n : ℕ, (n : ℚ) / 1000000000 ≤ ticks.toNat / rate.toNat ↔
      n ≤ (durationOf ticks rate).toNanos := by
    intro n
    have hpos : (0 : ℚ) < rate.toNat := Nat.cast_pos.mpr hrate
    rw [toNanos_durationOf hrate, le_rescale_iff hrate, div_le_div_iff₀ (by norm_num) hpos]
    exact_mod_cast Iff.rfl
  exact ⟨(hmem _).mpr le_rfl, fun n hn => (hmem n).mp hn⟩

/-! ## From time to ticks -/

theorem wholeTicks_eq (d : Duration) (rate : UInt32) :
    wholeTicks d rate = rescale 1000000000 rate.toNat d.toNanos := rfl

theorem toNat_ticksOf (d : Duration) (rate : UInt32) :
    (ticksOf d rate).toNat = wholeTicks d rate % 4294967296 :=
  UInt32.toNat_ofNat'

theorem toNat_ticksOf_of_lt (h : wholeTicks d rate < 4294967296) :
    (ticksOf d rate).toNat = wholeTicks d rate := by
  rw [toNat_ticksOf, Nat.mod_eq_of_lt h]

/-- The ticks of a duration, counted in words of 128 bits. -/
def wideTicks (d : Duration) (rate : UInt32) : BitVec 128 :=
  BitVec.ofNat 128 d.toNanos * BitVec.ofNat 128 rate.toNat / 1000000000#128

theorem toNanos_mul_lt (d : Duration) (rate : UInt32) :
    d.toNanos * rate.toNat < 2 ^ 128 :=
  calc d.toNanos * rate.toNat
      < 18446744073709551616 * 1000000000 * 4294967296 :=
        Nat.mul_lt_mul'' d.toNanos_lt rate.toNat_lt
    _ < 2 ^ 128 := by norm_num

theorem toNat_wideTicks (d : Duration) (rate : UInt32) :
    (wideTicks d rate).toNat = wholeTicks d rate := by
  have hproduct := toNanos_mul_lt d rate
  rw [wideTicks, BitVec.toNat_udiv, BitVec.toNat_mul, BitVec.toNat_ofNat, BitVec.toNat_ofNat,
    ← Nat.mul_mod, Nat.mod_eq_of_lt hproduct]
  rfl

theorem ticksOf_eq_wideTicks (d : Duration) (rate : UInt32) :
    ticksOf d rate = .ofBitVec ((wideTicks d rate).setWidth 32) := by
  rw [← UInt32.toNat_inj, toNat_ticksOf, UInt32.toNat_ofBitVec, BitVec.toNat_setWidth,
    toNat_wideTicks]

/-! ## There and back -/

theorem dvd_mod_mul_iff (r n k : ℕ) : r ∣ n % r * k ↔ r ∣ n * k := by
  rw [Nat.dvd_iff_mod_eq_zero, Nat.dvd_iff_mod_eq_zero, Nat.mod_mul_mod]

/-- A timestamp comes back as it was, or one tick short. -/
theorem toNat_ticksOf_durationOf (hpos : 0 < rate.toNat) (hle : rate.toNat ≤ 1000000000)
    (ticks : Timestamp) :
    (ticksOf (durationOf ticks rate) rate).toNat +
      (if rate.toNat ∣ ticks.toNat % rate.toNat * 1000000000 then 0 else 1) = ticks.toNat := by
  have hwhole : wholeTicks (durationOf ticks rate) rate =
      rescale 1000000000 rate.toNat (rescale rate.toNat 1000000000 ticks.toNat) := by
    rw [wholeTicks_eq, toNanos_durationOf hpos]
  have hlt : wholeTicks (durationOf ticks rate) rate < 4294967296 := by
    rw [hwhole]
    exact (rescale_rescale_le _ _ _).trans_lt ticks.toNat_lt
  rw [toNat_ticksOf_of_lt hlt, hwhole, if_congr (dvd_mod_mul_iff _ _ _) rfl rfl]
  exact rescale_rescale_add hpos hle ticks.toNat

theorem toNanos_durationOf_ticksOf (hrate : 0 < rate.toNat) (h : wholeTicks d rate < 4294967296) :
    (durationOf (ticksOf d rate) rate).toNanos =
      rescale rate.toNat 1000000000 (rescale 1000000000 rate.toNat d.toNanos) := by
  rw [toNanos_durationOf hrate, toNat_ticksOf_of_lt h, wholeTicks_eq]

/-- A duration loses less than the time of one tick, and one nanosecond. -/
theorem toNanos_sub_lt (hrate : 0 < rate.toNat) (h : wholeTicks d rate < 4294967296) :
    (d.toNanos : ℚ) - (durationOf (ticksOf d rate) rate).toNanos <
      1000000000 / rate.toNat + 1 := by
  have hpos : (0 : ℚ) < rate.toNat := Nat.cast_pos.mpr hrate
  have hloss := mul_lt_rescale_rescale (a := 1000000000) (by decide) hrate d.toNanos
  rw [← toNanos_durationOf_ticksOf hrate h] at hloss
  apply lt_of_mul_lt_mul_right _ hpos.le
  rw [sub_mul, add_mul, div_mul_cancel₀ _ hpos.ne', one_mul, sub_lt_iff_lt_add']
  exact_mod_cast hloss

/-- At every clock rate that is no finer than nanoseconds, the duration of a timestamp is exact to
the nanosecond, and the timestamp is lost by at most one tick when it is read back from there. At
every clock rate at all, the ticks of a duration are counted exactly and reduced at the end; as
long as that takes nothing away, they come back as a duration that is shorter by less than one
tick and one nanosecond. -/
theorem ticksOf_durationOf_and_durationOf_ticksOf (rate : UInt32) :
    (∀ ticks : Timestamp, 1 ≤ rate.toNat → rate.toNat ≤ 1000000000 →
      IsGreatest {n : ℕ | (n : ℚ) / 1000000000 ≤ ticks.toNat / rate.toNat}
        (durationOf ticks rate).toNanos ∧
      (durationOf ticks rate).nanos < 1000000000 ∧
      (ticksOf (durationOf ticks rate) rate).toNat +
        (if rate.toNat ∣ ticks.toNat % rate.toNat * 1000000000 then 0 else 1) = ticks.toNat) ∧
    ∀ d : Duration,
      d.toNanos * rate.toNat < 2 ^ 128 ∧
      ticksOf d rate = .ofBitVec ((wideTicks d rate).setWidth 32) ∧
      (ticksOf d rate).toNat = d.toNanos * rate.toNat / 1000000000 % 4294967296 ∧
      (1 ≤ rate.toNat → d.toNanos * rate.toNat / 1000000000 < 4294967296 →
        (durationOf (ticksOf d rate) rate).toNanos ≤ d.toNanos ∧
        (d.toNanos : ℚ) - (durationOf (ticksOf d rate) rate).toNanos <
          1000000000 / rate.toNat + 1) := by
  refine ⟨fun ticks hpos hle => ?_, fun d => ?_⟩
  · exact ⟨isGreatest_toNanos_durationOf hpos ticks, (durationOf ticks rate).nanos_lt,
      toNat_ticksOf_durationOf hpos hle ticks⟩
  · refine ⟨toNanos_mul_lt d rate, ticksOf_eq_wideTicks d rate, toNat_ticksOf d rate,
      fun hpos hlt => ⟨?_, toNanos_sub_lt hpos hlt⟩⟩
    rw [toNanos_durationOf_ticksOf hpos hlt]
    exact rescale_rescale_le _ _ _

/-- At 48 kHz the longest duration, to the nanosecond, whose ticks are not reduced. -/
def longestAt48k : Duration :=
  ⟨89478, 485333333, by decide, by decide⟩

/-- At 48 kHz a third of all timestamps come back as they were. -/
theorem ticksOf_durationOf_and_durationOf_ticksOf_fullband :
    (1 ≤ (48000 : UInt32).toNat ∧ (48000 : UInt32).toNat ≤ 1000000000) ∧
    (ticksOf (durationOf 1 48000) 48000).toNat = 0 ∧
    (ticksOf (durationOf 3 48000) 48000).toNat = 3 ∧
    longestAt48k.toNanos * (48000 : UInt32).toNat / 1000000000 < 4294967296 ∧
    (durationOf (ticksOf longestAt48k 48000) 48000).toNanos ≤ longestAt48k.toNanos ∧
    (longestAt48k.toNanos : ℚ) - (durationOf (ticksOf longestAt48k 48000) 48000).toNanos <
      1000000000 / (48000 : UInt32).toNat + 1 := by
  obtain ⟨hticks, htime⟩ := ticksOf_durationOf_and_durationOf_ticksOf 48000
  have hrate : 1 ≤ (48000 : UInt32).toNat ∧ (48000 : UInt32).toNat ≤ 1000000000 := by decide
  obtain ⟨-, -, hlost⟩ := hticks 1 hrate.1 hrate.2
  obtain ⟨-, -, hkept⟩ := hticks 3 hrate.1 hrate.2
  rw [if_neg (by decide)] at hlost
  rw [if_pos (by decide)] at hkept
  have hlt : longestAt48k.toNanos * (48000 : UInt32).toNat / 1000000000 < 4294967296 := by decide
  obtain ⟨-, -, -, hback⟩ := htime longestAt48k
  exact ⟨hrate, Nat.succ.inj hlost, hkept, hlt, hback hrate.1 hlt⟩

end MediaTransport.Rtp.Clock
