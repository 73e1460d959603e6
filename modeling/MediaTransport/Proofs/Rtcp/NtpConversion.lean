import MediaTransport.Proofs.Rescaling
import MediaTransport.Rtcp.NtpTime
import Mathlib.Data.Nat.GCD.Basic

/-!
# NTP time and durations

The fraction of an NTP time counts in units of 2^-32 of a second, which are finer than nanoseconds.
So a time is written as a larger number than every earlier one, and a duration comes back from the
time that it is written as with its seconds, and with its nanoseconds or one less. The other way
round, a nanosecond is a little more than four units, and a fraction can lose five.

The count of seconds is good until its 32 bits are used up, which they are in 2036
(`NtpTime.eraEnd`).
-/

namespace MediaTransport.Rtcp.NtpTime

/-- Seconds from the start of 1970 until the count of seconds starts anew. -/
def eraEnd : Nat :=
  4294967296 - unixOffset

variable {d e : Duration} {t : NtpTime}

/-! ## From durations to times -/

theorem toNat_seconds_ofUnix (h : d.seconds < eraEnd) :
    (ofUnix d).seconds.toNat = d.seconds + unixOffset := by
  rw [eraEnd, Nat.lt_sub_iff_add_lt] at h
  rw [ofUnix, UInt32.toNat_ofNat', Nat.mod_eq_of_lt h]

theorem toNat_fraction_ofUnix (d : Duration) :
    (ofUnix d).fraction.toNat = rescale 1000000000 4294967296 d.nanos := by
  have hlt : rescale 1000000000 4294967296 d.nanos < 4294967296 :=
    rescale_lt (by decide) d.nanos_lt
  exact UInt32.toNat_ofNat_of_lt' hlt

theorem toNat_toWord (t : NtpTime) :
    t.toWord.toNat = t.seconds.toNat * 4294967296 + t.fraction.toNat := by
  have hseconds := t.seconds.toNat_lt
  have hfraction := t.fraction.toNat_lt
  rw [toWord, UInt64.toNat_ofNat', Nat.mod_eq_of_lt (by omega)]

/-- Times are written in the order of their parts. -/
theorem toWord_lt_iff {t u : NtpTime} :
    t.toWord < u.toWord ↔ t.seconds.toNat < u.seconds.toNat ∨
      t.seconds.toNat = u.seconds.toNat ∧ t.fraction.toNat < u.fraction.toNat := by
  have ht := t.fraction.toNat_lt
  have hu := u.fraction.toNat_lt
  rw [UInt64.lt_iff_toNat_lt, toNat_toWord, toNat_toWord]
  omega

theorem toWord_ofUnix_lt_iff (hd : d.seconds < eraEnd) (he : e.seconds < eraEnd) :
    (ofUnix d).toWord < (ofUnix e).toWord ↔ d.toNanos < e.toNanos := by
  have hfraction : StrictMono (rescale 1000000000 4294967296) :=
    strictMono_rescale (by decide) (by decide)
  rw [toWord_lt_iff, toNat_seconds_ofUnix hd, toNat_seconds_ofUnix he, toNat_fraction_ofUnix,
    toNat_fraction_ofUnix, hfraction.lt_iff_lt, Nat.add_lt_add_iff_right,
    Nat.add_right_cancel_iff, Duration.toNanos_lt_iff]

theorem toWord_ofUnix_inj (hd : d.seconds < eraEnd) (he : e.seconds < eraEnd) :
    (ofUnix d).toWord = (ofUnix e).toWord ↔ d = e := by
  refine ⟨fun h => ?_, fun h => congrArg _ (congrArg _ h)⟩
  have hde : ¬d.toNanos < e.toNanos :=
    fun hlt => UInt64.ne_of_lt ((toWord_ofUnix_lt_iff hd he).mpr hlt) h
  have hed : ¬e.toNanos < d.toNanos :=
    fun hlt => UInt64.ne_of_lt ((toWord_ofUnix_lt_iff he hd).mpr hlt) h.symm
  exact Duration.toNanos_inj.mp
    (Nat.le_antisymm (Nat.le_of_not_lt hed) (Nat.le_of_not_lt hde))

/-! ## From times to durations -/

theorem nanos_toUnix (t : NtpTime) :
    (toUnix t).nanos = rescale 4294967296 1000000000 t.fraction.toNat := rfl

/-- The multiples of 5^9 are the nanoseconds that are whole fractions. -/
theorem dvd_mul_two_pow_iff (n : Nat) : 1000000000 ∣ n * 4294967296 ↔ 1953125 ∣ n := by
  have hcoprime : Nat.Coprime 1953125 8388608 := by decide
  change 1953125 * 512 ∣ n * (8388608 * 512) ↔ _
  rw [← Nat.mul_assoc, Nat.mul_dvd_mul_iff_right (by decide), hcoprime.dvd_mul_right]

theorem toUnix_ofUnix (hd : d.seconds < eraEnd) :
    (toUnix (ofUnix d)).seconds = d.seconds ∧
      (toUnix (ofUnix d)).nanos + (if 1953125 ∣ d.nanos then 0 else 1) = d.nanos := by
  constructor
  · change (ofUnix d).seconds.toNat - unixOffset = d.seconds
    rw [toNat_seconds_ofUnix hd, Nat.add_sub_cancel]
  · rw [nanos_toUnix, toNat_fraction_ofUnix,
      if_congr (dvd_mul_two_pow_iff d.nanos).symm rfl rfl]
    exact rescale_rescale_add (by decide) (by decide) d.nanos

theorem ofUnix_toUnix (ht : unixOffset ≤ t.seconds.toNat) :
    (ofUnix (toUnix t)).seconds = t.seconds ∧
      (ofUnix (toUnix t)).fraction.toNat ≤ t.fraction.toNat ∧
      t.fraction.toNat ≤ (ofUnix (toUnix t)).fraction.toNat + 5 := by
  refine ⟨?_, ?_, ?_⟩
  · rw [ofUnix, toUnix, Nat.sub_add_cancel ht, UInt32.ofNat_toNat]
  · rw [toNat_fraction_ofUnix, nanos_toUnix]
    exact rescale_rescale_le _ _ _
  · have hloss := mul_lt_rescale_rescale (a := 4294967296) (b := 1000000000) (by decide)
      (by decide) t.fraction.toNat
    rw [toNat_fraction_ofUnix, nanos_toUnix]
    omega

/-- Until 2036, times are written in the order in which they are, each as a number of its own, and
come back with their seconds and a nanosecond short, or with all nanoseconds if those are a
multiple of 5^9. A time since 1970 comes back from its duration with its seconds, and its fraction
is at most five units short. -/
theorem toWord_lt_and_toUnix_ofUnix_and_ofUnix_toUnix :
    (∀ d e : Duration, d.seconds < eraEnd → e.seconds < eraEnd →
      ((ofUnix d).toWord < (ofUnix e).toWord ↔ d.toNanos < e.toNanos) ∧
      ((ofUnix d).toWord = (ofUnix e).toWord ↔ d = e)) ∧
    (∀ d : Duration, d.seconds < eraEnd →
      (toUnix (ofUnix d)).seconds = d.seconds ∧
      (toUnix (ofUnix d)).nanos + (if 1953125 ∣ d.nanos then 0 else 1) = d.nanos) ∧
    (∀ t : NtpTime, unixOffset ≤ t.seconds.toNat →
      (ofUnix (toUnix t)).seconds = t.seconds ∧
      (ofUnix (toUnix t)).fraction.toNat ≤ t.fraction.toNat ∧
      t.fraction.toNat ≤ (ofUnix (toUnix t)).fraction.toNat + 5) ∧
    ∀ t : NtpTime, (toUnix t).nanos < 1000000000 := by
  refine ⟨fun d e hd he => ⟨toWord_ofUnix_lt_iff hd he, toWord_ofUnix_inj hd he⟩,
    fun d => toUnix_ofUnix, fun t => ofUnix_toUnix, fun t => ?_⟩
  rw [nanos_toUnix]
  exact rescale_lt (by decide) t.fraction.toNat_lt

/-- The last nanoseconds of the era, from `nanos` on. -/
def lastSecond (nanos : Nat) (hnanos : nanos < 1000000000 := by decide) : Duration :=
  ⟨2085978495, nanos, by decide, hnanos⟩

theorem toWord_lt_and_toUnix_ofUnix_and_ofUnix_toUnix_lastSecond :
    ((lastSecond 999999998).seconds < eraEnd ∧ (lastSecond 999999999).seconds < eraEnd) ∧
    (ofUnix (lastSecond 999999998)).toWord < (ofUnix (lastSecond 999999999)).toWord ∧
    (toUnix (ofUnix (lastSecond 999999999))).nanos = 999999998 ∧
    (toUnix (ofUnix (lastSecond 500000000))).nanos = 500000000 ∧
    unixOffset ≤ (⟨4294967295, 4294967295⟩ : NtpTime).seconds.toNat ∧
    4294967295 ≤ (ofUnix (toUnix ⟨4294967295, 4294967295⟩)).fraction.toNat + 5 := by
  obtain ⟨hwords, hdurations, htimes, -⟩ := toWord_lt_and_toUnix_ofUnix_and_ofUnix_toUnix
  have hera : (lastSecond 999999998).seconds < eraEnd ∧ (lastSecond 999999999).seconds < eraEnd := by
    decide
  obtain ⟨-, hlost⟩ := hdurations (lastSecond 999999999) hera.2
  obtain ⟨-, hkept⟩ := hdurations (lastSecond 500000000) hera.2
  rw [if_neg (by decide)] at hlost
  rw [if_pos (by decide)] at hkept
  have htime : unixOffset ≤ (⟨4294967295, 4294967295⟩ : NtpTime).seconds.toNat := by decide
  exact ⟨hera, (hwords _ _ hera.1 hera.2).1.mpr (by decide), Nat.succ.inj hlost, hkept, htime,
    (htimes _ htime).2.2⟩

end MediaTransport.Rtcp.NtpTime
