import MediaTransport.Rtp.Sequence
import Mathlib.Algebra.Order.SuccPred.PartialSups
import Mathlib.Data.Nat.SuccPred
import Mathlib.Order.Lattice.Nat

/-!
# Numbers without bound behind sequence numbers

A sender counts its packets without bound, and the wire carries the numbers modulo
2^16. `Tracker.standingAt n` is the tracker whose widened number is `n`. A number less
than half the space away is told apart from all others with the same 16 bits
(`Tracker.update_ofNat_of_near`): the tracker moves to it, unless that would take it
back over a wrap.

A stream may be reordered, lose packets and repeat them. What carries the run is not
the last number but the largest one so far: a tracker that has refused packets stays
where it is, and is still close to it (`Tracker.IsBehind`), because a packet that is
refused is never the largest. The main statement is that such a tracker keeps giving
the sender's number back.
-/

namespace MediaTransport.Rtp.Tracker

/-- The tracker that stands at the number `n`. -/
def standingAt (n : Nat) : Tracker :=
  ⟨n / 65536, UInt16.ofNat n⟩

@[simp] theorem extended_standingAt (n : Nat) : (standingAt n).extended = n := by
  simp only [standingAt, extended, UInt16.toNat_ofNat']
  omega

theorem cycles_eq_div (t : Tracker) : t.cycles = t.extended / 65536 := by
  have hlast := t.last.toNat_lt
  rw [extended]
  omega

/-! ## One number -/

/-- A number less than half the space away is recognised, and refused only when it is
from before the last wrap. -/
theorem update_ofNat_of_near {t : Tracker} {n : Nat} (hforward : n < t.extended + halfSpace)
    (hback : t.extended < n + halfSpace) :
    t.update (UInt16.ofNat n) =
      if t.cycles ≤ n / 65536 then .ok (standingAt n)
      else .error (.sequenceRegression t.last (UInt16.ofNat n)) := by
  have hlast := t.last.toNat_lt
  have hseq : (UInt16.ofNat n).toNat = n % 65536 := UInt16.toNat_ofNat'
  simp only [extended, halfSpace] at hforward hback
  have hcycle : n / 65536 = t.cycles + 1 ∨ n / 65536 = t.cycles ∨ n / 65536 + 1 = t.cycles := by
    omega
  rw [update, hseq, halfSpace, standingAt]
  rcases hcycle with hnext | hsame | hprevious
  · rw [if_pos (by omega), if_pos (by omega), hnext]
  · rw [if_neg (by omega), if_neg (by omega), if_pos (by omega), hsame]
  · rw [if_neg (by omega), if_pos (by omega), if_neg (by omega)]

theorem advance_of_update_ok {t t' : Tracker} {seq : UInt16} (h : t.update seq = .ok t') :
    t.advance seq = t' := by
  rw [advance, h]

theorem advance_of_update_error {t : Tracker} {seq : UInt16} {e : WireError}
    (h : t.update seq = .error e) : t.advance seq = t := by
  rw [advance, h]

/-- A number is refused for one reason only. -/
theorem eq_of_update_eq_error {t : Tracker} {seq : UInt16} {e : WireError}
    (h : t.update seq = .error e) : e = .sequenceRegression t.last seq := by
  unfold update at h
  split at h
  · cases h
  · split at h
    · cases h
      rfl
    · cases h

/-- The next number takes a tracker one further, wherever it stands. -/
theorem advance_standingAt (n : Nat) :
    (standingAt n).advance (UInt16.ofNat (n + 1)) = standingAt (n + 1) := by
  have hforward : n + 1 < (standingAt n).extended + halfSpace := by
    rw [extended_standingAt, halfSpace]
    omega
  have hback : (standingAt n).extended < n + 1 + halfSpace := by
    rw [extended_standingAt]
    omega
  have hcycle : (standingAt n).cycles ≤ (n + 1) / 65536 := Nat.div_le_div_right (Nat.le_succ n)
  have hupdate := update_ofNat_of_near hforward hback
  rw [if_pos hcycle] at hupdate
  exact advance_of_update_ok hupdate

/-- What a tracker can do with a number: wrap, leave it out, or move to it. -/
theorem advance_cases (t : Tracker) (seq : UInt16) :
    (seq.toNat + halfSpace < t.last.toNat ∧ t.advance seq = ⟨t.cycles + 1, seq⟩) ∨
    (t.last.toNat + halfSpace < seq.toNat ∧ t.advance seq = t) ∨
    (t.last.toNat ≤ seq.toNat + halfSpace ∧ seq.toNat ≤ t.last.toNat + halfSpace ∧
      t.advance seq = ⟨t.cycles, seq⟩) := by
  by_cases hwrap : seq.toNat + halfSpace < t.last.toNat
  · refine Or.inl ⟨hwrap, ?_⟩
    rw [advance, update, if_pos hwrap]
  · by_cases hlate : t.last.toNat + halfSpace < seq.toNat
    · refine Or.inr (Or.inl ⟨hlate, ?_⟩)
      rw [advance, update, if_neg hwrap, if_pos hlate]
    · refine Or.inr (Or.inr ⟨Nat.le_of_not_lt hwrap, Nat.le_of_not_lt hlate, ?_⟩)
      rw [advance, update, if_neg hwrap, if_neg hlate]

/-- A tracker moves on by one exactly when the next number comes, wrapping after the
last. -/
theorem extended_advance_eq_iff (t : Tracker) (seq : UInt16) :
    (t.advance seq).extended = t.extended + 1 ↔
      seq.toNat = (t.last.toNat + 1) % 65536 := by
  have hlast := t.last.toNat_lt
  have hseq := seq.toNat_lt
  have hcases := t.advance_cases seq
  rw [halfSpace] at hcases
  rcases hcases with ⟨hwrap, hadvance⟩ | ⟨hlate, hadvance⟩ | ⟨hback, hforward, hadvance⟩
  · simp only [hadvance, extended]
    omega
  · rw [hadvance]
    omega
  · simp only [hadvance, extended]
    omega

/-- The next number is never refused. -/
theorem last_advance_of_next {t : Tracker} {seq : UInt16}
    (hnext : seq.toNat = (t.last.toNat + 1) % 65536) : (t.advance seq).last = seq := by
  have hlast := t.last.toNat_lt
  have hcases := t.advance_cases seq
  rw [halfSpace] at hcases
  rcases hcases with ⟨-, hadvance⟩ | ⟨hlate, -⟩ | ⟨-, -, hadvance⟩
  · rw [hadvance]
  · omega
  · rw [hadvance]

/-! ## A stream of numbers -/

/-- The tracker after some numbers, of which it leaves out those that it refuses. -/
def feed (t : Tracker) (seqs : List UInt16) : Tracker :=
  seqs.foldl advance t

theorem feed_append_singleton (t : Tracker) (seqs : List UInt16) (seq : UInt16) :
    t.feed (seqs ++ [seq]) = (t.feed seqs).advance seq := by
  rw [feed, List.foldl_append, ← feed]
  rfl

/-- The tracker of a source with these numbers, in the order in which they came. -/
def ofNumbers : List UInt16 → Tracker
  | [] => {}
  | first :: rest => (start first).feed rest

theorem ofNumbers_append_singleton {seqs : List UInt16} (hseqs : seqs ≠ []) (seq : UInt16) :
    ofNumbers (seqs ++ [seq]) = (ofNumbers seqs).advance seq := by
  cases seqs with
  | nil => exact absurd rfl hseqs
  | cons first rest => exact feed_append_singleton _ rest seq

/-- The tracker after the numbers of a sender up to the one at `i` have come in, each
as its last 16 bits. -/
def upTo (n : ℕ → ℕ) (i : ℕ) : Tracker :=
  (start (UInt16.ofNat (n 0))).feed ((List.range i).map fun j => UInt16.ofNat (n (j + 1)))

theorem upTo_zero (n : ℕ → ℕ) : upTo n 0 = start (UInt16.ofNat (n 0)) := rfl

theorem upTo_succ (n : ℕ → ℕ) (i : ℕ) :
    upTo n (i + 1) = (upTo n i).advance (UInt16.ofNat (n (i + 1))) := by
  rw [upTo, List.range_succ, List.map_append, List.map_singleton, feed_append_singleton, ← upTo]

/-- A tracker stands at most `reach` behind the largest number so far. -/
structure IsBehind (reach : ℕ) (t : Tracker) (top : ℕ) : Prop where
  extended_le : t.extended ≤ top
  top_le : top ≤ t.extended + reach

section Reach

variable {reach : ℕ} (hreach : 2 * reach < halfSpace)

include hreach

/-- What a tracker that is not far behind makes of a number close to the largest so
far: the two distances together are less than half the space. -/
theorem IsBehind.update_eq {t : Tracker} {top n : ℕ} (ht : IsBehind reach t top)
    (hforward : n ≤ top + reach) (hback : top ≤ n + reach) :
    t.update (UInt16.ofNat n) =
      if t.cycles ≤ n / 65536 then .ok (standingAt n)
      else .error (.sequenceRegression t.last (UInt16.ofNat n)) := by
  have hle := ht.extended_le
  have htop := ht.top_le
  exact update_ofNat_of_near (by omega) (by omega)

theorem IsBehind.advance {t : Tracker} {top n : ℕ} (ht : IsBehind reach t top)
    (hforward : n ≤ top + reach) (hback : top ≤ n + reach) :
    IsBehind reach (t.advance (UInt16.ofNat n)) (max top n) := by
  have hle := ht.extended_le
  have htop := ht.top_le
  have hupdate := ht.update_eq hreach hforward hback
  by_cases hcycle : t.cycles ≤ n / 65536
  · rw [if_pos hcycle] at hupdate
    rw [advance_of_update_ok hupdate]
    refine ⟨?_, ?_⟩ <;> rw [extended_standingAt] <;> omega
  · -- A refused number is below the tracker, so it does not raise the maximum.
    rw [if_neg hcycle] at hupdate
    rw [advance_of_update_error hupdate]
    rw [cycles_eq_div] at hcycle
    exact ⟨by omega, by omega⟩

theorem isBehind_upTo {n : ℕ → ℕ} (hstart : n 0 < 65536) {i : ℕ}
    (hnear : ∀ j < i, n (j + 1) ≤ partialSups n j + reach ∧ partialSups n j ≤ n (j + 1) + reach) :
    IsBehind reach (upTo n i) (partialSups n i) := by
  induction i with
  | zero =>
      have hfirst : (upTo n 0).extended = n 0 := by
        rw [upTo_zero, extended_start, UInt16.toNat_ofNat']
        exact Nat.mod_eq_of_lt hstart
      rw [partialSups_zero]
      exact ⟨by omega, by omega⟩
  | succ i ih =>
      have hbefore := ih fun j hj => hnear j (by omega)
      obtain ⟨hforward, hback⟩ := hnear i (by omega)
      rw [upTo_succ, partialSups_add_one]
      exact hbefore.advance hreach hforward hback

end Reach

/-- As long as every number lies within 16383 of the largest one before it, a tracker
accepts exactly those that lie in its cycle or a later one, and then stands at the
sender's number. A refusal names the two numbers and leaves the tracker alone. -/
theorem update_upTo {n : ℕ → ℕ} {i : ℕ} (hstart : n 0 < 65536)
    (hnear : ∀ j ≤ i,
      n (j + 1) ≤ partialSups n j + 16383 ∧ partialSups n j ≤ n (j + 1) + 16383) :
    let t : Tracker := upTo n i
    let seq := UInt16.ofNat (n (i + 1))
    ((∃ t', t.update seq = .ok t') ↔ ¬ n (i + 1) / 65536 < t.cycles) ∧
    (∀ t', t.update seq = .ok t' →
      t' = upTo n (i + 1) ∧ t'.extended = n (i + 1) ∧ t'.cycles = n (i + 1) / 65536) ∧
    ∀ e, t.update seq = .error e →
      e = .sequenceRegression t.last seq ∧ upTo n (i + 1) = t := by
  dsimp only
  have hreach : 2 * 16383 < halfSpace := by decide
  obtain ⟨hforward, hback⟩ := hnear i le_rfl
  have hbehind := isBehind_upTo hreach hstart fun j hj => hnear j (Nat.le_of_lt hj)
  have hupdate := hbehind.update_eq hreach hforward hback
  rw [upTo_succ]
  by_cases hcycle : (upTo n i).cycles ≤ n (i + 1) / 65536
  · rw [if_pos hcycle] at hupdate
    rw [hupdate, advance_of_update_ok hupdate]
    refine ⟨by simpa using hcycle, ?_, by simp⟩
    intro t' ht'
    cases ht'
    exact ⟨rfl, extended_standingAt _, rfl⟩
  · rw [if_neg hcycle] at hupdate
    rw [hupdate, advance_of_update_error hupdate]
    refine ⟨by simpa using hcycle, by simp, ?_⟩
    intro e he
    cases he
    exact ⟨rfl, rfl⟩

/-- The third of these numbers comes late, from before a wrap. -/
def acrossWrap (i : ℕ) : ℕ :=
  [65530, 65540, 65533].getD i 65541

theorem update_upTo_acrossWrap :
    (∀ j ≤ 1, acrossWrap (j + 1) ≤ partialSups acrossWrap j + 16383 ∧
      partialSups acrossWrap j ≤ acrossWrap (j + 1) + 16383) ∧
    (upTo acrossWrap 1).extended = 65540 ∧
    (upTo acrossWrap 1).update (UInt16.ofNat 65533) = .error (.sequenceRegression 4 65533) ∧
    upTo acrossWrap 2 = upTo acrossWrap 1 := by
  have htop : partialSups acrossWrap 1 = 65540 := by
    rw [← Nat.zero_add 1, partialSups_add_one, partialSups_zero]
    decide
  have hnear : ∀ j ≤ 1, acrossWrap (j + 1) ≤ partialSups acrossWrap j + 16383 ∧
      partialSups acrossWrap j ≤ acrossWrap (j + 1) + 16383 := by
    intro j hj
    rcases Nat.le_one_iff_eq_zero_or_eq_one.mp hj with rfl | rfl
    · rw [partialSups_zero]
      decide
    · rw [htop]
      decide
  have hupdate : (upTo acrossWrap 1).update (UInt16.ofNat 65533) =
      .error (.sequenceRegression 4 65533) := by
    decide
  have hrefused := (update_upTo (i := 1) (by decide) hnear).2.2 _ hupdate
  exact ⟨hnear, by decide, hupdate, hrefused.2⟩

end MediaTransport.Rtp.Tracker
