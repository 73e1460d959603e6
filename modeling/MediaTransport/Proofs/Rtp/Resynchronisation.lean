import MediaTransport.Proofs.Rtp.Widening

/-!
# A tracker after a jump

A source can go on from any number, as a sender does that starts anew under its old identifier.
From there it sends a row of numbers, which wraps after the last one (`rowNumber`);
`Tracker.through` is the tracker after the first of them.

A tracker refuses what lies above its own number by more than half the space. The numbers of a
row run through that part upwards and leave it at the wrap, so whatever is refused stands at the
front of the row (`Tracker.refusals` counts it), and zero is taken at the latest. The first number
that is taken can move the tracker far, and back as well; behind it each number is the next one.
-/

namespace MediaTransport.Rtp

/-- The number at place `i` of a row from `first` on, which wraps after the last number. -/
def rowNumber (first : UInt16) (i : ℕ) : UInt16 :=
  first + UInt16.ofNat i

theorem toNat_rowNumber (first : UInt16) (i : ℕ) :
    (rowNumber first i).toNat = (first.toNat + i) % 65536 :=
  Sequencer.toNat_upcoming_skip ⟨first⟩ i

theorem toNat_rowNumber_succ (first : UInt16) (i : ℕ) :
    (rowNumber first (i + 1)).toNat = ((rowNumber first i).toNat + 1) % 65536 := by
  rw [toNat_rowNumber, toNat_rowNumber, ← Nat.add_assoc, Nat.mod_add_mod]

namespace Tracker

/-! ## One number -/

theorem update_eq_error_iff {t : Tracker} {seq : UInt16} {e : WireError} :
    t.update seq = .error e ↔
      t.last.toNat + halfSpace < seq.toNat ∧ e = .sequenceRegression t.last seq := by
  constructor
  · intro h
    obtain rfl := eq_of_update_eq_error h
    refine ⟨?_, rfl⟩
    by_contra hnear
    rw [update, if_neg hnear] at h
    split at h <;> cases h
  · rintro ⟨hlate, rfl⟩
    rw [update, if_neg (by omega), if_pos hlate]

/-- What is not refused is taken, and becomes the last number. -/
theorem update_of_near {t : Tracker} {seq : UInt16} (hnear : seq.toNat ≤ t.last.toNat + halfSpace) :
    t.update seq = .ok (t.advance seq) ∧ (t.advance seq).last = seq := by
  cases hupdate : t.update seq with
  | error e =>
      have hlate := (update_eq_error_iff.mp hupdate).1
      omega
  | ok t' =>
      rw [advance_of_update_ok hupdate]
      exact ⟨rfl, last_of_update hupdate⟩

/-! ## A row of numbers -/

/-- The tracker after the first `i` numbers of a row. -/
def through (t : Tracker) (first : UInt16) (i : ℕ) : Tracker :=
  t.feed ((List.range i).map (rowNumber first))

theorem through_succ (t : Tracker) (first : UInt16) (i : ℕ) :
    t.through first (i + 1) = (t.through first i).advance (rowNumber first i) := by
  rw [through, List.range_succ, List.map_append, List.map_singleton, feed_append_singleton,
    ← through]

/-- How many numbers of a row are refused before one is taken. -/
def refusals (t : Tracker) (first : UInt16) : ℕ :=
  if t.last.toNat + halfSpace < first.toNat then 65536 - first.toNat else 0

variable {t : Tracker} {first : UInt16} {i : ℕ}

theorem refusals_le (t : Tracker) (first : UInt16) : t.refusals first ≤ 32767 := by
  rw [refusals, halfSpace]
  split <;> omega

theorem lt_toNat_rowNumber (hi : i < t.refusals first) :
    t.last.toNat + halfSpace < (rowNumber first i).toNat := by
  rw [refusals] at hi
  rw [toNat_rowNumber]
  split at hi <;> omega

theorem toNat_rowNumber_refusals_le :
    (rowNumber first (t.refusals first)).toNat ≤ t.last.toNat + halfSpace := by
  have hfirst := first.toNat_lt
  rw [toNat_rowNumber, refusals]
  split <;> omega

theorem through_of_le (hi : i ≤ t.refusals first) : t.through first i = t := by
  induction i with
  | zero => rfl
  | succ i ih =>
      rw [through_succ, ih (Nat.le_of_succ_le hi)]
      exact advance_of_update_error (update_eq_error_iff.mpr ⟨lt_toNat_rowNumber hi, rfl⟩)

/-- From the first number that is taken on, the tracker stands at the number before. -/
theorem last_through_succ (hi : t.refusals first ≤ i) :
    (t.through first (i + 1)).last = rowNumber first i := by
  induction i, hi using Nat.le_induction with
  | base =>
      rw [through_succ, through_of_le le_rfl]
      exact (update_of_near toNat_rowNumber_refusals_le).2
  | succ i _ ih =>
      rw [through_succ]
      refine last_advance_of_next ?_
      rw [ih, toNat_rowNumber_succ]

theorem update_through (hi : t.refusals first ≤ i) :
    (t.through first i).update (rowNumber first i) = .ok (t.through first (i + 1)) := by
  rw [through_succ]
  refine (update_of_near ?_).1
  rcases Nat.eq_or_lt_of_le hi with rfl | hlt
  · rw [through_of_le le_rfl]
    exact toNat_rowNumber_refusals_le
  · obtain ⟨j, rfl⟩ := Nat.exists_eq_add_one_of_ne_zero (Nat.ne_zero_of_lt hlt)
    rw [last_through_succ (Nat.le_of_lt_succ hlt), toNat_rowNumber_succ]
    exact (Nat.mod_le _ _).trans (Nat.add_le_add_left (by decide) _)

theorem extended_through_succ (hi : t.refusals first < i) :
    (t.through first (i + 1)).extended = (t.through first i).extended + 1 := by
  obtain ⟨j, rfl⟩ := Nat.exists_eq_add_one_of_ne_zero (Nat.ne_zero_of_lt hi)
  rw [through_succ, extended_advance_eq_iff, last_through_succ (Nat.le_of_lt_succ hi),
    toNat_rowNumber_succ]

/-- A block of refusals ends at the wrap, and does not count it. -/
theorem through_refusals_succ (hpos : 0 < t.refusals first) :
    t.through first (t.refusals first + 1) = ⟨t.cycles, 0⟩ := by
  have hzero : rowNumber first (t.refusals first) = 0 := by
    rw [← UInt16.toNat_inj, toNat_rowNumber, UInt16.toNat_zero]
    rw [refusals] at hpos ⊢
    split at hpos
    · rename_i hlate
      have hfirst := first.toNat_lt
      rw [if_pos hlate]
      omega
    · exact absurd hpos (lt_irrefl 0)
  have hlate := lt_toNat_rowNumber hpos
  have hrow := (rowNumber first 0).toNat_lt
  rw [through_succ, through_of_le le_rfl, hzero]
  rcases t.advance_cases 0 with ⟨hwrap, -⟩ | ⟨hforward, -⟩ | ⟨-, -, hadvance⟩
  · rw [UInt16.toNat_zero, halfSpace] at hwrap
    rw [halfSpace] at hlate
    omega
  · exact absurd hforward (Nat.not_lt_zero _)
  · exact hadvance

/-- Of the numbers of a row, a tracker refuses at most 32767 at the front, which leave it as it
was, and takes all that follow. The first that it takes is zero if any were refused; each one
behind it takes the tracker one further. -/
theorem refused_then_taken (t : Tracker) (first : UInt16) :
    ∃ k ≤ 32767,
      (∀ i < k,
        (t.through first i).update (rowNumber first i) =
            .error (.sequenceRegression t.last (rowNumber first i)) ∧
          t.through first (i + 1) = t) ∧
      (0 < k → t.through first (k + 1) = ⟨t.cycles, 0⟩) ∧
      (∀ i, k ≤ i →
        (t.through first i).update (rowNumber first i) = .ok (t.through first (i + 1))) ∧
      ∀ i, k < i → (t.through first (i + 1)).extended = (t.through first i).extended + 1 := by
  refine ⟨t.refusals first, t.refusals_le first, ?_, through_refusals_succ,
    fun i => update_through, fun i => extended_through_succ⟩
  intro i hi
  refine ⟨?_, through_of_le hi⟩
  rw [through_of_le (Nat.le_of_lt hi)]
  exact update_eq_error_iff.mpr ⟨lt_toNat_rowNumber hi, rfl⟩

/-- The first number that is taken need not take the tracker one further: when a source at two
starts anew two numbers before the wrap, zero is taken and the tracker falls back by two. -/
theorem not_one_further_from_first_taken :
    ¬∃ k ≤ 32767,
      (∀ i < k,
        (∃ e, ((start 2).through 65534 i).update (rowNumber 65534 i) = .error e) ∧
          (start 2).through 65534 (i + 1) = start 2) ∧
      ∀ i, k ≤ i →
        (∃ t, ((start 2).through 65534 i).update (rowNumber 65534 i) = .ok t) ∧
          ((start 2).through 65534 (i + 1)).extended =
            ((start 2).through 65534 i).extended + 1 := by
  rintro ⟨k, -, hrefused, htaken⟩
  have hback : ((start 2).through 65534 (2 + 1)).extended = 0 ∧
      ((start 2).through 65534 2).extended = 2 := by
    decide
  have hthird : ((start 2).through 65534 2).update (rowNumber 65534 2) = .ok ⟨0, 0⟩ := by
    decide
  have hk : k ≤ 2 := by
    by_contra hlt
    obtain ⟨⟨e, herror⟩, -⟩ := hrefused 2 (Nat.lt_of_not_le hlt)
    rw [hthird] at herror
    cases herror
  have hstep := (htaken 2 hk).2
  rw [hback.1, hback.2] at hstep
  cases hstep

end Tracker

end MediaTransport.Rtp
