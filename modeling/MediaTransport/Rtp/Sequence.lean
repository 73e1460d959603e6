import MediaTransport.WireError

/-!
# Sequence numbers

Packets carry sequence numbers of 16 bits. A `Tracker` widens those of one source to
a number without bound, by counting how often they have wrapped. It assumes at most
one wrap between two packets: a step back by more than half the space is a wrap, and
a step forward by more than half the space is a packet from before the last wrap,
which is refused and leaves the tracker as it was. Small steps back are reordering,
and only move the last number.

A `Sequencer` gives out the numbers of a stream that is being sent.
-/

namespace MediaTransport.Rtp

/-- The widened sequence number of one source. -/
structure Tracker where
  cycles : Nat := 0
  last : UInt16 := 0
  deriving DecidableEq, Inhabited

namespace Tracker

def halfSpace : Nat := 32768

/-- A tracker that has seen `first` and no wrap. -/
def start (first : UInt16) : Tracker := ⟨0, first⟩

/-- The tracker after the next number of its source. -/
def update (t : Tracker) (seq : UInt16) : Except WireError Tracker :=
  if seq.toNat + halfSpace < t.last.toNat then
    .ok ⟨t.cycles + 1, seq⟩
  else if t.last.toNat + halfSpace < seq.toNat then
    .error (.sequenceRegression t.last seq)
  else
    .ok ⟨t.cycles, seq⟩

/-- The widened number: the last number plus a whole space for each wrap. -/
def extended (t : Tracker) : Nat :=
  t.cycles * 65536 + t.last.toNat

/-- The tracker after the next number, which stays as it was when that is refused. -/
def advance (t : Tracker) (seq : UInt16) : Tracker :=
  match t.update seq with
  | .ok t' => t'
  | .error _ => t

@[simp] theorem extended_start (first : UInt16) : (start first).extended = first.toNat := by
  simp [start, extended]

theorem last_of_update {t t' : Tracker} {seq : UInt16} (h : t.update seq = .ok t') :
    t'.last = seq := by
  unfold update at h
  split at h
  · simp only [Except.ok.injEq] at h
    rw [← h]
  · split at h
    · simp at h
    · simp only [Except.ok.injEq] at h
      rw [← h]

end Tracker

/-- Gives out sequence numbers one by one, wrapping after the last. -/
structure Sequencer where
  upcoming : UInt16
  deriving DecidableEq

namespace Sequencer

/-- The next number, and the sequencer that goes on after it. -/
def next (s : Sequencer) : UInt16 × Sequencer :=
  (s.upcoming, ⟨s.upcoming + 1⟩)

/-- The sequencer after `n` numbers have been given out. -/
def skip (s : Sequencer) (n : Nat) : Sequencer :=
  ⟨s.upcoming + UInt16.ofNat n⟩

theorem skip_add (s : Sequencer) (m n : Nat) : s.skip (m + n) = (s.skip m).skip n := by
  rw [skip, skip, skip, UInt16.ofNat_add, UInt16.add_assoc]

theorem toNat_upcoming_skip (s : Sequencer) (n : Nat) :
    (s.skip n).upcoming.toNat = (s.upcoming.toNat + n) % 65536 := by
  rw [skip, UInt16.toNat_add, UInt16.toNat_ofNat', Nat.add_mod_mod]

end Sequencer

end MediaTransport.Rtp
