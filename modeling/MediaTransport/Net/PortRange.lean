/-!
# Ranges of ports

A range is half open. Sessions take ports from it in pairs that lie wholly inside:
the pair with index `i` starts `2 * i` above the start of the range.
-/

namespace MediaTransport.Net

/-- The ports from `start` up to but without `stop`. -/
structure PortRange where
  start : UInt16
  stop : UInt16
  deriving DecidableEq

namespace PortRange

def pairs (r : PortRange) : Nat :=
  (r.stop.toNat - r.start.toNat) / 2

def pairPort (r : PortRange) (index : Nat) : UInt16 :=
  r.start + UInt16.ofNat (2 * index)

def text (r : PortRange) : String :=
  s!"{r.start}..{r.stop}"

theorem toNat_pairPort {r : PortRange} {index : Nat} (h : index < r.pairs) :
    (r.pairPort index).toNat = r.start.toNat + 2 * index := by
  have hstop := r.stop.toNat_lt
  simp only [pairs] at h
  simp only [pairPort, UInt16.toNat_add, UInt16.toNat_ofNat']
  omega

section

variable {r : PortRange} {index : Nat}

theorem lt_stop (h : index < r.pairs) : r.start.toNat + 2 * index + 1 < r.stop.toNat := by
  rw [pairs] at h
  omega

theorem pairPort_ne_zero (hstart : 1 ≤ r.start.toNat) (h : index < r.pairs) :
    r.pairPort index ≠ 0 := by
  rw [Ne, ← UInt16.toNat_inj, UInt16.toNat_zero, toNat_pairPort h]
  omega

theorem toNat_pairPort_add_one (h : index < r.pairs) :
    (r.pairPort index + 1).toNat = r.start.toNat + 2 * index + 1 := by
  have hlt := lt_stop h
  have hstop := r.stop.toNat_lt
  rw [UInt16.toNat_add, UInt16.toNat_one, toNat_pairPort h, Nat.mod_eq_of_lt (by omega)]

end

end PortRange

end MediaTransport.Net
