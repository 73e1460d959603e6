import Mathlib.Algebra.Order.Ring.Nat
import Mathlib.Order.Monotone.Basic

/-!
# Counting in other units

A count in units of which `a` make a whole becomes a count in units of which `b` do, rounded down:
`rescale a b`. Clock ticks and nanoseconds are converted into each other that way, and so are
nanoseconds and binary fractions of a second.

Two roundings meet when a count is converted and back. Through a finer unit the loss is exact: one
unit if the first rounding was one, and none otherwise (`rescale_rescale_add`). Through a coarser
unit it is only bounded (`mul_lt_rescale_rescale`).
-/

namespace MediaTransport

/-- `n` units of which `a` make a whole, in units of which `b` do. -/
def rescale (a b n : ℕ) : ℕ :=
  n * b / a

variable {a b m n : ℕ}

theorem le_rescale_iff (ha : 0 < a) : m ≤ rescale a b n ↔ m * a ≤ n * b :=
  Nat.le_div_iff_mul_le ha

theorem rescale_mul_le (a b n : ℕ) : rescale a b n * a ≤ n * b :=
  Nat.div_mul_le_self (n * b) a

theorem mul_lt_rescale_add_one_mul (ha : 0 < a) (b n : ℕ) : n * b < (rescale a b n + 1) * a := by
  rw [Nat.mul_comm (rescale a b n + 1)]
  exact Nat.lt_mul_div_succ (n * b) ha

/-- Less than a whole stays less than a whole. -/
theorem rescale_lt (hb : 0 < b) (hn : n < a) : rescale a b n < b := by
  apply Nat.div_lt_of_lt_mul
  exact Nat.mul_lt_mul_of_pos_right hn hb

/-- A finer unit tells apart what the coarser one does. -/
theorem strictMono_rescale (ha : 0 < a) (hab : a ≤ b) : StrictMono (rescale a b) := by
  intro m n h
  rw [← Nat.succ_le_iff, Nat.succ_eq_add_one, le_rescale_iff ha]
  calc (rescale a b m + 1) * a = rescale a b m * a + a := Nat.succ_mul _ _
    _ ≤ m * b + b := Nat.add_le_add (rescale_mul_le a b m) hab
    _ = (m + 1) * b := (Nat.succ_mul m b).symm
    _ ≤ n * b := Nat.mul_le_mul_right b h

/-- A count that is converted without rest can be repeated before or after. -/
theorem rescale_mul (h : a ∣ n * b) (k : ℕ) : rescale a b (k * n) = k * rescale a b n := by
  rw [rescale, Nat.mul_assoc, Nat.mul_div_assoc k h, rescale]

/-! ## There and back -/

theorem rescale_rescale_le (a b n : ℕ) : rescale b a (rescale a b n) ≤ n := by
  apply Nat.div_le_of_le_mul
  rw [Nat.mul_comm b]
  exact rescale_mul_le a b n

/-- What is lost through any unit is less than one unit of each kind. -/
theorem mul_lt_rescale_rescale (ha : 0 < a) (hb : 0 < b) (n : ℕ) :
    n * b < rescale b a (rescale a b n) * b + (a + b) := by
  have hthere := mul_lt_rescale_add_one_mul ha b n
  have hback := mul_lt_rescale_add_one_mul hb a (rescale a b n)
  rw [Nat.succ_mul] at hthere hback
  omega

theorem rescale_rescale_of_dvd (hb : 0 < b) (h : a ∣ n * b) :
    rescale b a (rescale a b n) = n := by
  rw [rescale, rescale, Nat.div_mul_cancel h, Nat.mul_div_cancel n hb]

/-- Through a finer unit one unit is lost, or none. -/
theorem rescale_rescale_add (ha : 0 < a) (hab : a ≤ b) (n : ℕ) :
    rescale b a (rescale a b n) + (if a ∣ n * b then 0 else 1) = n := by
  have hb : 0 < b := Nat.lt_of_lt_of_le ha hab
  by_cases hdvd : a ∣ n * b
  · rw [if_pos hdvd, rescale_rescale_of_dvd hb hdvd, Nat.add_zero]
  · rw [if_neg hdvd]
    -- The first rounding leaves less than `n`, and what it takes away is less than one unit.
    have hne : rescale a b n * a ≠ n * b := fun heq => hdvd ⟨_, (Nat.mul_comm a _ ▸ heq).symm⟩
    have hlt : rescale a b n * a < n * b := Nat.lt_of_le_of_ne (rescale_mul_le a b n) hne
    have hbelow : rescale b a (rescale a b n) < n := by
      apply Nat.div_lt_of_lt_mul
      rwa [Nat.mul_comm b]
    have habove : n ≤ rescale b a (rescale a b n) + 1 := by
      rw [← Nat.sub_le_iff_le_add, le_rescale_iff hb, Nat.sub_mul, Nat.one_mul,
        Nat.sub_le_iff_le_add]
      have hthere := mul_lt_rescale_add_one_mul ha b n
      rw [Nat.succ_mul] at hthere
      omega
    omega

end MediaTransport
