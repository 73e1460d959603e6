/-!
# Pacing

A pacer lets its user go on once per period. Whoever waits for a due time is woken at
the first whole millisecond that is not before it. A user who comes late is let go at
once; if that is more than a little late, the periods that have gone by are skipped,
and the next due time is the next one on the old grid.

All times are nanoseconds on one clock.
-/

namespace MediaTransport.Media

/-- Lets its user go on once per period. -/
structure Pacer where
  /-- When the user may go on next. -/
  due : Nat
  /-- The time from one due time to the next. -/
  period : Nat
  deriving DecidableEq

namespace Pacer

/-- Waits end on multiples of this. -/
def grain : Nat := 1000000

/-- How late a user may be without a period being skipped. -/
def tolerance : Nat := 5000000

/-- When a wait from `now` until `due` ends. -/
def wake (now due : Nat) : Nat :=
  if due ≤ now then now else (due + grain - 1) / grain * grain

/-- A pacer that lets its user go on first after one period. -/
def start (now period : Nat) : Pacer :=
  ⟨now + period, period⟩

/-- Waits until the due time: when the wait ends, and the pacer after it. -/
def tick (p : Pacer) (now : Nat) : Nat × Pacer :=
  let woken := wake now p.due
  let next :=
    if woken ≤ p.due + tolerance then p.due + p.period
    else woken + p.period - (woken - p.due) % p.period
  (woken, { p with due := next })

end Pacer

end MediaTransport.Media
