import MediaTransport.Duration

/-!
# Durations in words

A duration is written in the largest of seconds, milliseconds, microseconds and
nanoseconds of which it has at least one, with as many decimals as it needs.
-/

namespace MediaTransport.Duration

/-- The digits of a fraction of `width` places, without zeros at the end. -/
def fractionDigits (width fraction : Nat) : List Char :=
  let digits := Nat.toDigits 10 fraction
  let padded := List.replicate (width - digits.length) '0' ++ digits
  (padded.reverse.dropWhile (· = '0')).reverse

/-- A whole number and a fraction of `width` places. -/
def decimalText (whole width fraction : Nat) : String :=
  let digits := fractionDigits width fraction
  if digits.isEmpty then toString whole else s!"{whole}." ++ String.ofList digits

def text (d : Duration) : String :=
  if 0 < d.seconds then decimalText d.seconds 9 d.nanos ++ "s"
  else if 1000000 ≤ d.nanos then decimalText (d.nanos / 1000000) 6 (d.nanos % 1000000) ++ "ms"
  else if 1000 ≤ d.nanos then decimalText (d.nanos / 1000) 3 (d.nanos % 1000) ++ "µs"
  else s!"{d.nanos}ns"

end MediaTransport.Duration
