/-!
# Numbers as text

Hexadecimal text is in lower case; `hexWord` is the fixed-width form that stands
for a stream source. `decimal?` reads a run of decimal digits and nothing else.
-/

namespace MediaTransport.Text

/-- Hexadecimal digits without a mark in front, the fewest that do. -/
def hex (n : Nat) : String :=
  String.ofList (Nat.toDigits 16 n)

/-- A 32-bit number as `0x` and eight hexadecimal digits. -/
def hexWord (x : UInt32) : String :=
  let digits := Nat.toDigits 16 x.toNat
  String.ofList (['0', 'x'] ++ List.replicate (8 - digits.length) '0' ++ digits)

def decimalDigit? (c : Char) : Option Nat :=
  if '0' ≤ c ∧ c ≤ '9' then some (c.toNat - '0'.toNat) else none

/-- The value of a hexadecimal digit of either case. -/
def hexDigit? (c : Char) : Option Nat :=
  if '0' ≤ c ∧ c ≤ '9' then some (c.toNat - '0'.toNat)
  else if 'a' ≤ c ∧ c ≤ 'f' then some (c.toNat - 'a'.toNat + 10)
  else if 'A' ≤ c ∧ c ≤ 'F' then some (c.toNat - 'A'.toNat + 10)
  else none

/-- The number that `digits` writes in base `base`, each digit read by `value?`;
nothing when a character is no digit. No digits write zero. -/
def readDigits (base : Nat) (value? : Char → Option Nat) (digits : List Char) : Option Nat :=
  digits.foldlM (fun n c => (value? c).map (n * base + ·)) 0

/-- The number written by a run of at least one decimal digit. -/
def decimal? (digits : List Char) : Option Nat :=
  if digits.isEmpty then none else readDigits 10 decimalDigit? digits

end MediaTransport.Text
