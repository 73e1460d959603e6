import MediaTransport.Toml.Value
import MediaTransport.Text.Numeral

/-!
# TOML numbers

Whole numbers in four bases and floating-point numbers. An underscore may stand
between two digits. Decimal numbers have no leading zeros, numbers in other bases
have no sign, and a whole number has to fit into 64 bits with a sign. A
floating-point number above the greatest double is refused.
-/

namespace MediaTransport.Toml

/-- A digit and then digits with single underscores between them, without the
underscores; and the rest. An underscore without a digit behind it is malformed. -/
def readDigitRun? (isDigit : Char → Bool) : List Char → Option (List Char × List Char)
  | c :: '_' :: rest =>
      if isDigit c then (readDigitRun? isDigit rest).map fun (ds, rest) => (c :: ds, rest)
      else none
  | c :: rest =>
      if isDigit c then
        if (rest.head?.map isDigit).getD false then
          (readDigitRun? isDigit rest).map fun (ds, rest) => (c :: ds, rest)
        else some ([c], rest)
      else none
  | [] => none

def isDecimalDigit (c : Char) : Bool :=
  (Text.decimalDigit? c).isSome

/-- Digits of a decimal number without a leading zero. -/
def readWhole? : List Char → Option (List Char × List Char)
  | '0' :: rest => some (['0'], rest)
  | text => readDigitRun? isDecimalDigit text

/-- A sign at the front of a text: whether it is a minus, and the rest. -/
def readSign : List Char → Bool × List Char
  | '+' :: rest => (false, rest)
  | '-' :: rest => (true, rest)
  | text => (false, text)

/-- A whole number of 64 bits with a sign. -/
def integer? (negative : Bool) (magnitude : Nat) : Option Value :=
  let n : Int := if negative then -magnitude else magnitude
  if -9223372036854775808 ≤ n ∧ n ≤ 9223372036854775807 then some (.integer n) else none

/-- A whole number in another base than ten, after its mark. -/
def readInBase? (base : Nat) (text : List Char) : Option (Value × List Char) := do
  let value? (c : Char) : Option Nat := (Text.hexDigit? c).filter (· < base)
  let (digits, rest) ← readDigitRun? (fun c => (value? c).isSome) text
  let n ← Text.readDigits base value? digits
  return (← integer? false n, rest)

/-- Whether `mantissa * 10 ^ exponent` is rounded to a number above the greatest
double. -/
def overflows (mantissa : Nat) (exponent : Int) : Bool :=
  let limit := Nat.pow 2 1024 - Nat.pow 2 970
  if mantissa = 0 then false
  else
    match exponent with
    | .ofNat e => 400 < e || limit ≤ mantissa * Nat.pow 10 e
    | .negSucc e =>
        let digits := (Nat.toDigits 10 mantissa).length
        if digits ≤ e + 1 then false else limit * Nat.pow 10 (e + 1) ≤ mantissa

/-- The exponent of a floating-point number, if there is one: zero otherwise. -/
def readExponent? : List Char → Option (Int × List Char)
  | c :: rest =>
      if c = 'e' ∨ c = 'E' then do
        let (negative, rest) := readSign rest
        let (digits, rest) ← readDigitRun? isDecimalDigit rest
        let n ← Text.decimal? digits
        return (if negative then -n else n, rest)
      else some (0, c :: rest)
  | [] => some (0, [])

/-- The fraction of a floating-point number, if there is one: no digits otherwise. -/
def readFraction? : List Char → Option (List Char × List Char)
  | '.' :: rest => readDigitRun? isDecimalDigit rest
  | text => some ([], text)

/-- A decimal number: a floating-point one when it has a fraction or an exponent. -/
def readDecimal? (text : List Char) : Option (Value × List Char) := do
  let (negative, unsigned) := readSign text
  let (whole, rest) ← readWhole? unsigned
  let (fraction, afterFraction) ← readFraction? rest
  let (exponent, after) ← readExponent? afterFraction
  if after.length = rest.length then
    return (← integer? negative (← Text.decimal? whole), rest)
  else
    let mantissa ← Text.decimal? (whole ++ fraction)
    if !negative && overflows mantissa (exponent - fraction.length) then none
    else return (.float (String.ofList (text.take (text.length - after.length))), after)

/-- The rest after the word for a number that is infinite, or for none. -/
def afterSpecial? : List Char → Option (List Char)
  | 'i' :: 'n' :: 'f' :: rest => some rest
  | 'n' :: 'a' :: 'n' :: rest => some rest
  | _ => none

/-- A floating-point number that is infinite, or none, with its sign. -/
def readSpecial? (text : List Char) : Option (Value × List Char) :=
  (afterSpecial? (readSign text).2).map fun rest =>
    (.float (String.ofList (text.take (text.length - rest.length))), rest)

def readNumber? : List Char → Option (Value × List Char)
  | '0' :: 'x' :: rest => readInBase? 16 rest
  | '0' :: 'o' :: rest => readInBase? 8 rest
  | '0' :: 'b' :: rest => readInBase? 2 rest
  | text =>
      match readSpecial? text with
      | some result => some result
      | none => readDecimal? text

end MediaTransport.Toml
