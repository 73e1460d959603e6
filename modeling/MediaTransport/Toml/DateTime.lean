import MediaTransport.Toml.Value
import MediaTransport.Text.Numeral

/-!
# TOML dates and times

A date, a time of day, or a date with a time and perhaps an offset. Every part is
checked against the calendar; leap seconds are allowed at any time.
-/

namespace MediaTransport.Toml

/-- A number of two digits up to `limit`. -/
def readTwo? (limit : Nat) : List Char → Option (Nat × List Char)
  | a :: b :: rest => do
      let n ← Text.decimal? [a, b]
      if n ≤ limit then some (n, rest) else none
  | _ => none

/-- The rest of a text that starts with `c`. -/
def afterMark? (c : Char) : List Char → Option (List Char)
  | d :: rest => if c = d then some rest else none
  | [] => none

def isLeapYear (year : Nat) : Bool :=
  year % 4 = 0 && (year % 100 ≠ 0 || year % 400 = 0)

def daysIn (year month : Nat) : Nat :=
  if month = 2 then if isLeapYear year then 29 else 28
  else if month = 4 ∨ month = 6 ∨ month = 9 ∨ month = 11 then 30
  else 31

def afterDate? : List Char → Option (List Char)
  | a :: b :: c :: d :: '-' :: rest => do
      let year ← Text.decimal? [a, b, c, d]
      let (month, rest) ← readTwo? 12 rest
      let (day, rest) ← readTwo? (daysIn year month) (← afterMark? '-' rest)
      if 1 ≤ month ∧ 1 ≤ day then some rest else none
  | _ => none

/-- The rest after a fraction of a second, if there is one. -/
def afterFraction (text : List Char) : List Char :=
  match text with
  | '.' :: rest =>
      let digits := rest.takeWhile fun c => (Text.decimalDigit? c).isSome
      if digits.isEmpty then text else rest.drop digits.length
  | _ => text

/-- The rest after a time of day. -/
def afterTime? (text : List Char) : Option (List Char) := do
  let (_, rest) ← readTwo? 23 text
  let (_, rest) ← readTwo? 59 (← afterMark? ':' rest)
  let (_, rest) ← readTwo? 60 (← afterMark? ':' rest)
  return afterFraction rest

/-- The rest after an offset from universal time. -/
def afterOffset? : List Char → Option (List Char)
  | c :: rest =>
      if c = 'Z' ∨ c = 'z' then some rest
      else if c = '+' ∨ c = '-' then do
        let (_, rest) ← readTwo? 23 rest
        let (_, rest) ← readTwo? 59 (← afterMark? ':' rest)
        return rest
      else none
  | [] => none

/-- The rest after the time that belongs to a date, if there is one. -/
def afterDateTime (text : List Char) : List Char :=
  match text with
  | c :: rest =>
      if c = 'T' ∨ c = 't' ∨ c = ' ' then
        match afterTime? rest with
        | some rest => (afterOffset? rest).getD rest
        | none => text
      else text
  | [] => text

def readDateTime? (text : List Char) : Option (Value × List Char) :=
  let rest? :=
    match afterDate? text with
    | some rest => some (afterDateTime rest)
    | none => afterTime? text
  rest?.map fun rest =>
    (.dateTime (String.ofList (text.take (text.length - rest.length))), rest)

end MediaTransport.Toml
