import MediaTransport.Bytes

/-!
# UTF-8

`encode` writes characters as octets and `decodeLossy` reads octets of unknown
origin. The reader is a machine with one state for a character that has begun: what
its octets have added up to, how many octets it still owes, and the range in which
the next one has to lie. Only the first continuation octet has a range of its own,
which keeps out overlong forms, surrogates and code points above U+10FFFF. An octet
that the state does not allow ends the character that has begun, which becomes one
U+FFFD, and is then read afresh; so each maximal part that cannot be continued
becomes one U+FFFD.
-/

namespace MediaTransport.Utf8

def encode (text : List Char) : Bytes :=
  text.flatMap String.utf8EncodeChar

/-- The character that stands for octets that are no text. -/
def replacement : Char := '\uFFFD'

/-- A character whose first octets have been read. -/
structure Begun where
  value : Nat
  /-- How many octets are owed after the next one. -/
  owed : Nat
  /-- The least value the next octet may have. -/
  low : UInt8
  /-- The greatest value the next octet may have. -/
  high : UInt8
  deriving DecidableEq

/-- What an octet is at the start of a character. -/
inductive Lead
  /-- A whole character. -/
  | single (c : Char)
  /-- The first octet of a longer one. -/
  | begins (state : Begun)
  /-- No character starts like this. -/
  | refused

/-- The part an octet plays at the start of a character. -/
def lead (b : UInt8) : Lead :=
  let n := b.toNat
  if n < 0x80 then .single (Char.ofNat n)
  else if n < 0xC2 then .refused
  else if n < 0xE0 then .begins ⟨n - 0xC0, 0, 0x80, 0xBF⟩
  else if n = 0xE0 then .begins ⟨0, 1, 0xA0, 0xBF⟩
  else if n = 0xED then .begins ⟨0xD, 1, 0x80, 0x9F⟩
  else if n < 0xF0 then .begins ⟨n - 0xE0, 1, 0x80, 0xBF⟩
  else if n = 0xF0 then .begins ⟨0, 2, 0x90, 0xBF⟩
  else if n < 0xF4 then .begins ⟨n - 0xF0, 2, 0x80, 0xBF⟩
  else if n = 0xF4 then .begins ⟨4, 2, 0x80, 0x8F⟩
  else .refused

/-- Reads octets from the state in which a character has begun, or none has. -/
def decodeFrom : Option Begun → Bytes → List Char
  | none, [] => []
  | some _, [] => [replacement]
  | none, b :: rest =>
      match lead b with
      | .single c => c :: decodeFrom none rest
      | .begins s => decodeFrom (some s) rest
      | .refused => replacement :: decodeFrom none rest
  | some s, b :: rest =>
      if s.low ≤ b ∧ b ≤ s.high then
        let value := s.value * 64 + (b.toNat - 0x80)
        match s.owed with
        | 0 => Char.ofNat value :: decodeFrom none rest
        | owed + 1 => decodeFrom (some ⟨value, owed, 0x80, 0xBF⟩) rest
      else
        match lead b with
        | .single c => replacement :: c :: decodeFrom none rest
        | .begins t => replacement :: decodeFrom (some t) rest
        | .refused => replacement :: replacement :: decodeFrom none rest

/-- The text of an octet string, with one U+FFFD for each maximal part that is no
text. -/
def decodeLossy (b : Bytes) : List Char :=
  decodeFrom none b

/-- The text of an octet string that is text throughout. -/
def decode? (b : Bytes) : Option String :=
  String.fromUTF8? (ByteArray.mk b.toArray)

end MediaTransport.Utf8
