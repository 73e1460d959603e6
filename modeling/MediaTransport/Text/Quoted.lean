import MediaTransport.Text.Invisible
import MediaTransport.Text.Numeral

/-!
# Quoted text

Texts of unknown content stand in messages between quotes, on one line and with
nothing hidden: the quote that encloses the text and the backslash are escaped, the
common controls have their short escapes, and a character without a form of its own
is written as its code point.
-/

namespace MediaTransport.Text

/-- How one character is written between quotes `mark`. -/
def escape (mark c : Char) : List Char :=
  if c = mark ∨ c = '\\' then ['\\', c]
  else if c = '\n' then ['\\', 'n']
  else if c = '\r' then ['\\', 'r']
  else if c = '\t' then ['\\', 't']
  else if c.toNat = 0 then ['\\', '0']
  else if isInvisible c then ['\\', 'u', '{'] ++ Nat.toDigits 16 c.toNat ++ ['}']
  else [c]

def quote (text : String) : String :=
  String.ofList ('"' :: text.toList.flatMap (escape '"') ++ ['"'])

def quoteChar (c : Char) : String :=
  String.ofList ('\'' :: escape '\'' c ++ ['\''])

/-- Texts between brackets, with a comma and a space after each but the last. -/
def bracketed (texts : List String) : String :=
  "[" ++ String.intercalate ", " texts ++ "]"

/-- A list of quoted texts between brackets. -/
def quoteList (texts : List String) : String :=
  bracketed (texts.map quote)

end MediaTransport.Text
