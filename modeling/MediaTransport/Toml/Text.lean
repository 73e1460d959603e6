import MediaTransport.Text.Numeral

/-!
# TOML text

Blanks, newlines, comments, keys and the four kinds of strings. A newline is LF or
CR LF, and a carriage return stands nowhere else. Every reader takes its part off the
front of a text and returns the rest, or nothing when the text is malformed.
-/

namespace MediaTransport.Toml

def isBlank (c : Char) : Bool :=
  c = ' ' || c = '\t'

/-- A character that may stand in a comment, and in a string unless it means
something there. -/
def isPlain (c : Char) : Bool :=
  c = '\t' || (' ' ≤ c && c ≤ '~') || 0x80 ≤ c.toNat

/-- A text without the blanks at its front. -/
def skipBlanks (text : List Char) : List Char :=
  text.dropWhile isBlank

/-- The rest after a newline. -/
def afterNewline? : List Char → Option (List Char)
  | '\n' :: rest => some rest
  | '\r' :: '\n' :: rest => some rest
  | _ => none

/-- A text without the comment at its front, if there is one. -/
def skipComment : List Char → List Char
  | '#' :: rest => rest.dropWhile isPlain
  | text => text

/-- The rest after blanks, a comment if there is one, and the end of the line. -/
def afterLine? (text : List Char) : Option (List Char) :=
  match skipComment (skipBlanks text) with
  | [] => some []
  | rest => afterNewline? rest

/-- A text without the blanks, newlines and comments at its front. A comment has to
end in a newline. -/
def skipLines : Nat → List Char → Option (List Char)
  | 0, text => some text
  | fuel + 1, text =>
      match skipBlanks text with
      | '#' :: rest => (afterNewline? (rest.dropWhile isPlain)).bind (skipLines fuel)
      | '\n' :: rest => skipLines fuel rest
      | '\r' :: rest => (afterNewline? ('\r' :: rest)).bind (skipLines fuel)
      | rest => some rest

/-- The character of a code point written in hexadecimal. -/
def codePoint? (digits : List Char) : Option Char :=
  match Text.readDigits 16 Text.hexDigit? digits with
  | none => none
  | some n => if n.isValidChar then some (Char.ofNat n) else none

/-- The character that the text after a backslash stands for, and the rest. -/
def readEscape? : List Char → Option (Char × List Char)
  | 'b' :: rest => some ('\x08', rest)
  | 't' :: rest => some ('\t', rest)
  | 'n' :: rest => some ('\n', rest)
  | 'f' :: rest => some ('\x0c', rest)
  | 'r' :: rest => some ('\r', rest)
  | '"' :: rest => some ('"', rest)
  | '\\' :: rest => some ('\\', rest)
  | 'u' :: a :: b :: c :: d :: rest => (codePoint? [a, b, c, d]).map (·, rest)
  | 'U' :: a :: b :: c :: d :: e :: f :: g :: h :: rest =>
      (codePoint? [a, b, c, d, e, f, g, h]).map (·, rest)
  | _ => none

/-- The inside of a basic string on one line, after `acc` in reverse. -/
def readBasic (acc : List Char) : Nat → List Char → Option (String × List Char)
  | 0, _ => none
  | _ + 1, [] => none
  | _ + 1, '"' :: rest => some (String.ofList acc.reverse, rest)
  | fuel + 1, '\\' :: rest =>
      match readEscape? rest with
      | none => none
      | some (c, rest) => readBasic (c :: acc) fuel rest
  | fuel + 1, c :: rest => if isPlain c then readBasic (c :: acc) fuel rest else none

/-- The inside of a literal string on one line. -/
def readLiteral (text : List Char) : Option (String × List Char) :=
  let inside := text.takeWhile fun c => isPlain c && c != '\''
  match text.drop inside.length with
  | '\'' :: rest => some (String.ofList inside, rest)
  | _ => none

/-- The inside of a basic string of many lines, after `acc` in reverse. Up to two
quotes may stand in front of the three that end it. A backslash at the end of a line
drops everything up to the next character that is neither blank nor newline;
`dropping` says that this is under way. -/
def readBasicLines (dropping : Bool) (acc : List Char) :
    Nat → List Char → Option (String × List Char)
  | 0, _ => none
  | _ + 1, [] => none
  | _ + 1, '"' :: '"' :: '"' :: '"' :: '"' :: rest =>
      some (String.ofList ('"' :: '"' :: acc).reverse, rest)
  | _ + 1, '"' :: '"' :: '"' :: '"' :: rest => some (String.ofList ('"' :: acc).reverse, rest)
  | _ + 1, '"' :: '"' :: '"' :: rest => some (String.ofList acc.reverse, rest)
  | fuel + 1, '\r' :: '\n' :: rest =>
      readBasicLines dropping (if dropping then acc else '\n' :: acc) fuel rest
  | fuel + 1, '\n' :: rest =>
      readBasicLines dropping (if dropping then acc else '\n' :: acc) fuel rest
  | fuel + 1, '\\' :: rest =>
      match afterNewline? (skipBlanks rest) with
      | some rest => readBasicLines true acc fuel rest
      | none =>
          match readEscape? rest with
          | none => none
          | some (c, rest) => readBasicLines false (c :: acc) fuel rest
  | fuel + 1, c :: rest =>
      if dropping && isBlank c then readBasicLines true acc fuel rest
      else if isPlain c then readBasicLines false (c :: acc) fuel rest
      else none

/-- The inside of a literal string of many lines, after `acc` in reverse. Up to two
quotes may stand in front of the three that end it. -/
def readLiteralLines (acc : List Char) : List Char → Option (String × List Char)
  | '\'' :: '\'' :: '\'' :: '\'' :: '\'' :: rest =>
      some (String.ofList ('\'' :: '\'' :: acc).reverse, rest)
  | '\'' :: '\'' :: '\'' :: '\'' :: rest => some (String.ofList ('\'' :: acc).reverse, rest)
  | '\'' :: '\'' :: '\'' :: rest => some (String.ofList acc.reverse, rest)
  | '\r' :: '\n' :: rest => readLiteralLines ('\n' :: acc) rest
  | '\n' :: rest => readLiteralLines ('\n' :: acc) rest
  | c :: rest => if isPlain c then readLiteralLines (c :: acc) rest else none
  | [] => none

/-- A text without the newline at its front, if there is one. -/
def dropNewline (text : List Char) : List Char :=
  (afterNewline? text).getD text

def readString? : List Char → Option (String × List Char)
  | '"' :: '"' :: '"' :: rest =>
      let body := dropNewline rest
      readBasicLines false [] (body.length + 1) body
  | '"' :: rest => readBasic [] (rest.length + 1) rest
  | '\'' :: '\'' :: '\'' :: rest => readLiteralLines [] (dropNewline rest)
  | '\'' :: rest => readLiteral rest
  | _ => none

def isKeyChar (c : Char) : Bool :=
  ('a' ≤ c && c ≤ 'z') || ('A' ≤ c && c ≤ 'Z') || ('0' ≤ c && c ≤ '9') || c = '_' || c = '-'

/-- One part of a key: a string on one line, or a run of key characters. -/
def readKeyPart? : List Char → Option (String × List Char)
  | '"' :: rest => readBasic [] (rest.length + 1) rest
  | '\'' :: rest => readLiteral rest
  | text =>
      let word := text.takeWhile isKeyChar
      if word.isEmpty then none else some (String.ofList word, text.drop word.length)

/-- The parts of a dotted key, with blanks around each. -/
def readKeyParts? : Nat → List Char → Option (List String × List Char)
  | 0, _ => none
  | fuel + 1, text =>
      match readKeyPart? (skipBlanks text) with
      | none => none
      | some (part, rest) =>
          match skipBlanks rest with
          | '.' :: rest =>
              (readKeyParts? fuel rest).map fun (parts, rest) => (part :: parts, rest)
          | rest => some ([part], rest)

/-- How many parts a dotted key, and how many levels a value, may not reach. -/
def depthLimit : Nat := 80

/-- A key as the path in front of its last part and that part. -/
def readKey? (text : List Char) : Option ((List String × String) × List Char) :=
  match readKeyParts? depthLimit text with
  | none => none
  | some (parts, rest) =>
      match parts.getLast? with
      | some key => if parts.length < depthLimit then some ((parts.dropLast, key), rest) else none
      | none => none

end MediaTransport.Toml
