import MediaTransport.Toml.DateTime
import MediaTransport.Toml.Number
import MediaTransport.Toml.Text
import MediaTransport.Toml.Value

/-!
# TOML documents

A document is read in two steps. The text becomes a list of sections, each with its
header and its entries in the order in which they stand; then the sections are put
into one table, where keys given twice and tables that may not be extended come to
light.
-/

namespace MediaTransport.Toml

/-- An entry as it is written: a key that may be dotted, and a value. -/
abbrev Entry := List String × String × Value

/-- What a header opens. -/
inductive Section
  | table (path : List String) (key : String) (entries : List Entry)
  /-- An element of an array of tables. -/
  | element (path : List String) (key : String) (entries : List Entry)

/-- The items of an array up to its closing bracket, each read by `item?`. -/
def readItems? (item? : List Char → Option (Value × List Char)) :
    Nat → List Char → Option (List Value × List Char)
  | 0, _ => none
  | fuel + 1, text => do
      match ← skipLines (text.length + 1) text with
      | ']' :: rest => return ([], rest)
      | text =>
          let (value, rest) ← item? text
          match ← skipLines (rest.length + 1) rest with
          | ']' :: rest => return ([value], rest)
          | ',' :: rest =>
              let (values, rest) ← readItems? item? fuel rest
              return (value :: values, rest)
          | _ => none

/-- An entry up to the end of its value, which is read by `value?`. -/
def readEntry? (value? : List Char → Option (Value × List Char)) (text : List Char) :
    Option (Entry × List Char) :=
  match readKey? text with
  | some ((path, key), '=' :: rest) =>
      (value? (skipBlanks rest)).map fun (value, rest) => ((path, key, value), rest)
  | _ => none

/-- The entries of a table in place up to its closing brace, on one line, with commas
between them. -/
def readEntries? (value? : List Char → Option (Value × List Char)) :
    Nat → List Char → Option (List Entry × List Char)
  | 0, _ => none
  | fuel + 1, text => do
      let (entry, rest) ← readEntry? value? text
      match skipBlanks rest with
      | '}' :: rest => return ([entry], rest)
      | ',' :: rest =>
          let (entries, rest) ← readEntries? value? fuel rest
          return (entry :: entries, rest)
      | _ => none

/-- A table in place, after its opening brace. -/
def readTable? (value? : List Char → Option (Value × List Char)) (text : List Char) :
    Option (Value × List Char) :=
  match skipBlanks text with
  | '}' :: rest => some (.table .inPlace [], rest)
  | _ => do
      let (entries, rest) ← readEntries? value? (text.length + 1) text
      return (.table .inPlace (← Table.insertAll [] entries), rest)

/-- A value that is neither an array nor a table. -/
def readScalar? (text : List Char) : Option (Value × List Char) :=
  match text with
  | [] => none
  | c :: _ =>
      if c = '"' ∨ c = '\'' then (readString? text).map fun (s, rest) => (.text s, rest)
      else if c = '+' ∨ c = '-' ∨ isDecimalDigit c then
        match readDateTime? text with
        | some result => some result
        | none => readNumber? text
      else
        match text with
        | 't' :: 'r' :: 'u' :: 'e' :: rest => some (.boolean true, rest)
        | 'f' :: 'a' :: 'l' :: 's' :: 'e' :: rest => some (.boolean false, rest)
        | _ => readSpecial? text

/-- The value at the front of a text, with arrays and tables nested at most so many
levels deep. -/
def readValue? : Nat → List Char → Option (Value × List Char)
  | 0, text =>
      match text with
      | '[' :: _ => none
      | '{' :: _ => none
      | _ => readScalar? text
  | depth + 1, text =>
      match text with
      | '[' :: rest =>
          (readItems? (readValue? depth) (rest.length + 1) rest).map fun (items, rest) =>
            (.array .inPlace items, rest)
      | '{' :: rest => readTable? (readValue? depth) rest
      | _ => readScalar? text

/-- The value of an entry that takes up its line. -/
def readTopValue? (text : List Char) : Option (Value × List Char) :=
  readValue? (depthLimit - 1) text

/-- The entries up to the next header or the end, each on a line of its own. -/
def readLines? : Nat → List Char → Option (List Entry × List Char)
  | 0, _ => none
  | fuel + 1, text =>
      match skipBlanks text with
      | [] => some ([], [])
      | '[' :: rest => some ([], '[' :: rest)
      | '#' :: rest => (afterLine? ('#' :: rest)).bind (readLines? fuel)
      | '\n' :: rest => readLines? fuel rest
      | '\r' :: rest => (afterNewline? ('\r' :: rest)).bind (readLines? fuel)
      | text => do
          let (entry, rest) ← readEntry? readTopValue? text
          let (entries, rest) ← readLines? fuel (← afterLine? rest)
          return (entry :: entries, rest)

/-- The sections from the first header on. -/
def readSections? : Nat → List Char → Option (List Section)
  | _, [] => some []
  | 0, _ => none
  | fuel + 1, '[' :: '[' :: text =>
      match readKey? text with
      | some ((path, key), ']' :: ']' :: rest) => do
          let rest ← afterLine? rest
          let (entries, rest) ← readLines? (rest.length + 1) rest
          return .element path key entries :: (← readSections? fuel rest)
      | _ => none
  | fuel + 1, '[' :: text =>
      match readKey? text with
      | some ((path, key), ']' :: rest) => do
          let rest ← afterLine? rest
          let (entries, rest) ← readLines? (rest.length + 1) rest
          return .table path key entries :: (← readSections? fuel rest)
      | _ => none
  | _ + 1, _ :: _ => none

/-- The table with the sections in it. -/
def Table.addSections (t : Table) : List Section → Option Table
  | [] => some t
  | .table path key entries :: rest =>
      (t.addTable path key entries).bind fun t => addSections t rest
  | .element path key entries :: rest =>
      (t.addElement path key entries).bind fun t => addSections t rest

/-- A text without the byte order mark at its front, if there is one. -/
def dropByteOrderMark : List Char → List Char
  | '\uFEFF' :: rest => rest
  | text => text

/-- The table that a document stands for, when it is well formed. -/
def Table.ofText? (document : String) : Option Table := do
  let text := dropByteOrderMark document.toList
  let (entries, rest) ← readLines? (text.length + 1) text
  let sections ← readSections? (rest.length + 1) rest
  (← Table.insertAll [] entries).addSections sections

end MediaTransport.Toml
