import MediaTransport.Text.Alphanumeric
import MediaTransport.Text.Numeral

/-!
# Patterns

The regular expressions with which a filter tests the values of fields; here only
whether a text is one. A pattern is first split into symbols, which settles what the
backslash does, and then read once from the left. The reader is a machine that keeps
how many groups are open and its place, which is in a group, in the head of a group
or in a class of characters.

Patterns know nothing of the properties of characters, so classes such as `\d`, word
boundaries and the flag that disregards case are refused. A count in braces is
refused as well, because a closing brace ends the field in which a pattern stands.
-/

namespace MediaTransport.Config.Pattern

/-- A symbol of a pattern. -/
inductive Symbol
  /-- A character as it stands. -/
  | bare (c : Char)
  /-- A character without its special meaning. -/
  | literal (c : Char)
  /-- The start or the end of the value. -/
  | edge
  deriving DecidableEq

/-- The character that a symbol stands for inside a class. -/
def Symbol.char? : Symbol → Option Char
  | .bare c => some c
  | .literal c => some c
  | .edge => none

/-! ### Symbols -/

/-- What a backslash makes of the character behind it. -/
def escaped? (c : Char) : Option Symbol :=
  match c with
  | 'A' => some .edge
  | 'z' => some .edge
  | 'a' => some (.literal '\x07')
  | 't' => some (.literal '\t')
  | 'n' => some (.literal '\n')
  | 'v' => some (.literal '\x0b')
  | 'f' => some (.literal '\x0c')
  | 'r' => some (.literal '\r')
  | '<' => none
  | '>' => none
  | _ => if c.toNat < 0x80 ∧ ¬ c.isAlphanum then some (.literal c) else none

/-- How many digits give a code point behind a backslash and this letter. -/
def codeWidth? : Char → Option Nat
  | 'x' => some 2
  | 'u' => some 4
  | 'U' => some 8
  | _ => none

/-- What has been read of a symbol of several characters. -/
inductive Begun
  | nothing
  | escape
  /-- Digits of a code point, with their value and how many are owed. -/
  | code (value owed : Nat)

/-- The symbols of a text, where the first of them has begun. -/
def symbolsFrom? : Begun → List Char → Option (List Symbol)
  | .nothing, [] => some []
  | .nothing, c :: rest =>
      if c = '\\' then symbolsFrom? .escape rest
      else (symbolsFrom? .nothing rest).map (.bare c :: ·)
  | .escape, c :: rest =>
      match codeWidth? c with
      | some width => symbolsFrom? (.code 0 width) rest
      | none => do return (← escaped? c) :: (← symbolsFrom? .nothing rest)
  | .code value owed, c :: rest => do
      let value := value * 16 + (← Text.hexDigit? c)
      if 1 < owed then symbolsFrom? (.code value (owed - 1)) rest
      else if value.isValidChar then
        return .literal (Char.ofNat value) :: (← symbolsFrom? .nothing rest)
      else none
  | _, [] => none

/-! ### The heads of groups -/

/-- Whether a text switches flags on, or off behind a minus sign. Matching without
regard to case cannot be switched on. -/
def isFlags (text : List Char) : Bool :=
  text.all (· ∈ ['-', 'i', 'm', 's', 'R', 'U', 'u', 'x']) && text.Nodup &&
    text.getLast? != some '-' && !(text.takeWhile (· != '-')).contains 'i'

/-- Whether a text opens the name of a group and gives it. -/
def isName (text : List Char) : Bool :=
  let name? :=
    match text with
    | 'P' :: '<' :: name => some name
    | '<' :: name => some name
    | _ => none
  match name? with
  | some (first :: rest) =>
      (first = '_' || Text.isAlphanumeric first && !first.isDigit) &&
        rest.all fun c => c ∈ ['_', '.', '[', ']'] || Text.isAlphanumeric c
  | _ => false

/-! ### Structure -/

/-- Where in a pattern the reader stands. -/
inductive Place
  /-- In a group, behind something that can be repeated or not. -/
  | group (repeatable : Bool)
  /-- Behind the parenthesis that opens a group. -/
  | opened
  /-- In the head of a group, behind its question mark and `text`. -/
  | head (text : List Char)
  /-- At the start of a class in so many others; a caret negates it, unless it has one. -/
  | start (depth : Nat) (caret : Bool)
  /-- Behind hyphens at the start of a class. -/
  | hyphens (depth : Nat)
  /-- In a class, behind an item that may be the low end of a range or behind none. -/
  | item (depth : Nat) (low : Option Symbol)
  /-- In a class, behind a hyphen that may have such an item in front of it. -/
  | hyphen (depth : Nat) (low : Option Symbol)
  deriving DecidableEq

/-- How far a pattern has been read. -/
structure State where
  groups : Nat := 0
  /-- Where the reader stands. -/
  place : Place := .group false
  deriving DecidableEq

/-- Whether two symbols are the ends of a range of characters. -/
def isRange (low high : Symbol) : Bool :=
  match low.char?, high.char? with
  | some low, some high => low ≤ high
  | _, _ => false

/-- The place behind the end of a class. -/
def afterClass : Nat → Place
  | 0 => .group true
  | depth + 1 => .item depth none

/-- The place behind a symbol in a class. Two ampersands or tildes are an operator
between the items on its sides. -/
def inClass? (depth : Nat) (low : Option Symbol) (x : Symbol) : Option Place :=
  match x with
  | .bare ']' => some (afterClass depth)
  | .bare '[' => some (.start (depth + 1) false)
  | .bare '-' => some (.hyphen depth low)
  | .edge => none
  | _ =>
      if low = some x ∧ x ∈ [.bare '&', .bare '~'] then some (.item depth none)
      else some (.item depth (some x))

/-- The state behind a symbol in a group. -/
def inGroup? (groups : Nat) (repeatable : Bool) : Symbol → Option State
  | .bare '(' => some ⟨groups + 1, .opened⟩
  | .bare ')' => if groups = 0 then none else some ⟨groups - 1, .group true⟩
  | .bare '|' => some ⟨groups, .group false⟩
  | .bare '[' => some ⟨groups, .start 0 false⟩
  | .bare '{' => none
  | .bare c =>
      if c ∈ ['*', '+', '?'] ∧ ¬ repeatable then none else some ⟨groups, .group true⟩
  | _ => some ⟨groups, .group true⟩

/-- The state behind a symbol in the head of a group. A head that ends at once
switches flags for what follows it and is no group. -/
def inHead? (groups : Nat) (text : List Char) : Symbol → Option State
  | .bare ':' => if isFlags text then some ⟨groups, .group false⟩ else none
  | .bare ')' =>
      if isFlags text ∧ text ≠ [] then some ⟨groups - 1, .group false⟩ else none
  | .bare '>' => if isName text then some ⟨groups, .group false⟩ else none
  | .bare c => some ⟨groups, .head (text ++ [c])⟩
  | _ => none

/-- The state behind a symbol. -/
def State.step? (s : State) (x : Symbol) : Option State :=
  let within (place? : Option Place) := place?.map (State.mk s.groups)
  match s.place, x with
  | .group repeatable, x => inGroup? s.groups repeatable x
  | .opened, .bare '?' => some ⟨s.groups, .head []⟩
  | .opened, x => inGroup? s.groups false x
  | .head text, x => inHead? s.groups text x
  | .start depth false, .bare '^' => some ⟨s.groups, .start depth true⟩
  | .start depth _, .bare ']' => some ⟨s.groups, .item depth none⟩
  | .start depth _, .bare '-' => some ⟨s.groups, .hyphens depth⟩
  | .start depth _, x => within (inClass? depth none x)
  | .hyphens depth, .bare '-' => some ⟨s.groups, .hyphens depth⟩
  | .hyphens depth, x => within (inClass? depth none x)
  | .item depth low, x => within (inClass? depth low x)
  | .hyphen depth _, .bare '-' => some ⟨s.groups, .item depth none⟩
  | .hyphen depth _, .bare ']' => some ⟨s.groups, afterClass depth⟩
  | .hyphen depth none, x => within (inClass? depth none x)
  | .hyphen depth (some low), x =>
      if isRange low x then some ⟨s.groups, .item depth none⟩ else none

/-- Whether a pattern may end in a state. -/
def State.isFinal (s : State) : Bool :=
  match s.place with
  | .group _ => s.groups = 0
  | _ => false

def isPattern (text : List Char) : Bool :=
  match symbolsFrom? .nothing text with
  | none => false
  | some symbols => (symbols.foldlM State.step? {}).any State.isFinal

end MediaTransport.Config.Pattern
