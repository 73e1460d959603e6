import MediaTransport.Config.Pattern
import MediaTransport.Text.Utf8

/-!
# Filters of the log

A filter is a row of directives with commas between them. A directive is a level, or
it names a target, or a span in brackets, or a target and a span, and behind an
equals sign it gives their level: `info`, `rtp=debug`, `rtp[call{id=7}]=trace`. A span may
state in braces what a field has to be, the value as a pattern.

Blanks around a directive do not count when its parts are told apart, but the parts
are then cut out of the directive with its blanks, each at the octet where it stands
without them. So a level with blanks in front of the directive is cut too early and
is none.
-/

namespace MediaTransport.Config

/-- How much is logged. -/
inductive Level
  /-- Everything. -/
  | trace
  /-- What helps to find faults. -/
  | debug
  /-- What happens in the ordinary course. -/
  | info
  /-- What is out of order. -/
  | warn
  /-- What has failed. -/
  | error
  deriving DecidableEq

def Level.text : Level → String
  | .trace => "trace"
  | .debug => "debug"
  | .info => "info"
  | .warn => "warn"
  | .error => "error"

def Level.all : List Level := [.trace, .debug, .info, .warn, .error]

def Level.ofText? (word : String) : Option Level :=
  all.find? fun level => level.text == word

namespace Filter

/-! ### Levels and values -/

/-- Whether a text says how much is logged for a target: the word for a level or for
none in any case, a number up to five, or no text at all. -/
def isLevel (text : List Char) : Bool :=
  let digits :=
    match text with
    | '+' :: rest => rest
    | digits => digits
  let numbered :=
    match Text.decimal? digits with
    | some n => n ≤ 5
    | none => false
  let word := String.ofList (text.map Char.toLower)
  text.isEmpty || numbered || word == "off" || Level.all.any fun level => level.text == word

/-- Whether a text is a decimal number without a sign, which may have a fraction and
an exponent, or a word for infinity or for no number. -/
def isNumber (text : List Char) : Bool :=
  let whole := text.takeWhile Char.isDigit
  let (fraction, rest) :=
    match text.dropWhile Char.isDigit with
    | '.' :: rest => (rest.takeWhile Char.isDigit, rest.dropWhile Char.isDigit)
    | rest => ([], rest)
  let exponent :=
    match rest with
    | [] => true
    | e :: '+' :: digits => e.toLower = 'e' && (Text.decimal? digits).isSome
    | e :: '-' :: digits => e.toLower = 'e' && (Text.decimal? digits).isSome
    | e :: digits => e.toLower = 'e' && (Text.decimal? digits).isSome
  (whole ++ fraction ≠ [] && exponent) ||
    String.ofList (text.map Char.toLower) ∈ ["inf", "infinity", "nan"]

/-- Whether a field can be tested against a text: a number with a plus sign, or a
pattern. -/
def isValue (text : List Char) : Bool :=
  match text with
  | '+' :: number => isNumber number
  | _ => Pattern.isPattern text

/-- Whether a text is a condition on a field: its name, and perhaps a value behind an
equals sign. -/
def isCondition (text : List Char) : Bool :=
  match text.dropWhile (· != '=') with
  | [] => true
  | _ :: value => isValue (value.takeWhile (· != '='))

/-! ### Directives -/

/-- A character with which the name of a target can start. -/
def isStart (c : Char) : Bool :=
  c = '-' || c = ':' || c = '_' || Text.isAlphanumeric c

def isBlank (c : Char) : Bool :=
  c.toNat ∈ [0x20, 0x85, 0xA0, 0x1680, 0x2028, 0x2029, 0x202F, 0x205F, 0x3000] ||
    (0x9 ≤ c.toNat && c.toNat ≤ 0xD) || (0x2000 ≤ c.toNat && c.toNat ≤ 0x200A)

/-- A directive, as it stands and without the blanks around it. -/
structure Directive where
  /-- The directive as it stands. -/
  whole : List Char
  /-- The directive without the blanks around it. -/
  trimmed : List Char

namespace Directive

/-- The directive that stands in a filter as `whole`. -/
def ofText (whole : List Char) : Directive :=
  ⟨whole, ((whole.dropWhile isBlank).reverse.dropWhile isBlank).reverse⟩

/-- The octets of the directive from where `rest`, with which the trimmed directive
ends, stands in the trimmed directive. -/
def octetsFrom (d : Directive) (rest : List Char) : Bytes :=
  (Utf8.encode d.whole).drop ((Utf8.encode d.trimmed).length - (Utf8.encode rest).length)

/-- The text of `part`, behind which `rest` ends the trimmed directive. -/
def cut (d : Directive) (part rest : List Char) : List Char :=
  Utf8.decodeLossy ((d.octetsFrom (part ++ rest)).take (Utf8.encode part).length)

/-- Whether the directive may end with `level`, in front of which an equals sign
stands. -/
def endsWithLevel (d : Directive) (level : List Char) : Bool :=
  isLevel (Utf8.decodeLossy (d.octetsFrom level))

/-- Whether the directive may end with `rest`, in front of which a span stands. -/
def endsAfterSpan (d : Directive) (rest : List Char) : Bool :=
  match rest with
  | [] => true
  | '=' :: level => d.endsWithLevel level
  | _ => false

/-- Whether the directive may end with `rest`, in front of which the bracket of a span
stands. -/
def endsWithSpan (d : Directive) (rest : List Char) : Bool :=
  match rest.dropWhile fun c => c != ']' && c != '{' with
  | ']' :: rest => d.endsAfterSpan rest
  | _ :: fields =>
      let condition := fields.takeWhile (· != '}')
      match fields.dropWhile (· != '}') with
      | '}' :: ']' :: rest =>
          condition ≠ [] && isCondition (d.cut condition ('}' :: ']' :: rest)) &&
            d.endsAfterSpan rest
      | _ => false
  | [] => false

/-- Whether the directive means something. -/
def isMeaningful (d : Directive) : Bool :=
  match d.trimmed with
  | [] => false
  | '[' :: rest => d.endsWithSpan rest
  | first :: _ =>
      isStart first &&
        match d.trimmed.dropWhile fun c => c != '=' && c != '[' with
        | '=' :: level => d.endsWithLevel level
        | _ :: rest => d.endsWithSpan rest
        | [] => true

end Directive

/-- The directives of a filter; empty ones are left out. -/
def directives (filter : String) : List Directive :=
  let texts := (filter.splitOn ",").map String.toList
  (texts.filter fun text => !text.isEmpty).map Directive.ofText

/-- Whether every directive of a filter means something. -/
def isValid (filter : String) : Bool :=
  (directives filter).all Directive.isMeaningful

end Filter

end MediaTransport.Config
