import MediaTransport.Toml.Value

/-!
# Values of the wanted kind

A setting is taken from a value of its own kind only: no number is read from text,
and no text from a number. Keys that are not asked for are ignored.
-/

namespace MediaTransport.Toml

namespace Value

def text? : Value → Option String
  | .text s => some s
  | _ => none

def boolean? : Value → Option Bool
  | .boolean b => some b
  | _ => none

/-- A whole number from zero up to but without `limit`. -/
def natBelow? (limit : Nat) : Value → Option Nat
  | .integer n => if 0 ≤ n ∧ n < limit then some n.toNat else none
  | _ => none

def word16? (v : Value) : Option UInt16 :=
  (v.natBelow? 65536).map UInt16.ofNat

def word64? (v : Value) : Option UInt64 :=
  (v.natBelow? 18446744073709551616).map UInt64.ofNat

/-- An array whose items are all of one kind. -/
def list? {α : Type} (item? : Value → Option α) : Value → Option (List α)
  | .array _ items => items.mapM item?
  | _ => none

/-- Whether the value is an array or a table without content. -/
def isEmpty : Value → Bool
  | .array _ items => items.isEmpty
  | .table _ entries => entries.isEmpty
  | _ => false

/-- A word out of a fixed set: as text, or as the only key of a table, without
content. -/
def word? : Value → Option String
  | .text s => some s
  | .table _ [(key, content)] => if content.isEmpty then some key else none
  | _ => none

end Value

namespace Table

/-- The value of a key that has to be there. -/
def required? {α : Type} (value? : Value → Option α) (t : Table) (key : String) : Option α :=
  (t.get? key).bind value?

/-- The value of a key, or the default when the key is missing. -/
def withDefault? {α : Type} (value? : Value → Option α) (default : α) (t : Table)
    (key : String) : Option α :=
  match t.get? key with
  | none => some default
  | some v => value? v

end Table

end MediaTransport.Toml
