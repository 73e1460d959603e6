/-!
# TOML values and tables

A TOML document is a table. Tables and arrays come to be in four ways, and this
decides what may still be added to them: one that is written in place is complete,
one that has its own header takes keys below that header only, one that was implied
by a longer header may get a header later, and one that was made by a dotted key
takes further dotted keys.

`Table.extend` is the only way into a table below another one. It follows a path,
makes the tables that are missing on the way, and refuses to pass where the document
may not. Inserting under a dotted key (`Table.insert`), opening a header
(`Table.addTable`) and adding an element to an array of tables (`Table.addElement`)
are uses of it.

Floating-point numbers and dates are kept as they are written.
-/

namespace MediaTransport.Toml

/-- How a table or an array came to be. -/
inductive Origin
  /-- Written in place, and complete. -/
  | inPlace
  /-- By a header of its own. -/
  | header
  /-- By a header of a table below it. -/
  | implied
  /-- By a dotted key. -/
  | dotted
  deriving DecidableEq

inductive Value
  | text (text : String)
  /-- A whole number of 64 bits. -/
  | integer (number : Int)
  /-- A floating-point number as it is written. -/
  | float (literal : String)
  | boolean (truth : Bool)
  /-- A date, a time, or both, as it is written. -/
  | dateTime (literal : String)
  | array (origin : Origin) (items : List Value)
  | table (origin : Origin) (entries : List (String × Value))
  deriving Inhabited

/-- The entries of a table, in the order in which they came. -/
abbrev Table := List (String × Value)

namespace Table

def get? (t : Table) (key : String) : Option Value :=
  t.lookup key

/-- The table with another value for a key that it has. -/
def replace (t : Table) (key : String) (value : Value) : Table :=
  t.map fun (k, v) => if k == key then (k, value) else (k, v)

def erase (t : Table) (key : String) : Table :=
  t.filter fun (k, _) => k != key

/-- The table after the table at the end of a path below it has been changed by
`change`, which is told how that table came to be. A path of a dotted key does not
lead through tables with a header; one of a header leads through every table that is
not complete, and through the last element of an array of tables. -/
def extend (dotted : Bool) (change : Origin → Table → Option Table) :
    List String → Origin → Table → Option Table
  | [], origin, t => change origin t
  | key :: path, _, t =>
      match t.get? key with
      | none =>
          let made := if dotted then Origin.dotted else Origin.implied
          (extend dotted change path made []).map fun below => t ++ [(key, .table made below)]
      | some (.table origin below) =>
          if origin = .inPlace ∨ (dotted ∧ origin = .header) then none
          else
            (extend dotted change path origin below).map fun below =>
              t.replace key (.table origin below)
      | some (.array .header items) =>
          match items.getLast? with
          | some (.table origin last) =>
              (extend dotted change path origin last).map fun last =>
                t.replace key (.array .header (items.dropLast ++ [.table origin last]))
          | _ => none
      | some _ => none

/-- The table with a value under a key that may be dotted. A key that is not dotted
goes into the table itself, and a dotted one only into a table that dotted keys have
made. No key is given twice. -/
def insert (t : Table) (path : List String) (key : String) (value : Value) : Option Table :=
  extend true
    (fun origin below =>
      if decide (origin = .dotted) == path.isEmpty then none
      else if (below.get? key).isSome then none
      else some (below ++ [(key, value)]))
    path .header t

/-- The table with further entries, one after another. -/
def insertAll (t : Table) : List (List String × String × Value) → Option Table
  | [] => some t
  | (path, key, value) :: rest => (t.insert path key value).bind fun t => insertAll t rest

/-- The table with entries below a header. A table that longer headers have implied
keeps what it has. -/
def addTable (t : Table) (path : List String) (key : String)
    (entries : List (List String × String × Value)) : Option Table :=
  extend false
    (fun _ below =>
      match below.get? key with
      | none => (insertAll [] entries).map fun own => below ++ [(key, .table .header own)]
      | some (.table .implied has) =>
          (insertAll has entries).map fun own => below.erase key ++ [(key, .table .header own)]
      | some _ => none)
    path .header t

/-- The table with another element of an array of tables. -/
def addElement (t : Table) (path : List String) (key : String)
    (entries : List (List String × String × Value)) : Option Table :=
  extend false
    (fun _ below =>
      match below.get? key with
      | none =>
          (insertAll [] entries).map fun own =>
            below ++ [(key, .array .header [.table .header own])]
      | some (.array .header items) =>
          (insertAll [] entries).map fun own =>
            below.replace key (.array .header (items ++ [.table .header own]))
      | some _ => none)
    path .header t

end Table

end MediaTransport.Toml
