import MediaTransport.Config.Filter
import MediaTransport.Config.Load
import MediaTransport.Text.Quoted

/-!
# Logging settings

What is logged is said by a filter, and how by a few switches. A filter given from
outside takes the place of the configured one, unless it is blank.
-/

namespace MediaTransport.Config

/-- What is logged, and how. -/
structure Logging where
  filter : String := Level.info.text
  json : Bool := false
  /-- Whether lines say where they come from. -/
  fileInfo : Bool := false
  /-- The name under which the program logs. -/
  appName : String := "sipmedia"
  deriving DecidableEq

namespace Logging

/-- Settings that log everything from a level on. -/
def ofLevel (level : Level) (appName : String) : Logging :=
  { filter := level.text, appName := appName }

/-- The directives that take effect, where `override` are those given from outside. -/
def effective (l : Logging) (override : Option String) : String :=
  match override with
  | none => l.filter
  | some given => if given.toList.all Filter.isBlank then l.filter else given

/-- The directives that take effect, when each of them means something. -/
def check (l : Logging) (override : Option String) : Except Error String :=
  let filter := l.effective override
  if Filter.isValid filter then .ok filter
  else .error (.invalid ("invalid log filter " ++ Text.quote filter))

def ofTable? (t : Toml.Table) : Option Logging := do
  let default : Logging := {}
  return {
    filter := ← t.withDefault? Toml.Value.text? default.filter "filter"
    json := ← t.withDefault? Toml.Value.boolean? default.json "json"
    fileInfo := ← t.withDefault? Toml.Value.boolean? default.fileInfo "file_info"
    appName := ← t.withDefault? Toml.Value.text? default.appName "app_name" }

end Logging

end MediaTransport.Config
