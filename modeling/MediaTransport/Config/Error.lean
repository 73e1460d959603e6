/-!
# Faults of configuration

What can be wrong with a configuration document or the file that holds it, and with
settings that take effect for the whole process.
-/

namespace MediaTransport.Config

/-- Why a file cannot be read as text. -/
inductive FileFault
  | missing
  /-- Its octets are no text. -/
  | notText
  deriving DecidableEq

/-- Why there is no configuration. -/
inductive Error
  /-- A value that means nothing. -/
  | invalid (text : String)
  /-- A file that cannot be read. -/
  | unreadable (path : String) (fault : FileFault)
  /-- A document that is malformed, or holds values of the wrong kind. -/
  | malformed
  /-- Logging that is already set up. -/
  | loggingActive (text : String)
  deriving DecidableEq

def FileFault.message : FileFault → String
  | .missing => "No such file or directory (os error 2)"
  | .notText => "stream did not contain valid UTF-8"

def Error.message : Error → String
  | .invalid text => s!"Configuration error: {text}"
  | .unreadable path fault => s!"Failed to read {path}: {fault.message}"
  | .malformed => "Failed to parse configuration"
  | .loggingActive text => s!"Logging already initialized: {text}"

end MediaTransport.Config
