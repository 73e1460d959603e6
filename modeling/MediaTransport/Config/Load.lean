import MediaTransport.Config.Error
import MediaTransport.Text.Utf8
import MediaTransport.Toml.Decode
import MediaTransport.Toml.Document

/-!
# Loading a configuration

A configuration is a TOML document, given as text or as a file. What the document
has to hold is up to the decoder of the settings that are wanted.
-/

namespace MediaTransport.Config

/-- What a decoder makes of a document. -/
def ofText {α : Type} (decode? : Toml.Table → Option α) (document : String) : Except Error α :=
  match (Toml.Table.ofText? document).bind decode? with
  | some settings => .ok settings
  | none => .error .malformed

/-- The text of the file at `path`, which holds `content` if it is there. -/
def fileText (path : String) (content : Option Bytes) : Except Error String :=
  match content with
  | none => .error (.unreadable path .missing)
  | some octets =>
      match Utf8.decode? octets with
      | none => .error (.unreadable path .notText)
      | some text => .ok text

/-- What a decoder makes of the document in the file at `path`. -/
def ofFile {α : Type} (decode? : Toml.Table → Option α) (path : String)
    (content : Option Bytes) : Except Error α :=
  (fileText path content).bind (ofText decode?)

end MediaTransport.Config
