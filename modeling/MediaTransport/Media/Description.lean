import MediaTransport.Media.Mode
import MediaTransport.Net.Address

/-!
# Media descriptions

What one side tells the other about a stream: where it receives, in which mode, and
which formats it can take.
-/

namespace MediaTransport.Media

/-- What one side says about a stream. -/
structure Description where
  address : Net.IpAddress
  /-- The port at which media arrives; control packets arrive at the next. -/
  port : UInt16
  /-- The mode as this side sees it. -/
  mode : Mode := .sendReceive
  /-- The formats, the preferred ones first. -/
  formats : List String
  deriving DecidableEq

/-- The endpoint at which media arrives. -/
def Description.endpoint (d : Description) : Net.Endpoint :=
  ⟨d.address, d.port⟩

end MediaTransport.Media
