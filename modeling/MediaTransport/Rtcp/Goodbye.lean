import MediaTransport.Bytes
import MediaTransport.Text.Utf8
import MediaTransport.WireError

/-!
# Goodbyes

A goodbye lists the sources that leave a session and may give a reason: its length
in one octet, its text, and zeros up to the next word. A longer reason is cut after
255 octets, wherever that is; a reason that is read need not be text, so it is read
leniently.
-/

namespace MediaTransport.Rtcp

/-- Sources that leave a session. -/
structure Goodbye where
  sources : List UInt32 := []
  reason : Option String := none
  deriving DecidableEq

namespace Goodbye

/-- The most octets of a reason that are sent. -/
def reasonLimit : Nat := 255

def reasonOctets (reason : String) : Bytes :=
  (Utf8.encode reason.toList).take reasonLimit

def reasonLength (reason : String) : Nat :=
  min reason.utf8ByteSize reasonLimit

/-- Octets of a body without a reason or with one, up to the next word. -/
def size (g : Goodbye) : Nat :=
  4 * g.sources.length + (g.reason.map fun r => (1 + reasonLength r + 3) / 4 * 4).getD 0

/-- A reason with its length in front and zeros behind it. -/
def encodeReason (reason : String) : Bytes :=
  let octets := reasonOctets reason
  Bytes.padToWord (UInt8.ofNat octets.length :: octets)

def encodeBody (g : Goodbye) : Bytes :=
  Bytes.octetsList g.sources ++ (g.reason.map encodeReason).getD []

/-- The reason after the sources of a body; nothing there is no reason, and what
follows the reason is ignored. -/
def decodeReason : Bytes → Except WireError (Option String)
  | [] => .ok none
  | n :: rest =>
      match Bytes.split? n.toNat rest with
      | none => .error (.bufferTooSmall n.toNat rest.length)
      | some (text, _) => .ok (some (String.ofList (Utf8.decodeLossy text)))

/-- The goodbye of `count` sources in a body. -/
def decodeBody (count : Nat) (body : Bytes) : Except WireError Goodbye :=
  match Bytes.split? (4 * count) body with
  | none => .error (.bufferTooSmall (4 * count) body.length)
  | some (sources, rest) =>
      match decodeReason rest with
      | .error e => .error e
      | .ok reason => .ok ⟨Bytes.words sources, reason⟩

def describe (g : Goodbye) : String :=
  let sources := Text.bracketed (g.sources.map fun s => Text.hex s.toNat)
  let reason :=
    match g.reason with
    | none => "None"
    | some r => "Some(" ++ Text.quote r ++ ")"
  s!"Goodbye sources={sources} reason={reason}"

end Goodbye

end MediaTransport.Rtcp
