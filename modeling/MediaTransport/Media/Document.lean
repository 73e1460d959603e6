import MediaTransport.Config.Load
import MediaTransport.Media.Description
import MediaTransport.Media.Settings

/-!
# Settings and descriptions as documents

The keys under which a configuration document holds media settings and media
descriptions. Settings that are not given take their defaults; a description has to
give its address, port and formats. A range of ports is a table, or an array of its
start and its end.
-/

namespace MediaTransport.Media

/-- The mode that a value names. -/
def Mode.ofValue? (v : Toml.Value) : Option Mode :=
  v.word?.bind Mode.ofText?

/-- The range of ports that a value gives. -/
def Settings.rangeOfValue? : Toml.Value → Option Net.PortRange
  | .table _ entries => do
      let start ← Toml.Table.required? Toml.Value.word16? entries "start"
      let stop ← Toml.Table.required? Toml.Value.word16? entries "end"
      return ⟨start, stop⟩
  | .array _ (start :: stop :: _) => do
      return ⟨← start.word16?, ← stop.word16?⟩
  | _ => none

def Settings.ofTable? (t : Toml.Table) : Option Settings := do
  let default : Settings := {}
  return {
    portRange := ← t.withDefault? (fun v => (rangeOfValue? v).map some) none "port_range"
    formats := ← t.withDefault? (Toml.Value.list? Toml.Value.text?) default.formats "formats"
    mode := ← t.withDefault? Mode.ofValue? default.mode "mode"
    packetMillis := ← t.withDefault? Toml.Value.word64? default.packetMillis "ptime_ms"
    rtcpEnabled := ← t.withDefault? Toml.Value.boolean? default.rtcpEnabled "rtcp_enabled"
    randomTimestamp :=
      ← t.withDefault? Toml.Value.boolean? default.randomTimestamp "random_initial_timestamp"
    traceRtp := ← t.withDefault? Toml.Value.boolean? default.traceRtp "rtp_debug"
    traceRtcp := ← t.withDefault? Toml.Value.boolean? default.traceRtcp "rtcp_debug"
    bindAttempts :=
      ← t.withDefault? Toml.Value.word64? default.bindAttempts "ephemeral_bind_retries" }

def Description.ofTable? (t : Toml.Table) : Option Description := do
  let address? (v : Toml.Value) : Option Net.IpAddress := v.text?.bind Net.IpAddress.ofText?
  return {
    address := ← t.required? address? "ip"
    port := ← t.required? Toml.Value.word16? "port"
    mode := ← t.withDefault? Mode.ofValue? .sendReceive "mode"
    formats := ← t.required? (Toml.Value.list? Toml.Value.text?) "formats" }

/-- Settings that a session can work with, out of what could be loaded. -/
def Settings.accept : Except Config.Error Settings → Except Error Settings
  | .error cause => .error (.settings (.notLoaded cause))
  | .ok settings => settings.validate.map fun _ => settings

def Settings.ofText (document : String) : Except Error Settings :=
  accept (Config.ofText ofTable? document)

def Settings.ofFile (path : String) (content : Option Bytes) : Except Error Settings :=
  accept (Config.ofFile ofTable? path content)

end MediaTransport.Media
