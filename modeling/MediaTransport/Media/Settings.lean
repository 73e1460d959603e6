import MediaTransport.Duration
import MediaTransport.Media.Format
import MediaTransport.Media.Mode

/-!
# Media settings

What a session and its writer and reader are set up with. Any values can be put
together; `Settings.fault?` says which combinations no session can work with.
-/

namespace MediaTransport.Media

/-- What a session and its writer and reader are set up with. -/
structure Settings where
  /-- Where to look for ports when none is asked for; any free ones without it. -/
  portRange : Option Net.PortRange := none
  /-- The formats that are offered, the preferred ones first. -/
  formats : List String := Format.defaults
  mode : Mode := .sendReceive
  /-- The milliseconds that one packet covers. -/
  packetMillis : UInt64 := 20
  rtcpEnabled : Bool := true
  /-- Whether a writer's timestamps start anywhere, and not at zero. -/
  randomTimestamp : Bool := false
  traceRtp : Bool := false
  traceRtcp : Bool := false
  /-- How often to try for a pair of free ports. -/
  bindAttempts : UInt64 := 10
  deriving DecidableEq, Inhabited

namespace Settings

def packetTime (s : Settings) : Duration :=
  .ofMillis s.packetMillis

/-- The settings with packets that cover `d`, in whole milliseconds. -/
def withPacketTime (s : Settings) (d : Duration) : Settings :=
  { s with packetMillis := d.toMillis }

/-- What is wrong with a range to take ports from. -/
def rangeFault? (r : Net.PortRange) : Option SettingsFault :=
  if r.start = 0 ∨ r.stop ≤ r.start then some (.emptyRange r)
  else if r.pairs = 0 then some (.narrowRange r)
  else none

/-- What is wrong with the settings; the first fault in this order counts. -/
def fault? (s : Settings) : Option SettingsFault :=
  if s.packetMillis = 0 then some .zeroPacketTime
  else if s.bindAttempts = 0 then some .noBindAttempts
  else s.portRange.bind rangeFault?

/-- Accepts settings without fault. -/
def validate (s : Settings) : Except Error Unit :=
  match s.fault? with
  | none => .ok ()
  | some fault => .error (.settings fault)

theorem rangeFault?_eq_none_iff {r : Net.PortRange} :
    rangeFault? r = none ↔ 1 ≤ r.start.toNat ∧ r.start.toNat + 2 ≤ r.stop.toNat := by
  have hstart : r.start = 0 ↔ r.start.toNat = 0 := UInt16.toNat_inj.symm
  have hstop : r.stop ≤ r.start ↔ r.stop.toNat ≤ r.start.toNat := UInt16.le_iff_toNat_le
  by_cases hempty : r.start.toNat = 0 ∨ r.stop.toNat ≤ r.start.toNat
  · simp only [rangeFault?, hstart, hstop, hempty, if_true, reduceCtorEq, false_iff]
    omega
  · by_cases hnarrow : r.pairs = 0
    · simp only [rangeFault?, hstart, hstop, hempty, hnarrow, if_true, if_false,
        reduceCtorEq, false_iff]
      simp only [Net.PortRange.pairs] at hnarrow
      omega
    · simp only [rangeFault?, hstart, hstop, hempty, hnarrow, if_false, true_iff]
      simp only [Net.PortRange.pairs] at hnarrow
      omega

theorem rangeFault?_eq_none {s : Settings} {r : Net.PortRange} (hvalid : s.validate = .ok ())
    (hrange : s.portRange = some r) : rangeFault? r = none := by
  rw [validate] at hvalid
  split at hvalid
  · rename_i hfault
    rw [fault?, hrange] at hfault
    split at hfault
    · cases hfault
    · split at hfault
      · cases hfault
      · exact hfault
  · cases hvalid

end Settings

end MediaTransport.Media
