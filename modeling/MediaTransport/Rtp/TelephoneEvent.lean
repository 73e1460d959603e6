import MediaTransport.Bytes
import MediaTransport.WireError

/-!
# Telephone events

A keypad digit is sent as a burst of payloads of four octets each: an event code, a
flag for the end of the event with a volume, and the duration so far. The burst of
`burst?` reports growing durations four times and the final one three times, so that
a lost packet or two do not lose the digit. Durations are ticks of the 8 kHz clock.
-/

namespace MediaTransport.Rtp

/-- One telephone event as a payload carries it. -/
structure TelephoneEvent where
  /-- The event code, below 16 for a keypad digit. -/
  code : UInt8
  ended : Bool
  /-- The power level below 0 dBm0, of which six bits are sent. -/
  volume : UInt8
  /-- The duration so far, in clock ticks. -/
  duration : UInt16
  deriving DecidableEq

namespace TelephoneEvent

/-- The keypad digits in the order of their event codes. -/
def digits : List Char :=
  ['0', '1', '2', '3', '4', '5', '6', '7', '8', '9', '*', '#', 'A', 'B', 'C', 'D']

def digitOf? (code : UInt8) : Option Char :=
  digits[code.toNat]?

def codeOf (digit : Char) : Except WireError UInt8 :=
  match digits.findIdx? (· == digit) with
  | some i => .ok (UInt8.ofNat i)
  | none => .error (.unknownDigit digit)

def digit? (e : TelephoneEvent) : Option Char :=
  digitOf? e.code

/-- The payload of an event. The bit between the end flag and the volume is zero. -/
def encode (e : TelephoneEvent) : Bytes :=
  e.code :: UInt8.ofNat ((if e.ended then 128 else 0) + e.volume.toNat % 64) ::
    Bytes.octets16 e.duration

/-- The event at the start of a payload; what follows it is ignored. -/
def decode : Bytes → Except WireError TelephoneEvent
  | code :: flags :: d1 :: d0 :: _ =>
      .ok ⟨code, 128 ≤ flags.toNat, UInt8.ofNat (flags.toNat % 64), Bytes.word16 d1 d0⟩
  | short => .error (.payloadTooShort short.length)

def defaultVolume : UInt8 := 10

/-- How far the duration grows from one payload to the next. -/
def step : Nat := 160

/-- How many payloads report an event that goes on. -/
def updates : Nat := 4

/-- How many payloads repeat the end of an event. -/
def endings : Nat := 3

/-- The duration that every ending reports. -/
def finalDuration : UInt16 :=
  UInt16.ofNat (step * (updates + 1))

/-- The payloads for an event code, in the order in which they are sent. -/
def burstOf (code : UInt8) : List TelephoneEvent :=
  (List.range updates).map
      (fun i => ⟨code, false, defaultVolume, UInt16.ofNat (step * (i + 1))⟩) ++
    List.replicate endings ⟨code, true, defaultVolume, finalDuration⟩

/-- The payloads for a digit, in the order in which they are sent. -/
def burst (digit : Char) : Except WireError (List TelephoneEvent) :=
  (codeOf digit).map burstOf

def describe (e : TelephoneEvent) : String :=
  s!"RTP DTMF Event:\n\tEvent: {e.code}\n\tEndOfEvent: {e.ended}\n\tVolume: {e.volume}" ++
    s!"\n\tDuration: {e.duration}"

theorem duration_getLast_burstOf (code : UInt8) :
    (burstOf code).getLast?.map duration = some finalDuration := rfl

theorem toNat_flags (ended : Bool) (volume : UInt8) :
    (UInt8.ofNat ((if ended then 128 else 0) + volume.toNat % 64)).toNat =
      (if ended then 128 else 0) + volume.toNat % 64 := by
  rw [UInt8.toNat_ofNat']
  split <;> omega

theorem decode_encode (e : TelephoneEvent) (rest : Bytes) :
    decode (e.encode ++ rest) = .ok { e with volume := UInt8.ofNat (e.volume.toNat % 64) } := by
  obtain ⟨code, ended, volume, duration⟩ := e
  simp only [encode, Bytes.octets16, List.cons_append, List.nil_append, decode, toNat_flags,
    Bytes.word16_octets, Except.ok.injEq, TelephoneEvent.mk.injEq, true_and, and_true]
  cases ended
  · simp only [Bool.false_eq_true, if_false, Nat.zero_add, decide_eq_false_iff_not]
    exact ⟨by omega, by rw [Nat.mod_mod]⟩
  · simp only [if_true, decide_eq_true_eq]
    exact ⟨by omega, by congr 1; omega⟩

end TelephoneEvent

end MediaTransport.Rtp
