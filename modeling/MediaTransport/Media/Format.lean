import MediaTransport.Media.Error
import MediaTransport.Rtp.Clock

/-!
# Formats

Payload formats are named as in a session description, by the payload type in
decimal. Two sides agree on the formats that both list, in the order of the answer;
a side that lists none takes the answer as it is.
-/

namespace MediaTransport.Media

namespace Format

/-- Narrowband audio, mu-law. -/
def muLaw : String := "0"

/-- Narrowband audio, A-law. -/
def aLaw : String := "8"

/-- Wideband audio with the clock of narrowband audio. -/
def g722 : String := "9"

def telephoneEvent : String := "101"

/-- What is offered unless something else is asked for. -/
def defaults : List String := [muLaw, aLaw]

/-- The formats whose clock is known. -/
def known : List String := [muLaw, aLaw, g722, telephoneEvent]

def payloadTypeLimit : Nat := 127

/-- The payload type that a format names: a decimal number up to 127, which may have
a plus sign in front. -/
def payloadType? (format : String) : Option UInt8 :=
  let digits :=
    match format.toList with
    | '+' :: rest => rest
    | digits => digits
  match Text.decimal? digits with
  | none => none
  | some n => if n ≤ payloadTypeLimit then some (UInt8.ofNat n) else none

/-- The payload type that a format names, or the fault that it names none. -/
def payloadType (format : String) : Except Error UInt8 :=
  match payloadType? format with
  | some payloadType => .ok payloadType
  | none => .error (.invalidFormat format)

/-- The clock rate of a format, when it is known. -/
def clockRate? (format : String) : Option UInt32 :=
  if format ∈ known then some Rtp.Clock.narrowband else none

/-- The formats of an answer that the offer allows. -/
def common (offered answered : List String) : List String :=
  if offered.isEmpty then answered else answered.filter (· ∈ offered)

/-- What an offer and its answer agree on. -/
def negotiate (offered answered : List String) : Except Error (List String) :=
  let formats := common offered answered
  if formats.isEmpty then .error (.noCommonFormat offered answered) else .ok formats

end Format

end MediaTransport.Media
