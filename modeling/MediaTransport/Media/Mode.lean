import MediaTransport.Media.Error

/-!
# Modes

A stream has a mode: in which directions media flows, as the side that states it
sees it.
-/

namespace MediaTransport.Media

/-- The directions in which media flows. -/
inductive Mode
  | sendReceive
  | sendOnly
  | receiveOnly
  /-- No media, as on hold. -/
  | inactive
  deriving DecidableEq, Inhabited

namespace Mode

def all : List Mode := [.sendReceive, .sendOnly, .receiveOnly, .inactive]

/-- The word for a mode in a session description. -/
def text : Mode → String
  | .sendReceive => "sendrecv"
  | .sendOnly => "sendonly"
  | .receiveOnly => "recvonly"
  | .inactive => "inactive"

def reverse : Mode → Mode
  | .sendOnly => .receiveOnly
  | .receiveOnly => .sendOnly
  | mode => mode

def ofText? (word : String) : Option Mode :=
  all.find? fun mode => mode.text == word

/-- The mode that a word stands for, or the fault that it stands for none. -/
def ofText (word : String) : Except Error Mode :=
  match ofText? word with
  | some mode => .ok mode
  | none => .error (.settings (.unknownMode word))

@[simp] theorem reverse_reverse (mode : Mode) : mode.reverse.reverse = mode := by
  cases mode <;> rfl

theorem ofText?_text (mode : Mode) : ofText? mode.text = some mode := by
  cases mode <;> decide

end Mode

end MediaTransport.Media
