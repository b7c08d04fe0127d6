import AudioHost.Role
import AudioHost.Clock.Position
import AudioHost.Midi.Canonical

/-!
# Events

An `InputEvent` is what a device sent; a `DueMessage` is what a driver is to play.
-/

set_option autoImplicit false

namespace AudioHost

structure InputEvent where
  role : RoleName
  port : UInt16
  message : Message
deriving DecidableEq

namespace InputEvent

def ofChannelData (role : RoleName) (port : UInt16) (data : ChannelData) : InputEvent :=
  ⟨role, port, data.message⟩

/-- The kind of the message; an empty message counts as zero. -/
def kind (event : InputEvent) : UInt8 := Status.kind (event.message.status?.getD 0)

def channel (event : InputEvent) : UInt8 := Status.channel (event.message.status?.getD 0)

def isNoteOn (event : InputEvent) : Bool := event.kind == Status.noteOn

def isNoteOff (event : InputEvent) : Bool := event.kind == Status.noteOff

def describe (event : InputEvent) : String :=
  "MidiEvent \x7b class: " ++ event.role.describe ++ ", port: " ++ Nat.repr event.port.toNat ++
    ", message: " ++ event.message.describe ++ " \x7d"

end InputEvent

structure DueMessage where
  message : Message
  time : Position
deriving DecidableEq

end AudioHost
