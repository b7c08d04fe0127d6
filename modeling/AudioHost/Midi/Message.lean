import AudioHost.Text.Hex

/-!
# Messages

One MIDI message is a run of at most 255 bytes, so its length fits the single byte that stands
before it in a mailbox.
-/

set_option autoImplicit false

namespace AudioHost

namespace Status

def noteOff : UInt8 := 0x80

def noteOn : UInt8 := 0x90

def blockStart : UInt8 := 0xF0

def blockEnd : UInt8 := 0xF7

def kind (status : UInt8) : UInt8 := status &&& 0xF0

def channel (status : UInt8) : UInt8 := status &&& 0x0F

end Status

def Message.maxLength : Nat := 255

structure Message where
  bytes : List UInt8
  length_le : bytes.length ≤ Message.maxLength
deriving DecidableEq

namespace Message

def empty : Message := ⟨[], by decide⟩

instance : Inhabited Message := ⟨empty⟩

def ofBytes? (bytes : List UInt8) : Option Message :=
  if fits : bytes.length ≤ maxLength then some ⟨bytes, fits⟩ else none

@[simp] theorem ofBytes?_bytes (message : Message) : ofBytes? message.bytes = some message := by
  simp [ofBytes?, message.length_le]

theorem ofBytes?_eq_some_iff {bytes : List UInt8} {message : Message} :
    ofBytes? bytes = some message ↔ message.bytes = bytes := by
  constructor
  · intro known
    simp only [ofBytes?] at known
    split at known
    · cases known
      rfl
    · cases known
  · rintro rfl
    exact ofBytes?_bytes message

theorem ofBytes?_eq_none_iff {bytes : List UInt8} :
    ofBytes? bytes = none ↔ maxLength < bytes.length := by
  simp [ofBytes?]

def length (message : Message) : Nat := message.bytes.length

def isEmpty (message : Message) : Bool := message.bytes.isEmpty

def status? (message : Message) : Option UInt8 := message.bytes.head?

def describe (message : Message) : String :=
  "RawMessage(" ++ Hex.listing message.bytes ++ ")"

end Message

end AudioHost
