import AudioHost.Midi.Message

/-!
# Canonical messages

Raw bytes are put into one canonical form before they are queued. A buffer that starts with the
byte 0xF0 becomes one block, cut after its first terminator. Any other buffer becomes three bytes
in which a note-on of velocity zero is written as the note-off it stands for.
-/

set_option autoImplicit false

namespace AudioHost

structure ChannelData where
  status : UInt8
  first : UInt8
  second : UInt8
deriving DecidableEq

namespace ChannelData

def bytes (data : ChannelData) : List UInt8 := [data.status, data.first, data.second]

def message (data : ChannelData) : Message := ⟨data.bytes, by simp [bytes, Message.maxLength]⟩

def IsSilentNoteOn (data : ChannelData) : Prop :=
  Status.kind data.status = Status.noteOn ∧ data.second = 0

instance (data : ChannelData) : Decidable data.IsSilentNoteOn :=
  inferInstanceAs (Decidable (_ ∧ _))

def canonical (data : ChannelData) : ChannelData :=
  if data.IsSilentNoteOn then
    { data with status := Status.channel data.status ||| Status.noteOff }
  else data

def ofBuffer : List UInt8 → ChannelData
  | [] => ⟨0, 0, 0⟩
  | [status] => ⟨status, 0, 0⟩
  | [status, first] => ⟨status, first, 0⟩
  | status :: first :: second :: _ => ⟨status, first, second⟩

def canonical? (buffer : List UInt8) : Option ChannelData :=
  if buffer.isEmpty then none else some (ofBuffer buffer).canonical

end ChannelData

/-- The length of the block at the front of a buffer, its terminator included, provided that it
fits one message. -/
def blockLength? (buffer : List UInt8) : Option Nat :=
  ((buffer.take Message.maxLength).findIdx? (· == Status.blockEnd)).map (· + 1)

theorem blockLength?_le {buffer : List UInt8} {length : Nat}
    (known : blockLength? buffer = some length) : length ≤ Message.maxLength := by
  simp only [blockLength?] at known
  obtain ⟨index, found, rfl⟩ := Option.map_eq_some_iff.mp known
  have bound := (List.findIdx?_eq_some_iff_getElem.mp found).1
  simp only [List.length_take] at bound
  omega

/-- The canonical message at the front of a buffer, unless the buffer is empty or starts a block
that does not end in time. -/
def Message.canonical? (buffer : List UInt8) : Option Message :=
  match buffer with
  | [] => none
  | status :: _ =>
    if status = Status.blockStart then
      match blockLength? buffer with
      | none => none
      | some length => Message.ofBytes? (buffer.take length)
    else (ChannelData.canonical? buffer).map ChannelData.message

end AudioHost
