import AudioHost.Document.Basic
import AudioHost.Settings.Basic

/-!
# Reading settings

Settings are read from a document. A record gives settings by key and a list gives them in
the order of the keys; what is left out keeps its usual value, and what is given must have the
right form.
-/

set_option autoImplicit false

namespace AudioHost

def wordLimit : Nat := Nat.pow 2 64 - 1

def halfWordLimit : Nat := Nat.pow 2 32 - 1

def readMember {α : Type} (members : List (String × Document)) (key : String) (usual : α)
    (read : Document → Option α) : Option α :=
  match Document.lastMember? members key with
  | none => some usual
  | some value => read value

def readRequired {α : Type} (members : List (String × Document)) (key : String)
    (read : Document → Option α) : Option α :=
  (Document.lastMember? members key).bind read

def MailboxSize.read? (document : Document) : Option MailboxSize := do
  let members ← document.members? ["immediate_slots", "input_slots"]
  let outgoing ← readRequired members "immediate_slots" (Document.count? wordLimit)
  let incoming ← readRequired members "input_slots" (Document.count? wordLimit)
  return ⟨outgoing, incoming⟩

def Settings.keys : List String :=
  ["audio_driver", "midi_driver", "audio_device", "sample_rate", "period_size",
    "midi_input_device", "midi_output_device", "audio_queue", "midi_queue", "queue_timeout_ms",
    "app_channel_capacity"]

/-- Read settings; a null document stands for the usual ones. -/
def Settings.read? : Document → Option Settings
  | .null => some {}
  | document => do
    let members ← document.members? Settings.keys
    let usual : Settings := {}
    return {
      audioDriver := ← readMember members "audio_driver" usual.audioDriver Document.text?
      midiDriver := ← readMember members "midi_driver" usual.midiDriver Document.text?
      audioDevice := ← readMember members "audio_device" usual.audioDevice Document.text?
      sampleRate := ← readMember members "sample_rate" usual.sampleRate Document.real?
      periodFrames :=
        ← readMember members "period_size" usual.periodFrames (Document.count? halfWordLimit)
      midiInputDevice :=
        ← readMember members "midi_input_device" usual.midiInputDevice Document.text?
      midiOutputDevice :=
        ← readMember members "midi_output_device" usual.midiOutputDevice Document.text?
      audioMailbox := ← readMember members "audio_queue" usual.audioMailbox MailboxSize.read?
      midiMailbox := ← readMember members "midi_queue" usual.midiMailbox MailboxSize.read?
      wakeInterval :=
        ← readMember members "queue_timeout_ms" usual.wakeInterval (Document.count? wordLimit)
      inboxSize :=
        ← readMember members "app_channel_capacity" usual.inboxSize
          (Document.count? wordLimit) }

end AudioHost
