import AudioHost.Role
import AudioHost.Decimal.Layout
import AudioHost.Text.Blank

/-!
# Settings

What a caller chooses for a session: a driver for each role, the shape of the audio stream and the
sizes of the mailboxes. `Settings.check` says which choices a session can run with.
-/

set_option autoImplicit false

namespace AudioHost

/-- The sizes of a mailbox; a size of zero leaves that side out. -/
structure MailboxSize where
  outgoing : Nat
  incoming : Nat
deriving DecidableEq

def MailboxSize.standard : MailboxSize := ⟨32, 256⟩

/-- The name that always selects the built-in driver. -/
def dummyName : String := "dummy"

structure Settings where
  audioDriver : String := dummyName
  midiDriver : String := dummyName
  audioDevice : String := "default"
  sampleRate : Float := 44100
  periodFrames : Nat := 256
  midiInputDevice : String := "default"
  midiOutputDevice : String := "default"
  audioMailbox : MailboxSize := ⟨32, 0⟩
  midiMailbox : MailboxSize := ⟨32, 256⟩
  wakeInterval : Nat := 100
  inboxSize : Nat := 1024
deriving DecidableEq

inductive SettingsError where
  | sampleRate (rate : Float)
  | periodFrames
  | wakeInterval
  | inboxSize
  | driverName (role : Role)
  /-- A reason given by a check outside this library. -/
  | other (reason : String)
deriving DecidableEq

/-- A rate in a message is written in full, without a point when it is whole. -/
def rateLayout : Decimal.Layout := ⟨false, none⟩

def SettingsError.reason : SettingsError → String
  | .sampleRate rate => "sample_rate " ++ rateLayout.render rate ++ " out of range (8000-384000 Hz)"
  | .periodFrames => "period_size must be non-zero"
  | .wakeInterval => "queue_timeout_ms must be non-zero"
  | .inboxSize => "app_channel_capacity must be non-zero"
  | .driverName role => role.label ++ " driver name is empty"
  | .other reason => reason

namespace Settings

def driver (settings : Settings) (name : RoleName) : String :=
  match name.role with
  | .audio => settings.audioDriver
  | .midi => settings.midiDriver

def withDriver (settings : Settings) (name : RoleName) (driver : String) : Settings :=
  match name.role with
  | .audio => { settings with audioDriver := driver }
  | .midi => { settings with midiDriver := driver }

def mailboxSize (settings : Settings) (name : RoleName) : MailboxSize :=
  match name.role with
  | .audio => settings.audioMailbox
  | .midi => settings.midiMailbox

def periodLength (settings : Settings) : Float :=
  Float.ofNat settings.periodFrames / settings.sampleRate

def violation? (settings : Settings) : Option SettingsError :=
  if settings.sampleRate < 8000 || settings.sampleRate > 384000 then
    some (.sampleRate settings.sampleRate)
  else if settings.periodFrames = 0 then some .periodFrames
  else if settings.wakeInterval = 0 then some .wakeInterval
  else if settings.inboxSize = 0 then some .inboxSize
  else (Role.all.find? fun (role : Role) => isBlank (settings.driver role)).map .driverName

def check (settings : Settings) : Except SettingsError Unit :=
  match settings.violation? with
  | none => .ok ()
  | some violation => .error violation

@[simp] theorem driver_withDriver (settings : Settings) (name other : RoleName) (driver : String) :
    (settings.withDriver name driver).driver other =
      if other.role = name.role then driver else settings.driver other := by
  cases name <;> cases other <;> rfl

end Settings

end AudioHost
