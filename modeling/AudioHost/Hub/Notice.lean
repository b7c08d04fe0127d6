import AudioHost.Fault

/-!
# Notices

What a host tells its log. A notice says what happened; its level, wording and fields follow from
that.
-/

set_option autoImplicit false

namespace AudioHost

inductive Level where
  | debug
  | info
  | warn
  | error
deriving DecidableEq

def Level.label : Level → String
  | .debug => "DEBUG"
  | .info => "INFO"
  | .warn => "WARN"
  | .error => "ERROR"

inductive FieldValue where
  | text (words : String)
  | count (value : Nat)
  | real (value : Float)
deriving DecidableEq

inductive Notice where
  | creatingMailbox (role : Role) (capacity : MailboxSize)
  | relayStarted (interval : Nat)
  | relayStopped
  | droppingMessages (capacity : Nat)
  | activatingBackend (role : Role) (driver : String)
  | usingDummyForLeftOut (role : Role) (driver : String)
  | usingDummyForUnknown (role : Role) (driver : String)
  | dummyActivated (role : Role)
  | activationFailed (role : Role) (driver : String) (cause : DeviceError)
  | releaseFailed (role : Role) (driver : String) (cause : DeviceError)
  | adjustmentFailed (role : Role) (cause : DeviceError)
  | switchingDriver (role : Role) (driver : String)
  | activatingSession (settings : Settings)
  | sessionFailed (fault : Fault)
  | sessionEnded
deriving DecidableEq

namespace Notice

def level : Notice → Level
  | .creatingMailbox .. | .relayStarted .. | .relayStopped | .dummyActivated .. => .debug
  | .activatingBackend .. | .switchingDriver .. | .activatingSession .. | .sessionEnded => .info
  | .droppingMessages .. | .usingDummyForLeftOut .. | .usingDummyForUnknown .. |
    .activationFailed .. | .adjustmentFailed .. => .warn
  | .releaseFailed .. | .sessionFailed .. => .error

def message : Notice → String
  | .creatingMailbox .. => "creating event queue"
  | .relayStarted .. => "queue thread started"
  | .relayStopped => "queue thread stopped"
  | .droppingMessages .. => "application is not dispatching, dropping messages"
  | .activatingBackend .. => "initializing backend"
  | .usingDummyForLeftOut .. => "driver is not enabled, using dummy"
  | .usingDummyForUnknown .. => "unknown driver, using dummy"
  | .dummyActivated .. => "dummy backend initialized"
  | .activationFailed .. => "backend failed to initialize, falling back to dummy"
  | .releaseFailed .. => "backend failed to destroy"
  | .adjustmentFailed .. => "reconfigure failed, falling back to dummy"
  | .switchingDriver .. => "switching driver"
  | .activatingSession .. => "initializing audio subsystem"
  | .sessionFailed .. => "audio subsystem failed to initialize"
  | .sessionEnded => "audio subsystem shut down"

def roleField (role : Role) : String × FieldValue := ("class", .text role.label)

def driverField (driver : String) : String × FieldValue := ("driver", .text driver)

def errorField (message : String) : String × FieldValue := ("error", .text message)

def fields : Notice → List (String × FieldValue)
  | .creatingMailbox role capacity =>
    [roleField role, ("immediate_slots", .count capacity.outgoing),
      ("input_slots", .count capacity.incoming)]
  | .relayStarted interval => [("timeout_ms", .count interval)]
  | .relayStopped | .sessionEnded => []
  | .droppingMessages capacity => [("capacity", .count capacity)]
  | .activatingBackend role driver | .usingDummyForLeftOut role driver |
    .usingDummyForUnknown role driver | .switchingDriver role driver =>
    [roleField role, driverField driver]
  | .dummyActivated role => [roleField role]
  | .activationFailed role driver cause | .releaseFailed role driver cause =>
    [roleField role, driverField driver, errorField cause.message]
  | .adjustmentFailed role cause => [roleField role, errorField cause.message]
  | .activatingSession settings =>
    [("audio_driver", .text settings.audioDriver), ("midi_driver", .text settings.midiDriver),
      ("sample_rate", .real settings.sampleRate), ("period_size", .count settings.periodFrames)]
  | .sessionFailed fault => [errorField fault.message]

end Notice

end AudioHost
