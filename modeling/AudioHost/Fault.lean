import AudioHost.Settings.Basic

/-!
# Faults

Every failure is a value that says what went wrong; its wording is `Fault.message`.
-/

set_option autoImplicit false

namespace AudioHost

inductive DeviceError where
  | device (reason : String)
  | stream (reason : String)
  | unsupported (reason : String)
  | failed (reason : String)
deriving DecidableEq

def DeviceError.message : DeviceError → String
  | .device reason => "Device error: " ++ reason
  | .stream reason => "Stream error: " ++ reason
  | .unsupported reason => "Not supported: " ++ reason
  | .failed reason => reason

inductive Fault where
  | invalidSettings (cause : SettingsError)
  | relayNotStarted (reason : String)
  | unknownDriver (name : RoleName) (driver : String)
  | driverLeftOut (name : RoleName) (driver : String)
  | activation (name : RoleName) (driver : String) (cause : DeviceError)
  | backend (name : RoleName) (cause : DeviceError)
  | alreadyActive
deriving DecidableEq

namespace Fault

def message : Fault → String
  | .invalidSettings cause => "Invalid config: " ++ cause.reason
  | .relayNotStarted reason => "Failed to spawn queue thread: " ++ reason
  | .unknownDriver name driver => "Unknown " ++ name.role.label ++ " driver '" ++ driver ++ "'"
  | .driverLeftOut name driver =>
    name.role.label ++ " driver '" ++ driver ++ "' is not enabled in this build"
  | .activation name driver cause =>
    name.role.label ++ " driver '" ++ driver ++ "' failed to initialize: " ++ cause.message
  | .backend name cause => name.role.label ++ " backend: " ++ cause.message
  | .alreadyActive => "Audio subsystem is already initialized"

def blamesDriver : Fault → Bool
  | .unknownDriver .. | .driverLeftOut .. | .activation .. => true
  | _ => false

end Fault

end AudioHost
