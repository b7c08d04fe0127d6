import AudioHost.Driver.Device

/-!
# Scripted devices

A device whose conduct is laid down in advance: for each kind of request, what it does and on which
occasions it fails.
-/

set_option autoImplicit false

namespace AudioHost

inductive RequestKind where
  | activate
  | release
  | adjust
  | playbackStarted
  | playbackStopped
  | silence
deriving DecidableEq

def Request.kind : Request → RequestKind
  | .activate _ => .activate
  | .release => .release
  | .adjust _ => .adjust
  | .playbackStarted => .playbackStarted
  | .playbackStopped => .playbackStopped
  | .silence => .silence

structure Failure where
  error : DeviceError
  /-- The occasions on which they do, counted from zero over all devices of the driver; all of them
  if nothing is said. -/
  occasions : Option (List Nat) := none
deriving DecidableEq

structure Script where
  label : String
  isDummy : Bool := false
  actions : List (RequestKind × List Hub.Action) := []
  failures : List (RequestKind × Failure) := []
deriving DecidableEq

def Conduct.ofActions (actions : List Hub.Action) (outcome : Outcome) : Conduct :=
  actions.foldr (fun action next => .act action fun _ => next) (.finish outcome)

namespace Script

def outcome (script : Script) (kind : RequestKind) (earlier : Nat) : Outcome :=
  match script.failures.lookup kind with
  | none => .ok ()
  | some failure =>
    if failure.occasions.elim true (·.contains earlier) then .error failure.error else .ok ()

def respond (script : Script) (journal : Journal) (target : Instance) (request : Request) :
    Conduct :=
  let kind := request.kind
  let earlier := (journal.callsTo target.registration).countP fun call => call.request.kind == kind
  .ofActions ((script.actions.lookup kind).getD []) (script.outcome kind earlier)

def device (script : Script) : Device where
  name := script.label
  isDummy := script.isDummy
  respond := script.respond

end Script

end AudioHost
