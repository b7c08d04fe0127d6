import AudioHost.Hub.Basic

/-!
# Devices

A device is one instance that a driver has made. It answers requests, and while it does so it may
act on the hub; which actions it takes may depend on the answers it gets. A journal keeps what was
asked of every device, so that a device may also answer by what happened before.
-/

set_option autoImplicit false

namespace AudioHost

inductive Request where
  | activate (settings : Settings)
  | release
  | adjust (settings : Settings)
  | playbackStarted
  | playbackStopped
  | silence
deriving DecidableEq

abbrev Outcome := Except DeviceError Unit

inductive Conduct where
  | finish (outcome : Outcome)
  | act (action : Hub.Action) (next : Answer → Conduct)

structure Exchange where
  /-- The clock at the moment of the action. -/
  clock : Clock
  action : Hub.Action
  answer : Answer
deriving DecidableEq

def Conduct.run : Conduct → Hub → List Exchange × Outcome × Hub
  | .finish outcome, hub => ([], outcome, hub)
  | .act action next, hub =>
    let clock := hub.clock
    let (answer, hub) := hub.perform action
    let (exchanges, outcome, hub) := (next answer).run hub
    (⟨clock, action, answer⟩ :: exchanges, outcome, hub)

/-- Which device: the registration of its driver, and how many devices that made before. -/
structure Instance where
  registration : Nat
  serial : Nat
deriving DecidableEq

structure Call where
  target : Instance
  request : Request
  /-- Which roles the clock took to be served by a dummy when the request was made. -/
  clockDummies : PerRole Bool
  /-- Which roles were served by a dummy when the request was made. -/
  mountedDummies : PerRole Bool
  exchanges : List Exchange
  /-- The clock by the time the device had finished. -/
  lastClock : Clock
  outcome : Outcome

inductive Record where
  | made (target : Instance) (role : Role)
  | called (call : Call)

abbrev Journal := Array Record

namespace Journal

def madeBy (journal : Journal) (registration : Nat) : Nat :=
  journal.toList.countP fun
    | .made target _ => target.registration == registration
    | .called _ => false

def callsTo (journal : Journal) (registration : Nat) : List Call :=
  journal.toList.filterMap fun
    | .called call => if call.target.registration = registration then some call else none
    | .made .. => none

def callsOf (journal : Journal) (target : Instance) : List Call :=
  journal.toList.filterMap fun
    | .called call => if call.target = target then some call else none
    | .made .. => none

end Journal

structure Device where
  name : String
  isDummy : Bool := false
  respond : Journal → Instance → Request → Conduct

end AudioHost
