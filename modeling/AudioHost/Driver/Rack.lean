import AudioHost.Driver.Catalog

/-!
# Racks

A rack mounts one backend for each role. When the driver that was asked for is unknown, not part of
the build, or fails to come up, the role falls back to the built-in dummy and the caller is told.
The clock learns of every change before the backend that is mounted or let go does.
-/

set_option autoImplicit false

namespace AudioHost

inductive Backend where
  | dummy
  | external (target : Instance) (device : Device)

namespace Backend

def name : Backend → String
  | .dummy => dummyName
  | .external _ device => device.name

def isDummy : Backend → Bool
  | .dummy => true
  | .external _ device => device.isDummy

end Backend

structure Mount where
  driver : String
  backend : Backend

structure Rack where
  catalog : Catalog := {}
  hub : Hub := {}
  mounts : PerRole (Option Mount) := .both none
  journal : Journal := #[]

namespace Rack

def backend (rack : Rack) (name : RoleName) : Backend :=
  ((rack.mounts.get name.role).map Mount.backend).getD .dummy

def driver (rack : Rack) (name : RoleName) : String :=
  ((rack.mounts.get name.role).map Mount.driver).getD dummyName

def isMounted (rack : Rack) (name : RoleName) : Bool := (rack.mounts.get name.role).isSome

def mountedDummies (rack : Rack) : PerRole Bool :=
  ⟨(rack.backend .audio).isDummy, (rack.backend .midi).isDummy⟩

def note (rack : Rack) (notice : Notice) : Rack := { rack with hub := rack.hub.note notice }

def call (rack : Rack) (role : Role) (backend : Backend) (request : Request) : Outcome × Rack :=
  match backend with
  | .dummy =>
    match request with
    | .activate _ => (.ok (), rack.note (.dummyActivated role))
    | _ => (.ok (), rack)
  | .external target device =>
    let (exchanges, outcome, hub) := (device.respond rack.journal target request).run rack.hub
    let call := {
      target, request, exchanges, outcome
      clockDummies := rack.hub.clock.dummies
      mountedDummies := rack.mountedDummies
      lastClock := hub.clock }
    (outcome, { rack with hub, journal := rack.journal.push (.called call) })

def mount (rack : Rack) (role : Role) (driver : String) (backend : Backend) : Rack :=
  { rack with
    hub := rack.hub.markDummy role backend.isDummy
    mounts := rack.mounts.set role (some ⟨driver, backend⟩) }

/-- Let the backend of a role go. By the time it is released the dummy serves the role. -/
def unmount (rack : Rack) (role : Role) : Except Fault Unit × Rack :=
  let former := rack.mounts.get role
  let rack := {
    rack with
    hub := rack.hub.markDummy role true
    mounts := rack.mounts.set role none }
  match former with
  | none => (.ok (), rack)
  | some mount =>
    match rack.call role mount.backend .release with
    | (.ok _, rack) => (.ok (), rack)
    | (.error cause, rack) =>
      (.error (.backend role cause), rack.note (.releaseFailed role mount.driver cause))

def mountDummy (rack : Rack) (role : Role) (settings : Settings) : Rack :=
  ((rack.mount role dummyName .dummy).call role .dummy (.activate settings)).2

/-- Put a backend in the place of the one before and bring it up. A backend that fails to come up
gives way to the dummy without another request. -/
def install (rack : Rack) (role : Role) (driver : String) (backend : Backend)
    (settings : Settings) : Except Fault Unit × Rack :=
  let rack := (rack.unmount role).2.mount role driver backend
  match rack.call role backend (.activate settings) with
  | (.ok _, rack) => (.ok (), rack)
  | (.error cause, rack) =>
    let rack := rack.note (.activationFailed role driver cause)
    (.error (.activation role driver cause), rack.mountDummy role settings)

def make (rack : Rack) (registration : Registration) (role : Role) : Backend × Rack :=
  let serial := rack.journal.madeBy registration.number
  let target : Instance := ⟨registration.number, serial⟩
  (.external target (registration.make serial role),
    { rack with journal := rack.journal.push (.made target role) })

/-- Have the driver that settings choose for a role serve it. Afterwards a backend is mounted for
the role, if need be the dummy. -/
def engage (rack : Rack) (name : RoleName) (settings : Settings) : Except Fault Unit × Rack :=
  let role := name.role
  let driver := settings.driver role
  let rack := rack.note (.activatingBackend role driver)
  -- A device is made before the one in its place is released.
  match rack.catalog.choose role driver with
  | .registered registration =>
    let (backend, rack) := rack.make registration role
    rack.install role driver backend settings
  | .dummy => rack.install role dummyName .dummy settings
  | .leftOut =>
    let rack := rack.note (.usingDummyForLeftOut role driver)
    (.error (.driverLeftOut role driver), (rack.install role dummyName .dummy settings).2)
  | .unknown =>
    let rack := rack.note (.usingDummyForUnknown role driver)
    (.error (.unknownDriver role driver), (rack.install role dummyName .dummy settings).2)

def vacate (rack : Rack) (name : RoleName) : Except Fault Unit × Rack :=
  let (result, rack) := rack.unmount name.role
  (result, { rack with hub := rack.hub.clear name.role })

/-- Apply settings to a role. A driver that stays is adjusted where it is, and gives way to the
dummy if that fails. For another driver the role starts afresh, with an empty mailbox. -/
def adjust (rack : Rack) (name : RoleName) (settings : Settings) : Except Fault Unit × Rack :=
  let role := name.role
  let driver := settings.driver role
  match (rack.mounts.get role).filter fun mount => mount.driver == driver with
  | none =>
    let rack := ((rack.note (.switchingDriver role driver)).vacate role).2
    let rack := { rack with hub := rack.hub.renew role (settings.mailboxSize role) }
    rack.engage role settings
  | some mount =>
    match rack.call role mount.backend (.adjust settings) with
    | (.ok _, rack) => (.ok (), rack)
    | (.error cause, rack) =>
      let rack := ((rack.note (.adjustmentFailed role cause)).unmount role).2
      (.error (.backend role cause), rack.mountDummy role settings)

def pass (rack : Rack) (name : RoleName) (request : Request) : Except Fault Unit × Rack :=
  let role := name.role
  match rack.mounts.get role with
  | none => (.ok (), rack)
  | some mount =>
    match rack.call role mount.backend request with
    | (.ok _, rack) => (.ok (), rack)
    | (.error cause, rack) => (.error (.backend role cause), rack)

/-- Do something for both roles, whatever comes of the first, and report the first failure. -/
def forBoth (rack : Rack) (operation : Rack → Role → Except Fault Unit × Rack) :
    Except Fault Unit × Rack :=
  let (first, rack) := operation rack .audio
  let (second, rack) := operation rack .midi
  match first with
  | .ok _ => (second, rack)
  | .error fault => (.error fault, rack)

def close (rack : Rack) : Rack := (rack.forBoth unmount).2

inductive Command where
  | engage (name : RoleName) (settings : Settings)
  | adjust (name : RoleName) (settings : Settings)
  | vacate (name : RoleName)
  | playbackStarted (name : RoleName)
  | playbackStopped (name : RoleName)
  | silence (name : RoleName)
  | perform (action : Hub.Action)
  | waitSignal
deriving DecidableEq

inductive Reply where
  | result (result : Except Fault Unit)
  | answer (answer : Answer)

def apply (rack : Rack) : Command → Reply × Rack
  | .engage name settings => (rack.engage name settings).map .result id
  | .adjust name settings => (rack.adjust name settings).map .result id
  | .vacate name => (rack.vacate name).map .result id
  | .playbackStarted name => (rack.pass name .playbackStarted).map .result id
  | .playbackStopped name => (rack.pass name .playbackStopped).map .result id
  | .silence name => (rack.pass name .silence).map .result id
  | .perform action =>
    let (answer, hub) := rack.hub.perform action
    (.answer answer, { rack with hub })
  | .waitSignal =>
    let (raised, signal) := rack.hub.signal.wait
    (.answer (.accepted raised), { rack with hub := { rack.hub with signal } })

def run (rack : Rack) (commands : List Command) : Rack :=
  commands.foldl (fun rack command => (rack.apply command).2) rack

end Rack

end AudioHost
