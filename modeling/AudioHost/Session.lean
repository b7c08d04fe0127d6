import AudioHost.Driver.Rack
import AudioHost.Relay.Station

/-!
# Sessions

A session runs both roles, their mailboxes, the clock and the relay as one. It is either active,
with settings, a backend mounted for each role and the relay at work, or at rest.
-/

set_option autoImplicit false

namespace AudioHost

/-- The channels that a session has had. Each activation opens one; a receiver keeps to the channel
it was taken for. -/
structure Inboxes where
  current : Channel
  closed : Array Channel := #[]

namespace Inboxes

def renew (inboxes : Inboxes) (capacity : Nat) : Inboxes :=
  ⟨{ capacity }, inboxes.closed.push inboxes.current.closeSender.closeReceiver⟩

def generation (inboxes : Inboxes) : Nat := inboxes.closed.size

def channel? (inboxes : Inboxes) (generation : Nat) : Option Channel :=
  if generation = inboxes.generation then some inboxes.current else inboxes.closed[generation]?

def setChannel (inboxes : Inboxes) (generation : Nat) (channel : Channel) : Inboxes :=
  if generation = inboxes.generation then { inboxes with current := channel }
  else { inboxes with closed := inboxes.closed.setIfInBounds generation channel }

end Inboxes

structure Session where
  rack : Rack := {}
  inboxes : Inboxes := ⟨{ capacity := ({} : Settings).inboxSize }, #[]⟩
  worker : Worker := .absent
  /-- The settings while the session is active. -/
  settings : Option Settings := none
  /-- Why the system will not start a relay at the moment, if it will not. -/
  refusal : Option String := none

namespace Session

def ofCatalog (catalog : Catalog) : Session := { rack := { catalog } }

def station (session : Session) : Station :=
  ⟨session.rack.hub, session.inboxes.current, session.worker⟩

def withStation (session : Session) (station : Station) : Session :=
  { session with
    rack := { session.rack with hub := station.hub }
    inboxes := { session.inboxes with current := station.channel }
    worker := station.worker }

def isRelaying (session : Session) : Bool := session.worker.relay?.isSome

def note (session : Session) (notice : Notice) : Session :=
  { session with rack := session.rack.note notice }

/-- Stop the relay and vacate both roles. Every step is taken, and the first failure is reported. -/
def deactivate (session : Session) : Except Fault Unit × Session :=
  let session := session.withStation session.station.clear
  let (result, rack) := session.rack.forBoth fun rack role => rack.vacate role
  let session := { session with rack }
  match session.settings with
  | none => (result, session)
  | some _ => (result, { session with settings := none }.note .sessionEnded)

def bringUp (session : Session) (settings : Settings) : Except Fault Unit × Session :=
  match session.rack.engage .audio settings with
  | (.error fault, rack) => (.error fault, { session with rack })
  | (.ok _, rack) =>
    match rack.engage .midi settings with
    | (.error fault, rack) => (.error fault, { session with rack })
    | (.ok _, rack) =>
      let session := { session with rack }
      match session.refusal with
      | none => (.ok (), session.withStation (session.station.start settings.wakeInterval))
      | some reason => (.error (.relayNotStarted reason), session)

def renewMail (session : Session) (settings : Settings) : Session :=
  let hub := session.rack.hub.renew .audio (settings.mailboxSize .audio)
  let hub := hub.renew .midi (settings.mailboxSize .midi)
  { session with rack := { session.rack with hub } }

/-- Make a session active. After a failure it is at rest again. -/
def activate (session : Session) (settings : Settings) : Except Fault Unit × Session :=
  if session.settings.isSome then (.error .alreadyActive, session)
  else
    match settings.check with
    | .error cause => (.error (.invalidSettings cause), session)
    | .ok _ =>
      -- Mail and channel are new before any driver comes up, so that drivers may use them at once.
      let session := (session.note (.activatingSession settings)).renewMail settings
      let session := { session with inboxes := session.inboxes.renew settings.inboxSize }
      match session.bringUp settings with
      | (.ok _, session) => (.ok (), { session with settings := some settings })
      | (.error fault, session) =>
        (.error fault, ((session.note (.sessionFailed fault)).deactivate).2)

def adjust (session : Session) (settings : Settings) : Except Fault Unit × Session :=
  if session.settings.isNone then session.activate settings
  else
    match settings.check with
    | .error cause => (.error (.invalidSettings cause), session)
    | .ok _ =>
      let (result, rack) := session.rack.forBoth fun rack role => rack.adjust role settings
      (result, { session with rack, settings := some settings })

def pass (session : Session) (name : RoleName) (request : Request) :
    Except Fault Unit × Session :=
  let (result, rack) := session.rack.pass name request
  (result, { session with rack })

def passBoth (session : Session) (request : Request) : Except Fault Unit × Session :=
  let (result, rack) := session.rack.forBoth fun rack role => rack.pass role request
  (result, { session with rack })

def close (session : Session) : Session :=
  let session := session.deactivate.2
  { session with rack := session.rack.close }

def settle (session : Session) : List Attempt × Session :=
  let (attempts, station) := session.station.settle
  (attempts, session.withStation station)

inductive Command where
  | activate (settings : Settings)
  | adjust (settings : Settings)
  | deactivate
  | playbackStarted
  | playbackStopped
  | silence (name : RoleName)
  | perform (action : Hub.Action)
  | collect
  | subscribe
  | receive (receiver : Nat)
  | lapse
  /-- The system begins to refuse to start relays, or no longer does. -/
  | refuse (refusal : Option String)
deriving DecidableEq

inductive Reply where
  | done
  | result (result : Except Fault Unit)
  | answer (answer : Answer)
  | messages (messages : List Bulletin)
  | receiver (receiver : Nat)
  | received (message : Option Bulletin)

/-- Carry out an operation. The attempts are those of a cycle that is part of it. -/
def apply (session : Session) : Command → Reply × List Attempt × Session
  | .activate settings =>
    let (result, session) := session.activate settings
    (.result result, [], session)
  | .adjust settings =>
    let (result, session) := session.adjust settings
    (.result result, [], session)
  | .deactivate =>
    let (result, session) := session.deactivate
    (.result result, [], session)
  | .playbackStarted =>
    let (result, session) := session.passBoth .playbackStarted
    (.result result, [], session)
  | .playbackStopped =>
    let (result, session) := session.passBoth .playbackStopped
    (.result result, [], session)
  | .silence name =>
    let (result, session) := session.pass name .silence
    (.result result, [], session)
  | .perform action =>
    let (answer, hub) := session.rack.hub.perform action
    (.answer answer, [], { session with rack := { session.rack with hub } })
  | .collect =>
    let (messages, current) := session.inboxes.current.drain
    (.messages messages, [], { session with inboxes := { session.inboxes with current } })
  | .subscribe =>
    let current := session.inboxes.current.openReceiver
    (.receiver session.inboxes.generation, [],
      { session with inboxes := { session.inboxes with current } })
  | .receive receiver =>
    match session.inboxes.channel? receiver with
    | none => (.received none, [], session)
    | some channel =>
      let (message, channel) := channel.receive
      (.received message, [],
        { session with inboxes := session.inboxes.setChannel receiver channel })
  | .lapse =>
    let (attempts, station) := session.station.lapse
    (.done, attempts, session.withStation station)
  | .refuse refusal => (.done, [], { session with refusal })

def step (session : Session) (command : Command) : Reply × List Attempt × Session :=
  let (reply, attempts, session) := session.apply command
  let (later, session) := session.settle
  (reply, attempts ++ later, session)

def run (session : Session) (commands : List Command) : Session :=
  commands.foldl (fun session command => (session.step command).2.2) session

end Session

end AudioHost
