import AudioHost.Hub.Basic
import AudioHost.Relay.Basic

/-!
# Stations

A station is a relay at its place between a hub and a channel. The relay sleeps until the signal is
raised or its time is up, and then runs one cycle. Nothing else happens during a cycle, so a run of
a station is a list of commands with `Station.settle` between them.
-/

set_option autoImplicit false

namespace AudioHost

inductive Worker where
  | absent
  | waiting (relay : Relay)
  | stopped
deriving DecidableEq

def Worker.relay? : Worker → Option Relay
  | .waiting relay => some relay
  | _ => none

structure Station where
  hub : Hub
  channel : Channel
  worker : Worker := .absent

namespace Station

/-- Run one cycle of a relay that has woken: lower the signal, hand over all input, then the
position if it is not the one last told. -/
def cycle (station : Station) (relay : Relay) : List Attempt × Station :=
  -- The signal comes down first: what is raised from here on calls for another cycle.
  let hub := { station.hub with signal := station.hub.signal.wait.2 }
  let (events, mail) := hub.mail.collectAll .midi
  let messages := relay.messages events hub.time
  let (attempts, channel) := station.channel.postAll messages
  let (warnings, relay) := (relay.told hub.time).observeAll (attempts.map Attempt.outcome)
  let warning := Notice.droppingMessages station.channel.capacity
  let notices := hub.notices ++ List.replicate warnings warning
  (attempts, ⟨{ hub with mail, notices }, channel, .waiting relay⟩)

def settle (station : Station) : List Attempt × Station :=
  match station.worker with
  | .waiting relay => if station.hub.signal.raised then station.cycle relay else ([], station)
  | _ => ([], station)

def lapse (station : Station) : List Attempt × Station :=
  match station.worker with
  | .waiting relay => station.cycle relay
  | _ => ([], station)

/-- Stop a waiting relay. It is woken for that, sees the signal, and leaves without another
cycle. -/
def stop (station : Station) : Station :=
  match station.worker with
  | .waiting _ =>
    let hub := station.hub.wake
    { station with
      hub := { hub with signal := hub.signal.wait.2 }.note .relayStopped
      worker := .stopped }
  | _ => station

def clear (station : Station) : Station := { station.stop with worker := .absent }

def start (station : Station) (interval : Nat) : Station :=
  let station := station.clear
  { station with
    hub := station.hub.note (.relayStarted interval)
    worker := .waiting { toldTime := station.hub.time, interval } }

def isRelaying (station : Station) : Bool := station.worker.relay?.isSome

inductive Command where
  | onMailboxes (command : Mailboxes.Command)
  | report (source : ClockSource) (time : Position)
  | jump (time : Position)
  | markDummy (name : RoleName) (dummy : Bool)
  | wake
  | start (interval : Nat)
  | stop
  | clear
  | lapse
  | receive
  | collect
  | openReceiver
  | closeReceiver
deriving DecidableEq

inductive Reply where
  | done
  | answer (answer : Answer)
  | received (message : Option Bulletin)
  | messages (messages : List Bulletin)
deriving DecidableEq

/-- Carry out an operation. The attempts are those of a cycle that is part of it. -/
def apply (station : Station) : Command → Reply × List Attempt × Station
  | .onMailboxes command =>
    let (answer, hub) := station.hub.onMailboxes command
    (.answer answer, [], { station with hub })
  | .report source time =>
    let (verdict, hub) := station.hub.report source time
    (.answer (.accepted verdict.isTaken), [], { station with hub })
  | .jump time => (.done, [], { station with hub := station.hub.jump time })
  | .markDummy name dummy => (.done, [], { station with hub := station.hub.markDummy name dummy })
  | .wake => (.done, [], { station with hub := station.hub.wake })
  | .start interval => (.done, [], station.start interval)
  | .stop => (.done, [], station.stop)
  | .clear => (.done, [], station.clear)
  | .lapse =>
    let (attempts, station) := station.lapse
    (.done, attempts, station)
  | .receive =>
    let (message, channel) := station.channel.receive
    (.received message, [], { station with channel })
  | .collect =>
    let (messages, channel) := station.channel.drain
    (.messages messages, [], { station with channel })
  | .openReceiver => (.done, [], { station with channel := station.channel.openReceiver })
  | .closeReceiver =>
    (.done, [], { station with channel := station.channel.closeReceiver })

def step (station : Station) (command : Command) : Reply × List Attempt × Station :=
  let (reply, attempts, station) := station.apply command
  let (later, station) := station.settle
  (reply, attempts ++ later, station)

def run (station : Station) (commands : List Command) : Station :=
  commands.foldl (fun station command => (station.step command).2.2) station

end Station

end AudioHost
