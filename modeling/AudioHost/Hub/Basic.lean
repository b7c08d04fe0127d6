import AudioHost.Mail.Mailboxes
import AudioHost.Clock.Basic
import AudioHost.Clock.Signal
import AudioHost.Hub.Notice

/-!
# Hubs

A hub is what the drivers, the relay and the application share: the mail, the clock, the signal
that wakes the relay, and the log. A driver reaches the rest of the host only through the actions
of a hub.
-/

set_option autoImplicit false

namespace AudioHost

structure Hub where
  mail : Mailboxes := {}
  clock : Clock := {}
  signal : Signal := {}
  notices : Array Notice := #[]

namespace Hub

def note (hub : Hub) (notice : Notice) : Hub := { hub with notices := hub.notices.push notice }

def wake (hub : Hub) : Hub := { hub with signal := hub.signal.raise }

def time (hub : Hub) : Position := hub.clock.time.get

def report (hub : Hub) (source : ClockSource) (time : Position) : Verdict × Hub :=
  let (verdict, clock) := hub.clock.report source time
  let hub := { hub with clock }
  (verdict, if verdict.isMove then hub.wake else hub)

def jump (hub : Hub) (time : Position) : Hub := { hub with clock := hub.clock.jump time }.wake

def markDummy (hub : Hub) (name : RoleName) (dummy : Bool) : Hub :=
  { hub with clock := hub.clock.markDummy name dummy }

def renew (hub : Hub) (name : RoleName) (capacity : MailboxSize) : Hub :=
  { hub.note (.creatingMailbox name.role capacity) with
    mail := hub.mail.renew name capacity }

def clear (hub : Hub) (name : RoleName) : Hub := { hub with mail := hub.mail.clear name }

def onMailboxes (hub : Hub) (command : Mailboxes.Command) : Answer × Hub :=
  match command with
  -- Only a renewal is written to the log.
  | .renew name capacity => (.none, hub.renew name capacity)
  | command =>
    let (answer, mail) := hub.mail.apply command
    (answer, { hub with mail })

/-- Queue what a device sent, and wake the relay if there was room for it. -/
def deliver? (hub : Hub) (name : RoleName) (port : UInt16) (buffer : List UInt8) : Option Hub :=
  (hub.mail.deliver? name port buffer).map fun mail => { hub with mail }.wake

/-- A position in the text of a hub keeps its point; very large and very small ones are written
with an exponent. -/
def timeLayout : Decimal.Layout := ⟨true, some (17, -3)⟩

def describe (hub : Hub) : String :=
  "BackendIo \x7b playback_time: " ++ timeLayout.render hub.time.seconds ++ ", .. \x7d"

inductive Action where
  | report (source : ClockSource) (time : Position)
  | jump (time : Position)
  | time
  | deliver (name : RoleName) (port : UInt16) (buffer : List UInt8)
  | onMailboxes (command : Mailboxes.Command)
  | describe
deriving DecidableEq

def perform (hub : Hub) : Action → Answer × Hub
  | .report source time =>
    let (verdict, hub) := hub.report source time
    (.accepted verdict.isTaken, hub)
  | .jump time => (.none, hub.jump time)
  | .time => (.time hub.time, hub)
  | .deliver name port buffer => Answer.attempt hub (hub.deliver? name port buffer)
  | .onMailboxes command => hub.onMailboxes command
  | .describe => (.text hub.describe, hub)

end Hub

end AudioHost
