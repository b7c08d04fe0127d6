import AudioHost.Ring.Basic
import AudioHost.Settings.Basic
import AudioHost.Mail.Answer

/-!
# Mailboxes

The mailbox of one role has two independent sides. Messages to be played wait as bytes, each after a
byte that holds its length; events from a device wait as records. Either side may be missing.
-/

set_option autoImplicit false

namespace AudioHost

/-- The bytes set aside for one message to be played: its length and the longest message. -/
def slotBytes : Nat := 1 + Message.maxLength

def Message.frame (message : Message) : List UInt8 :=
  message.length.toUInt8 :: message.bytes

structure Mailbox where
  outgoing : Option (Ring UInt8)
  incoming : Option (Ring InputEvent)

namespace Mailbox

def closed : Mailbox := ⟨none, none⟩

def make (capacity : MailboxSize) : Mailbox where
  outgoing := Ring.make? (capacity.outgoing * slotBytes)
  incoming := Ring.make? capacity.incoming

def outgoingLength (mailbox : Mailbox) : Nat := mailbox.outgoing.elim 0 Ring.size

def incomingLength (mailbox : Mailbox) : Nat := mailbox.incoming.elim 0 Ring.size

def send? (mailbox : Mailbox) (bytes : List UInt8) : Option Mailbox := do
  let ring ← mailbox.outgoing
  let message ← Message.ofBytes? bytes
  let ring ← ring.append? message.frame
  return { mailbox with outgoing := some ring }

/-- Take the next message to be played. Every waiting message is due at once, whatever position is
asked for. -/
def fetch? (mailbox : Mailbox) (_position : Position) : Option (DueMessage × Mailbox) := do
  let ring ← mailbox.outgoing
  let taken ← ring.takeFrame? UInt8.toNat (List.replicate Message.maxLength 0)
  let message ← Message.ofBytes? (taken.buffer.take taken.length)
  return (⟨message, 0⟩, { mailbox with outgoing := some taken.ring })

def deliver? (mailbox : Mailbox) (event : InputEvent) : Option Mailbox := do
  let ring ← mailbox.incoming
  let ring ← ring.push? event
  return { mailbox with incoming := some ring }

def collect? (mailbox : Mailbox) : Option (InputEvent × Mailbox) := do
  let ring ← mailbox.incoming
  let (event, ring) ← ring.pop?
  return (event, { mailbox with incoming := some ring })

def collectUpTo (mailbox : Mailbox) : Nat → List InputEvent × Mailbox
  | 0 => ([], mailbox)
  | count + 1 =>
    match mailbox.collect? with
    | none => ([], mailbox)
    | some (event, mailbox) =>
      let (events, mailbox) := mailbox.collectUpTo count
      (event :: events, mailbox)

def collectAll (mailbox : Mailbox) : List InputEvent × Mailbox :=
  mailbox.collectUpTo mailbox.incomingLength

def describeSize : Option Nat → String
  | none => "None"
  | some size => "Some(" ++ Nat.repr size ++ ")"

def describe (mailbox : Mailbox) : String :=
  "EventQueue \x7b immediate_capacity: " ++ describeSize (mailbox.outgoing.map Ring.capacity) ++
    ", input_capacity: " ++ describeSize (mailbox.incoming.map Ring.capacity) ++ " \x7d"

inductive Command where
  | send (bytes : List UInt8)
  | fetch (position : Position)
  | deliver (event : InputEvent)
  | collect
  | describe
deriving DecidableEq

def apply (mailbox : Mailbox) : Command → Answer × Mailbox
  | .send bytes => Answer.attempt mailbox (mailbox.send? bytes)
  | .fetch position =>
    match mailbox.fetch? position with
    | none => (.due none, mailbox)
    | some (message, mailbox) => (.due (some message), mailbox)
  | .deliver event => Answer.attempt mailbox (mailbox.deliver? event)
  | .collect =>
    match mailbox.collect? with
    | none => (.event none, mailbox)
    | some (event, mailbox) => (.event (some event), mailbox)
  | .describe => (.text mailbox.describe, mailbox)

end Mailbox

end AudioHost
