import AudioHost.Mail.Mailbox

/-!
# Mailboxes of both roles

Each role has a mailbox in force. Putting another one in its place does not end the old one: whoever
holds a `Handle` to it goes on using it, unseen by the role.
-/

set_option autoImplicit false

namespace AudioHost

structure Lane where
  current : Mailbox := .closed
  retired : Array Mailbox := #[]

namespace Lane

def replace (lane : Lane) (mailbox : Mailbox) : Lane :=
  ⟨mailbox, lane.retired.push lane.current⟩

def generation (lane : Lane) : Nat := lane.retired.size

def mailbox? (lane : Lane) (generation : Nat) : Option Mailbox :=
  if generation = lane.generation then some lane.current else lane.retired[generation]?

def setMailbox (lane : Lane) (generation : Nat) (mailbox : Mailbox) : Lane :=
  if generation = lane.generation then { lane with current := mailbox }
  else { lane with retired := lane.retired.setIfInBounds generation mailbox }

end Lane

/-- A hold on one of the mailboxes of a role, in force or retired. -/
structure Handle where
  role : Role
  generation : Nat
deriving DecidableEq

structure Mailboxes where
  lanes : PerRole Lane := .both {}

namespace Mailboxes

def mailbox (mail : Mailboxes) (name : RoleName) : Mailbox := (mail.lanes.get name.role).current

def withMailbox (mail : Mailboxes) (name : RoleName) (mailbox : Mailbox) : Mailboxes :=
  ⟨mail.lanes.set name.role { mail.lanes.get name.role with current := mailbox }⟩

@[simp] theorem mailbox_withMailbox (mail : Mailboxes) (name other : RoleName) (mailbox : Mailbox) :
    (mail.withMailbox name mailbox).mailbox other =
      if other.role = name.role then mailbox else mail.mailbox other := by
  simp only [Mailboxes.mailbox, withMailbox, PerRole.get_set]
  split <;> rfl

def renew (mail : Mailboxes) (name : RoleName) (capacity : MailboxSize) : Mailboxes :=
  ⟨mail.lanes.set name.role ((mail.lanes.get name.role).replace (.make capacity))⟩

def clear (mail : Mailboxes) (name : RoleName) : Mailboxes :=
  ⟨mail.lanes.set name.role ((mail.lanes.get name.role).replace .closed)⟩

@[simp] theorem mailbox_renew (mail : Mailboxes) (name other : RoleName) (capacity : MailboxSize) :
    (mail.renew name capacity).mailbox other =
      if other.role = name.role then .make capacity else mail.mailbox other := by
  simp only [Mailboxes.mailbox, renew, PerRole.get_set]
  split <;> rfl

@[simp] theorem mailbox_clear (mail : Mailboxes) (name other : RoleName) :
    (mail.clear name).mailbox other =
      if other.role = name.role then .closed else mail.mailbox other := by
  simp only [Mailboxes.mailbox, clear, PerRole.get_set]
  split <;> rfl

def hold (mail : Mailboxes) (name : RoleName) : Handle :=
  ⟨name.role, (mail.lanes.get name.role).generation⟩

def held? (mail : Mailboxes) (handle : Handle) : Option Mailbox :=
  (mail.lanes.get handle.role).mailbox? handle.generation

def setHeld (mail : Mailboxes) (handle : Handle) (mailbox : Mailbox) : Mailboxes :=
  ⟨mail.lanes.set handle.role ((mail.lanes.get handle.role).setMailbox handle.generation mailbox)⟩

@[simp] theorem held?_hold (mail : Mailboxes) (name : RoleName) :
    mail.held? (mail.hold name) = some (mail.mailbox name) := by
  simp [held?, hold, Lane.mailbox?, Mailboxes.mailbox]

def send? (mail : Mailboxes) (name : RoleName) (_port : UInt16) (buffer : List UInt8) :
    Option Mailboxes := do
  let message ← Message.canonical? buffer
  let mailbox ← (mail.mailbox name).send? message.bytes
  return mail.withMailbox name mailbox

def deliver? (mail : Mailboxes) (name : RoleName) (port : UInt16) (buffer : List UInt8) :
    Option Mailboxes := do
  let data ← ChannelData.canonical? buffer
  let mailbox ← (mail.mailbox name).deliver? (.ofChannelData name.role port data)
  return mail.withMailbox name mailbox

def onMailbox (mail : Mailboxes) (name : RoleName) (command : Mailbox.Command) :
    Answer × Mailboxes :=
  let (answer, mailbox) := (mail.mailbox name).apply command
  (answer, mail.withMailbox name mailbox)

def collectAll (mail : Mailboxes) (name : RoleName) : List InputEvent × Mailboxes :=
  let (events, mailbox) := (mail.mailbox name).collectAll
  (events, mail.withMailbox name mailbox)

inductive Command where
  | renew (name : RoleName) (capacity : MailboxSize)
  | clear (name : RoleName)
  | send (name : RoleName) (port : UInt16) (buffer : List UInt8)
  | deliver (name : RoleName) (port : UInt16) (buffer : List UInt8)
  | fetch (name : RoleName) (position : Position)
  | collect (name : RoleName)
  | through (handle : Handle) (command : Mailbox.Command)
deriving DecidableEq

/-- Carry out an operation. A handle to a mailbox that never was does nothing. -/
def apply (mail : Mailboxes) : Command → Answer × Mailboxes
  | .renew name capacity => (.none, mail.renew name capacity)
  | .clear name => (.none, mail.clear name)
  | .send name port buffer => Answer.attempt mail (mail.send? name port buffer)
  | .deliver name port buffer => Answer.attempt mail (mail.deliver? name port buffer)
  | .fetch name position => mail.onMailbox name (.fetch position)
  | .collect name => mail.onMailbox name .collect
  | .through handle command =>
    match mail.held? handle with
    | none => (.none, mail)
    | some mailbox =>
      let (answer, mailbox) := mailbox.apply command
      (answer, mail.setHeld handle mailbox)

end Mailboxes

end AudioHost
