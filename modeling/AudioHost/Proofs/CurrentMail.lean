import AudioHost.Hub.Basic
import AudioHost.Proofs.WaitingEvents

/-!
# The mailboxes in force

What an operation on the mail, or an action on a hub, may make of the mailbox that is in force for a
role.
-/

set_option autoImplicit false

namespace AudioHost

@[simp] theorem Lane.generation_setMailbox (lane : Lane) (generation : Nat) (mailbox : Mailbox) :
    (lane.setMailbox generation mailbox).generation = lane.generation := by
  by_cases current : generation = lane.retired.size
  · simp [setMailbox, Lane.generation, current]
  · simp [setMailbox, Lane.generation, current]

namespace Mailboxes

/-- An operation that puts an event in a mailbox of a role without anything else being told. -/
def Command.deliversTo (role : Role) : Command → Bool
  | .deliver name .. => name.role == role
  | .through handle (.deliver _) => handle.role == role
  | _ => false

def Command.renews : Command → Bool
  | .renew .. => true
  | _ => false

inductive Becomes (mail : Mailboxes) (command : Command) (role : Role) : Mailbox → Prop where
  | renewed (capacity : MailboxSize) (renews : command.renews = true) :
      Becomes mail command role (.make capacity)
  | cleared : Becomes mail command role .closed
  | kept : Becomes mail command role (mail.mailbox role)
  | used (use : Mailbox.Command)
      (delivers : ∀ event, use = .deliver event → command.deliversTo role = true) :
      Becomes mail command role ((mail.mailbox role).apply use).2

theorem hold_setHeld (mail : Mailboxes) (handle : Handle) (mailbox : Mailbox) (name : RoleName) :
    (mail.setHeld handle mailbox).hold name = mail.hold name := by
  by_cases here : name.role = handle.role
  · simp [hold, setHeld, here]
  · simp [hold, setHeld, here]

theorem mailbox_setHeld (mail : Mailboxes) {handle : Handle} {before : Mailbox}
    (present : mail.held? handle = some before) (mailbox : Mailbox) (name : RoleName) :
    (mail.setHeld handle mailbox).mailbox name =
      if mail.hold name = handle then mailbox else mail.mailbox name := by
  have found := (mail.setHeld handle mailbox).held?_hold name
  rw [hold_setHeld, held?_setHeld mail present, held?_hold] at found
  split at found
  next same => rw [if_pos same, ← Option.some.inj found]
  next other => rw [if_neg other, ← Option.some.inj found]

theorem becomes_withMailbox (mail : Mailboxes) (command : Command) (name : RoleName) (role : Role)
    (use : Mailbox.Command)
    (delivers : ∀ event, use = .deliver event → name.role = role → command.deliversTo role = true) :
    mail.Becomes command role
      ((mail.withMailbox name ((mail.mailbox name).apply use).2).mailbox role) := by
  rw [mailbox_withMailbox]
  split
  next here =>
    have same : mail.mailbox name = mail.mailbox role := by simp only [Mailboxes.mailbox, here]
    rw [same]
    exact .used use fun event known => delivers event known (by simpa using here.symm)
  next => exact .kept

theorem becomes (mail : Mailboxes) (command : Command) (role : Role) :
    mail.Becomes command role ((mail.apply command).2.mailbox role) := by
  cases command with
  | renew name capacity =>
    rw [apply, mailbox_renew]
    split
    · exact .renewed capacity rfl
    · exact .kept
  | clear name =>
    rw [apply, mailbox_clear]
    split
    · exact .cleared
    · exact .kept
  | send name port buffer =>
    simp only [apply, Answer.attempt, send?]
    cases Message.canonical? buffer with
    | none => exact .kept
    | some message =>
      have used := mail.becomes_withMailbox (.send name port buffer) name role (.send message.bytes)
        (by simp)
      cases known : (mail.mailbox name).send? message.bytes with
      | none => simpa [known] using .kept
      | some mailbox => simpa [known, Mailbox.apply, Answer.attempt] using used
  | deliver name port buffer =>
    simp only [apply, Answer.attempt, deliver?]
    cases ChannelData.canonical? buffer with
    | none => exact .kept
    | some data =>
      have used := mail.becomes_withMailbox (.deliver name port buffer) name role
        (.deliver (.ofChannelData name.role port data)) (by simp [Command.deliversTo])
      cases known : (mail.mailbox name).deliver? (.ofChannelData name.role port data) with
      | none => simpa [known] using .kept
      | some mailbox => simpa [known, Mailbox.apply, Answer.attempt] using used
  | fetch name position => exact mail.becomes_withMailbox _ name role (.fetch position) (by simp)
  | collect name => exact mail.becomes_withMailbox _ name role .collect (by simp)
  | through handle use =>
    cases present : mail.held? handle with
    | none => simpa [apply, present] using .kept
    | some mailbox =>
      simp only [apply, present]
      rw [mailbox_setHeld mail present]
      split
      next same =>
        -- The handle is to the mailbox in force.
        subst same
        rw [held?_hold] at present
        cases present
        refine .used use ?_
        rintro event rfl
        simp [Command.deliversTo, hold]
      next => exact .kept

end Mailboxes

namespace Hub

def Action.onMail? : Action → Option Mailboxes.Command
  | .deliver name port buffer => some (.deliver name port buffer)
  | .onMailboxes command => some command
  | _ => none

theorem mail_perform (hub : Hub) (action : Action) :
    (hub.perform action).2.mail =
      action.onMail?.elim hub.mail fun command => (hub.mail.apply command).2 := by
  cases action with
  | report source time =>
    simp only [perform, report]
    split <;> rfl
  | deliver name port buffer =>
    simp only [perform, Answer.attempt, deliver?, Action.onMail?, Option.elim_some, Mailboxes.apply]
    cases hub.mail.deliver? name port buffer <;> rfl
  | onMailboxes command => cases command <;> rfl
  | _ => rfl

end Hub

end AudioHost
