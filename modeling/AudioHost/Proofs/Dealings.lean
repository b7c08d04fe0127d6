import AudioHost.Proofs.CanonicalForms
import AudioHost.Proofs.Exchanges
import AudioHost.Proofs.MailUses

/-!
# Dealings with the mail

What is handed to the mail and what it hands out again, told as one log. Whatever it hands out to a
role is the canonical form of something it took for that role, and it keeps the order.
-/

set_option autoImplicit false

namespace AudioHost

/-- What the mail accepts from devices and the application, and what it gives to them. -/
inductive Dealing where
  | sent (role : Role) (buffer : List UInt8)
  | fetched (role : Role) (message : Message)
  | delivered (role : Role) (port : UInt16) (buffer : List UInt8)
  | collected (role : Role) (event : InputEvent)
deriving DecidableEq

namespace Dealing

def role : Dealing → Role
  | .sent role _ | .fetched role _ | .delivered role .. | .collected role _ => role

def sent? (role : Role) : Dealing → Option Message
  | .sent other buffer => if other = role then Message.canonical? buffer else none
  | _ => none

def fetched? (role : Role) : Dealing → Option Message
  | .fetched other message => if other = role then some message else none
  | _ => none

def delivered? (role : Role) : Dealing → Option InputEvent
  | .delivered other port buffer =>
    if other = role then
      (ChannelData.canonical? buffer).map fun data => .ofChannelData role port data
    else none
  | _ => none

def collected? (role : Role) : Dealing → Option InputEvent
  | .collected other event => if other = role then some event else none
  | _ => none

theorem elsewhere {dealing : Dealing} {role : Role} (other : dealing.role ≠ role) :
    sent? role dealing = none ∧ fetched? role dealing = none ∧ delivered? role dealing = none ∧
      collected? role dealing = none := by
  cases dealing <;> simp_all [Dealing.role, sent?, fetched?, delivered?, collected?]

theorem mem_sent {role : Role} {log : List Dealing} {message : Message} :
    message ∈ log.filterMap (sent? role) ↔
      ∃ buffer, .sent role buffer ∈ log ∧ Message.canonical? buffer = some message := by
  rw [List.mem_filterMap]
  constructor
  · rintro ⟨dealing, listed, told⟩
    cases dealing with
    | sent other buffer =>
      obtain ⟨rfl, canonical⟩ := Option.ite_none_right_eq_some.mp told
      exact ⟨buffer, listed, canonical⟩
    | fetched | delivered | collected => cases told
  · rintro ⟨buffer, listed, canonical⟩
    exact ⟨_, listed, by simp [sent?, canonical]⟩

theorem mem_delivered {role : Role} {log : List Dealing} {event : InputEvent} :
    event ∈ log.filterMap (delivered? role) ↔
      ∃ port buffer data, .delivered role port buffer ∈ log ∧
        ChannelData.canonical? buffer = some data ∧ event = .ofChannelData role port data := by
  rw [List.mem_filterMap]
  constructor
  · rintro ⟨dealing, listed, told⟩
    cases dealing with
    | delivered other port buffer =>
      obtain ⟨rfl, known⟩ := Option.ite_none_right_eq_some.mp told
      obtain ⟨data, canonical, rfl⟩ := Option.map_eq_some_iff.mp known
      exact ⟨port, buffer, data, listed, canonical, rfl⟩
    | sent | fetched | collected => cases told
  · rintro ⟨port, buffer, data, listed, canonical, rfl⟩
    exact ⟨_, listed, by simp [delivered?, canonical]⟩

/-- What is handed out is, in this order, among the canonical forms of what was accepted. -/
structure Balanced (role : Role) (log : List Dealing) : Prop where
  messages : (log.filterMap (fetched? role)).Sublist (log.filterMap (sent? role))
  events : (log.filterMap (collected? role)).Sublist (log.filterMap (delivered? role))

/-- All that is handed out is canonical and has been accepted before, byte for byte, for the same
role and port; and it is handed out in the order in which it was accepted. -/
structure Faithful (log : List Dealing) : Prop where
  fetched : ∀ role message before, before ++ [.fetched role message] <+: log →
    message.IsCanonical ∧ ¬ message.IsSilentNoteOn ∧
      ∃ buffer, .sent role buffer ∈ before ∧ Message.canonical? buffer = some message
  collected : ∀ role event before, before ++ [.collected role event] <+: log →
    event.message.length = 3 ∧ ¬ event.message.IsSilentNoteOn ∧
      ∃ port buffer data, .delivered role port buffer ∈ before ∧
        ChannelData.canonical? buffer = some data ∧ event = .ofChannelData role port data
  inOrder : ∀ role before, before <+: log → Balanced role before

/-- It is enough that every part of the log is in order. -/
theorem faithful_of_balanced {log : List Dealing}
    (inOrder : ∀ role before, before <+: log → Balanced role before) : Faithful log where
  fetched role message before start := by
    have given : message ∈ (before ++ [Dealing.fetched role message]).filterMap (fetched? role) :=
      List.mem_filterMap.mpr ⟨_, List.mem_concat_self, if_pos rfl⟩
    obtain ⟨buffer, listed, canonical⟩ :=
      mem_sent.mp ((inOrder role _ start).messages.subset given)
    obtain ⟨shape, sounding⟩ := Message.isCanonical_of_canonical? canonical
    exact ⟨shape, sounding, buffer, by simpa using listed, canonical⟩
  collected role event before start := by
    have given : event ∈ (before ++ [Dealing.collected role event]).filterMap (collected? role) :=
      List.mem_filterMap.mpr ⟨_, List.mem_concat_self, if_pos rfl⟩
    obtain ⟨port, buffer, data, listed, canonical, rfl⟩ :=
      mem_delivered.mp ((inOrder role _ start).events.subset given)
    exact ⟨rfl, ChannelData.not_silent_of_canonical? canonical, port, buffer, data,
      by simpa using listed, canonical, rfl⟩
  inOrder := inOrder

end Dealing

open Dealing

/-- A log accounts for what waits in a mailbox of a role. -/
structure Queues.Accounts (role : Role) (log : List Dealing) (queues : Queues) : Prop where
  messages :
    (log.filterMap (fetched? role) ++ queues.messages).Sublist (log.filterMap (sent? role))
  events :
    (log.filterMap (collected? role) ++ queues.events).Sublist (log.filterMap (delivered? role))
  inOrder : ∀ before, before <+: log → Balanced role before

namespace Queues.Accounts

variable {role : Role} {log : List Dealing} {queues : Queues}

theorem empty (role : Role) : ({} : Queues).Accounts role [] where
  messages := .refl _
  events := .refl _
  inOrder before start := by
    rw [List.prefix_nil.mp start]
    exact ⟨.refl _, .refl _⟩

/-- What is thrown away is never missed. -/
theorem drop (accounts : queues.Accounts role log) {fewer : Queues}
    (messages : fewer.messages.Sublist queues.messages)
    (events : fewer.events.Sublist queues.events) : fewer.Accounts role log where
  messages := (messages.append_left _).trans accounts.messages
  events := (events.append_left _).trans accounts.events
  inOrder := accounts.inOrder

theorem push (accounts : queues.Accounts role log) {dealing : Dealing} {after : Queues}
    (messages : ((log ++ [dealing]).filterMap (fetched? role) ++ after.messages).Sublist
      ((log ++ [dealing]).filterMap (sent? role)))
    (events : ((log ++ [dealing]).filterMap (collected? role) ++ after.events).Sublist
      ((log ++ [dealing]).filterMap (delivered? role))) :
    after.Accounts role (log ++ [dealing]) where
  messages := messages
  events := events
  inOrder before start := by
    rcases List.prefix_concat_iff.mp start with rfl | earlier
    · exact ⟨(List.sublist_append_left _ _).trans messages,
        (List.sublist_append_left _ _).trans events⟩
    · exact accounts.inOrder before earlier

theorem other (accounts : queues.Accounts role log) {dealing : Dealing}
    (other : dealing.role ≠ role) : queues.Accounts role (log ++ [dealing]) := by
  obtain ⟨sent, fetched, delivered, collected⟩ := Dealing.elsewhere other
  refine accounts.push ?_ ?_
  · simpa [sent, fetched] using accounts.messages
  · simpa [delivered, collected] using accounts.events

theorem sent (accounts : queues.Accounts role log) {buffer : List UInt8} {message : Message}
    (canonical : Message.canonical? buffer = some message) :
    Accounts role (log ++ [.sent role buffer])
      { queues with messages := queues.messages ++ [message] } := by
  refine accounts.push ?_ ?_
  · simpa [List.filterMap_cons, Dealing.fetched?, Dealing.sent?, canonical, ← List.append_assoc]
      using accounts.messages
  · simpa [List.filterMap_cons, Dealing.collected?, Dealing.delivered?] using accounts.events

theorem fetched (accounts : queues.Accounts role log) {message : Message} {rest : List Message}
    (waiting : queues.messages = message :: rest) :
    Accounts role (log ++ [.fetched role message]) { queues with messages := rest } := by
  have messages := accounts.messages
  rw [waiting] at messages
  refine accounts.push ?_ ?_
  · simpa [List.filterMap_cons, Dealing.fetched?, Dealing.sent?] using messages
  · simpa [List.filterMap_cons, Dealing.collected?, Dealing.delivered?] using accounts.events

theorem delivered (accounts : queues.Accounts role log) {port : UInt16} {buffer : List UInt8}
    {data : ChannelData} (canonical : ChannelData.canonical? buffer = some data) :
    Accounts role (log ++ [.delivered role port buffer])
      { queues with events := queues.events ++ [.ofChannelData role port data] } := by
  refine accounts.push ?_ ?_
  · simpa [List.filterMap_cons, Dealing.fetched?, Dealing.sent?] using accounts.messages
  · simpa [List.filterMap_cons, Dealing.collected?, Dealing.delivered?, canonical,
      ← List.append_assoc] using accounts.events

theorem collected (accounts : queues.Accounts role log) {event : InputEvent}
    {rest : List InputEvent} (waiting : queues.events = event :: rest) :
    Accounts role (log ++ [.collected role event]) { queues with events := rest } := by
  have events := accounts.events
  rw [waiting] at events
  refine accounts.push ?_ ?_
  · simpa [List.filterMap_cons, Dealing.fetched?, Dealing.sent?] using accounts.messages
  · simpa [List.filterMap_cons, Dealing.collected?, Dealing.delivered?] using events

theorem collectedAll (accounts : queues.Accounts role log) :
    Accounts role (log ++ queues.events.map (.collected role)) { queues with events := [] } := by
  obtain ⟨messages, events⟩ := queues
  induction events generalizing log with
  | nil => simpa using accounts
  | cons event rest ih =>
    have later := ih (accounts.collected rfl)
    simpa using later

theorem others (accounts : queues.Accounts role log) {more : List Dealing}
    (others : ∀ dealing ∈ more, dealing.role ≠ role) : queues.Accounts role (log ++ more) := by
  induction more generalizing log with
  | nil => simpa using accounts
  | cons dealing rest ih =>
    obtain ⟨first, later⟩ := List.forall_mem_cons.mp others
    simpa using ih (accounts.other first) later

end Queues.Accounts

namespace Mailboxes

/-- Uses a mailbox directly, not as the mail of a role. -/
def Command.usesHandle : Command → Bool
  | .through .. => true
  | _ => false

/-- What an operation on the mail comes to, by its answer. -/
def Command.dealing? : Command → Answer → Option Dealing
  | .send name _ buffer, .accepted true => some (.sent name.role buffer)
  | .fetch name _, .due (some due) => some (.fetched name.role due.message)
  | .deliver name port buffer, .accepted true => some (.delivered name.role port buffer)
  | .collect name, .event (some event) => some (.collected name.role event)
  | _, _ => none

def Command.name? : Command → Option RoleName
  | .renew name _ | .clear name | .send name .. | .deliver name .. | .fetch name _
  | .collect name => some name
  | .through .. => none

theorem Command.role_dealing {command : Command} {name : RoleName}
    (named : command.name? = some name) {answer : Answer} {dealing : Dealing}
    (dealt : command.dealing? answer = some dealing) : dealing.role = name.role := by
  simp only [dealing?] at dealt
  split at dealt <;> cases dealt <;> cases named <;> rfl

theorem apply_aimed (mail : Mailboxes) {command : Command} {name : RoleName}
    {there : Mailbox.Command}
    (aims : mail.aim? (.command command) = some (mail.hold name, .command there)) :
    (mail.apply command).1 = ((mail.mailbox name).apply there).1 ∧
      ∀ other, (mail.apply command).2.mailbox other =
        if other.role = name.role then ((mail.mailbox name).apply there).2
        else mail.mailbox other := by
  have effect := mail.aimed aims
  constructor
  · simpa [use, Mailbox.use] using effect.sight
  · intro other
    have found := (mail.use (.command command)).2.held?_hold other
    have place : mail.hold other = mail.hold name ↔ other.role = name.role :=
      ⟨congrArg Handle.role, fun same => by simp [hold, same]⟩
    simp only [effect.hold, effect.held, place, held?_hold, Option.map_some] at found
    split at found
    next here =>
      rw [if_pos here]
      exact (Option.some.inj found).symm
    next elsewhere =>
      rw [if_neg elsewhere]
      exact (Option.some.inj found).symm

/-- A log accounts for the mail in force. -/
def Accounts (log : List Dealing) (mail : Mailboxes) : Prop :=
  ∀ role : Role, ∃ size queues, (mail.mailbox role).Holds size queues ∧
    Queues.Accounts role log queues

theorem Accounts.turn {mail : Mailboxes} {log : List Dealing} (accounts : mail.Accounts log)
    {command : Command} {name : RoleName} {there : Mailbox.Command}
    (aims : mail.aim? (.command command) = some (mail.hold name, .command there))
    (named : command.name? = some name)
    (here : ∀ size queues, Queues.Accounts name.role log queues →
      Queues.Accounts name.role (log ++ (command.dealing? (queues.apply size there).1).toList)
        (queues.apply size there).2) :
    (mail.apply command).2.Accounts (log ++ (command.dealing? (mail.apply command).1).toList) := by
  obtain ⟨answer, mailbox⟩ := mail.apply_aimed aims
  intro role
  obtain ⟨size, queues, holds, accounted⟩ := accounts role
  rw [mailbox, Role.role_name]
  split
  next same =>
    subst same
    have holds : (mail.mailbox name).Holds size queues := by
      simpa only [Mailboxes.mailbox, Role.role_name] using holds
    obtain ⟨same, kept⟩ := holds.apply there
    have asked : (mail.apply command).1 = (queues.apply size there).1 := answer.trans same
    rw [asked]
    exact ⟨size, _, kept, here size queues accounted⟩
  next other =>
    refine ⟨size, queues, holds, accounted.others ?_⟩
    intro dealing dealt
    rw [Command.role_dealing named (Option.mem_toList.mp dealt)]
    exact Ne.symm other

/-- Whatever is thrown away with a mailbox, the log accounts for what is left. -/
theorem Accounts.replaced {mail after : Mailboxes} {log : List Dealing}
    (accounts : mail.Accounts log) (name : RoleName) (capacity : MailboxSize)
    (mailbox : ∀ role : Role, after.mailbox role =
      if role = name.role then .make capacity else mail.mailbox role) : after.Accounts log := by
  intro role
  obtain ⟨size, queues, holds, accounted⟩ := accounts role
  rw [mailbox]
  split
  · exact ⟨capacity, {}, Mailbox.make_holds capacity,
      accounted.drop (List.nil_sublist _) (List.nil_sublist _)⟩
  · exact ⟨size, queues, holds, accounted⟩

theorem Accounts.renew {mail : Mailboxes} {log : List Dealing} (accounts : mail.Accounts log)
    (name : RoleName) (capacity : MailboxSize) : (mail.renew name capacity).Accounts log :=
  accounts.replaced name capacity fun role => by simp

theorem Accounts.clear {mail : Mailboxes} {log : List Dealing} (accounts : mail.Accounts log)
    (name : RoleName) : (mail.clear name).Accounts log := by
  have closed : Mailbox.closed = .make ⟨0, 0⟩ := rfl
  exact accounts.replaced name ⟨0, 0⟩ fun role => by simp [closed]

theorem Accounts.apply {mail : Mailboxes} {log : List Dealing} (accounts : mail.Accounts log)
    (command : Command) (plain : command.usesHandle = false) :
    (mail.apply command).2.Accounts (log ++ (command.dealing? (mail.apply command).1).toList) := by
  cases command with
  | renew name capacity =>
    simpa [Mailboxes.apply, Command.dealing?] using accounts.renew name capacity
  | clear name => simpa [Mailboxes.apply, Command.dealing?] using accounts.clear name
  | send name port buffer =>
    cases canonical : Message.canonical? buffer with
    | none =>
      simpa [Mailboxes.apply, Answer.attempt, send?, canonical, Command.dealing?] using accounts
    | some message =>
      have aims : mail.aim? (.command (.send name port buffer)) =
          some (mail.hold name, .command (.send message.bytes)) := by simp [aim?, canonical]
      refine accounts.turn aims rfl ?_
      intro size queues accounted
      simp only [Queues.apply]
      split
      · exact accounted.sent canonical
      · simpa [Command.dealing?] using accounted
  | fetch name position =>
    refine accounts.turn rfl rfl ?_
    intro size queues accounted
    cases waiting : queues.messages with
    | nil => simpa [Queues.apply, waiting, Command.dealing?] using accounted
    | cons message rest =>
      simpa [Queues.apply, waiting, Command.dealing?] using accounted.fetched waiting
  | deliver name port buffer =>
    cases canonical : ChannelData.canonical? buffer with
    | none =>
      simpa [Mailboxes.apply, Answer.attempt, deliver?, canonical, Command.dealing?] using accounts
    | some data =>
      have aims : mail.aim? (.command (.deliver name port buffer)) = some (mail.hold name,
          .command (.deliver (.ofChannelData name.role port data))) := by simp [aim?, canonical]
      refine accounts.turn aims rfl ?_
      intro size queues accounted
      simp only [Queues.apply]
      split
      · exact accounted.delivered canonical
      · simpa [Command.dealing?] using accounted
  | collect name =>
    refine accounts.turn rfl rfl ?_
    intro size queues accounted
    cases waiting : queues.events with
    | nil => simpa [Queues.apply, waiting, Command.dealing?] using accounted
    | cons event rest =>
      simpa [Queues.apply, waiting, Command.dealing?] using accounted.collected waiting
  | through => cases plain

/-- The relay takes all events that wait for a role. -/
theorem Accounts.collectAll {mail : Mailboxes} {log : List Dealing} (accounts : mail.Accounts log)
    (role : Role) :
    (mail.collectAll role).2.Accounts (log ++ (mail.collectAll role).1.map (.collected role)) := by
  intro other
  obtain ⟨size, queues, holds, accounted⟩ := accounts role
  obtain ⟨events, left⟩ := holds.collectAll
  simp only [Mailboxes.collectAll, mailbox_withMailbox, Role.role_name, events]
  split
  next same =>
    subst same
    exact ⟨size, _, left, accounted.collectedAll⟩
  next elsewhere =>
    obtain ⟨size, others, holds, accounted⟩ := accounts other
    refine ⟨size, others, holds, accounted.others ?_⟩
    intro dealing dealt
    obtain ⟨event, -, rfl⟩ := List.mem_map.mp dealt
    exact Ne.symm elsewhere

/-- The same, if nobody asks for them. -/
theorem Accounts.dropAll {mail : Mailboxes} {log : List Dealing} (accounts : mail.Accounts log)
    (role : Role) : (mail.collectAll role).2.Accounts log := by
  intro other
  obtain ⟨size, queues, holds, accounted⟩ := accounts other
  simp only [Mailboxes.collectAll, mailbox_withMailbox, Role.role_name]
  split
  next same =>
    subst same
    exact ⟨size, _, holds.collectAll.2, accounted.drop (.refl _) (List.nil_sublist _)⟩
  next => exact ⟨size, queues, holds, accounted⟩

theorem Accounts.faithful {mail : Mailboxes} {log : List Dealing} (accounts : mail.Accounts log) :
    Dealing.Faithful log := by
  refine Dealing.faithful_of_balanced fun role before start => ?_
  obtain ⟨_, _, -, accounted⟩ := accounts role
  exact accounted.inOrder before start

end Mailboxes

end AudioHost
