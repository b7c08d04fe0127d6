import AudioHost.Proofs.MailUses
import AudioHost.Session

/-!
# Numbers that count from a start

Mailboxes and channels are numbered from the first one that there ever was. Counted from a later one
on, two histories may have the same mailboxes and the same channels, under other numbers.
-/

set_option autoImplicit false

namespace AudioHost

/-- A handle whose number is counted without the mailboxes that came before. -/
def Handle.after (before : PerRole Nat) (handle : Handle) : Handle :=
  ⟨handle.role, before.get handle.role + handle.generation⟩

@[simp] theorem Handle.after_inj {before : PerRole Nat} {handle other : Handle} :
    handle.after before = other.after before ↔ handle = other := by
  constructor
  · intro same
    obtain ⟨role, generation⟩ := handle
    obtain ⟨place, number⟩ := other
    simp only [after, mk.injEq] at same
    obtain ⟨rfl, numbers⟩ := same
    simpa using numbers
  · rintro rfl
    rfl

theorem Handle.next_after (before : PerRole Nat) (handle : Handle) :
    (handle.after before).next = handle.next.after before := rfl

namespace Mailboxes

/-- How many mailboxes come before the next one of each role. -/
def counts (mail : Mailboxes) : PerRole Nat :=
  ⟨(mail.hold .audio).generation + 1, (mail.hold .midi).generation + 1⟩

theorem counts_get (mail : Mailboxes) (role : Role) :
    mail.counts.get role = (mail.hold role).generation + 1 := by
  cases role <;> rfl

def Command.after (before : PerRole Nat) : Command → Command
  | .through handle command => .through (handle.after before) command
  | command => command

/-- The same mailboxes from a start on, which is counted by `first` in one and by `second` in the
other. -/
structure Counterparts (first second : PerRole Nat) (left right : Mailboxes) : Prop where
  held : ∀ handle : Handle, left.held? (handle.after first) = right.held? (handle.after second)
  hold : ∀ role : Role, ∃ handle : Handle,
    left.hold role = handle.after first ∧ right.hold role = handle.after second

namespace Counterparts

variable {first second : PerRole Nat} {left right : Mailboxes}

theorem holdName (same : Counterparts first second left right) (name : RoleName) :
    ∃ handle : Handle, left.hold name = handle.after first ∧
      right.hold name = handle.after second := by
  obtain ⟨handle, here, there⟩ := same.hold name.role
  exact ⟨handle, by simpa [Mailboxes.hold] using here, by simpa [Mailboxes.hold] using there⟩

theorem mailbox_eq (same : Counterparts first second left right) (name : RoleName) :
    left.mailbox name = right.mailbox name := by
  obtain ⟨handle, here, there⟩ := same.holdName name
  have found := same.held handle
  rw [← here, ← there, held?_hold, held?_hold] at found
  exact Option.some.inj found

theorem replace (same : Counterparts first second left right) (role : Role) (mailbox : Mailbox) :
    Counterparts first second (left.replace role mailbox) (right.replace role mailbox) := by
  obtain ⟨latest, here, there⟩ := same.hold role
  refine ⟨?_, ?_⟩
  · intro handle
    simp only [held?_replace, here, there, Handle.next_after, Handle.after_inj, same.held handle]
  · intro other
    simp only [hold_replace, here, there, Handle.next_after, Role.role_name]
    split
    · exact ⟨latest.next, rfl, rfl⟩
    · exact same.hold other

theorem aim (same : Counterparts first second left right) (command : Command) :
    left.aim? (.command (command.after first)) = none ∧
        right.aim? (.command (command.after second)) = none ∨
      ∃ (handle : Handle) (there : Mailbox.Use),
        left.aim? (.command (command.after first)) = some (handle.after first, there) ∧
        right.aim? (.command (command.after second)) = some (handle.after second, there) := by
  cases command with
  | renew => exact .inl ⟨rfl, rfl⟩
  | clear => exact .inl ⟨rfl, rfl⟩
  | send name port buffer =>
    obtain ⟨handle, here, there⟩ := same.holdName name
    simp only [Command.after, aim?, here, there]
    cases Message.canonical? buffer with
    | none => exact .inl ⟨rfl, rfl⟩
    | some message => exact .inr ⟨handle, _, rfl, rfl⟩
  | deliver name port buffer =>
    obtain ⟨handle, here, there⟩ := same.holdName name
    simp only [Command.after, aim?, here, there]
    cases ChannelData.canonical? buffer with
    | none => exact .inl ⟨rfl, rfl⟩
    | some data => exact .inr ⟨handle, _, rfl, rfl⟩
  | fetch name position =>
    obtain ⟨handle, here, there⟩ := same.holdName name
    simp only [Command.after, aim?, here, there]
    exact .inr ⟨handle, _, rfl, rfl⟩
  | collect name =>
    obtain ⟨handle, here, there⟩ := same.holdName name
    simp only [Command.after, aim?, here, there]
    exact .inr ⟨handle, _, rfl, rfl⟩
  | through handle command => exact .inr ⟨handle, _, rfl, rfl⟩

theorem use (same : Counterparts first second left right) (command : Command) :
    (left.use (.command (command.after first))).1 =
        (right.use (.command (command.after second))).1 ∧
      Counterparts first second (left.use (.command (command.after first))).2
        (right.use (.command (command.after second))).2 := by
  rcases same.aim command with ⟨here, there⟩ | ⟨handle, use, here, there⟩
  -- Without an aim a mailbox is replaced, or the message is malformed.
  · cases command with
    | renew name capacity =>
      exact ⟨rfl, same.replace name.role _⟩
    | clear name => exact ⟨rfl, same.replace name.role _⟩
    | through => cases here
    | _ =>
      rw [use_idle _ here rfl, use_idle _ there rfl]
      exact ⟨rfl, same⟩
  · have before := left.aimed here
    have also := right.aimed there
    refine ⟨?_, ⟨?_, ?_⟩⟩
    · rw [before.sight, also.sight, same.held]
    · intro other
      simp only [before.held, also.held, Handle.after_inj, same.held]
    · intro role
      rw [before.hold, also.hold]
      exact same.hold role

theorem apply (same : Counterparts first second left right) (command : Command) :
    (left.apply (command.after first)).1 = (right.apply (command.after second)).1 ∧
      Counterparts first second (left.apply (command.after first)).2
        (right.apply (command.after second)).2 := by
  obtain ⟨sight, later⟩ := same.use command
  refine ⟨?_, later⟩
  simpa [Mailboxes.use] using sight

theorem collectAll (same : Counterparts first second left right) (name : RoleName) :
    (left.collectAll name).1 = (right.collectAll name).1 ∧
      Counterparts first second (left.collectAll name).2 (right.collectAll name).2 := by
  obtain ⟨latest, here, there⟩ := same.holdName name
  simp only [Mailboxes.collectAll, same.mailbox_eq name, withMailbox_eq_setHeld, true_and]
  refine ⟨?_, ?_⟩
  · intro handle
    rw [held?_setHeld _ (left.held?_hold name), held?_setHeld _ (right.held?_hold name)]
    simp only [here, there, Handle.after_inj, same.held]
  · intro role
    simp only [hold_setHeld]
    exact same.hold role

end Counterparts

theorem next_hold (mail : Mailboxes) (role : Role) :
    (mail.hold role).next = (Handle.mk role 0).after mail.counts := by
  simp [Handle.next, Handle.after, counts_get, hold]

theorem held?_after_counts (mail : Mailboxes) (handle : Handle) :
    mail.held? (handle.after mail.counts) = none := by
  obtain ⟨role, generation⟩ := handle
  simp only [held?, Handle.after, counts_get, hold, Role.role_name, Lane.mailbox?]
  have beyond : (mail.lanes.get role).generation + 1 + generation ≠
      (mail.lanes.get role).generation := by omega
  rw [if_neg beyond, Array.getElem?_eq_none]
  simp only [Lane.generation]
  omega

/-- With new mailboxes for both roles two histories are the same from then on. -/
theorem counterparts_replaced (left right : Mailboxes) (audio midi : Mailbox) :
    Counterparts left.counts right.counts ((left.replace .audio audio).replace .midi midi)
      ((right.replace .audio audio).replace .midi midi) := by
  have inForce (mail : Mailboxes) (role : Role) :
      ((mail.replace .audio audio).replace .midi midi).hold role =
        (Handle.mk role 0).after mail.counts := by
    cases role <;> simp [hold_replace, next_hold]
  refine ⟨?_, ?_⟩
  · intro handle
    simp [held?_replace, hold_replace, next_hold, held?_after_counts]
  · exact fun role => ⟨_, inForce left role, inForce right role⟩

end Mailboxes

namespace Inboxes

theorem channel?_renew (inboxes : Inboxes) (capacity number : Nat) :
    (inboxes.renew capacity).channel? number =
      if number = inboxes.generation + 1 then some { capacity }
      else if number = inboxes.generation then
        some inboxes.current.closeSender.closeReceiver
      else inboxes.channel? number := by
  simp only [renew, channel?, generation, Array.size_push, Array.getElem?_push]
  by_cases next : number = inboxes.closed.size + 1
  · simp only [next, if_true]
  · by_cases last : number = inboxes.closed.size
    · simp [last]
    · simp [next, last]

theorem channel?_setChannel {inboxes : Inboxes} {number : Nat} {before : Channel}
    (present : inboxes.channel? number = some before) (channel : Channel) (other : Nat) :
    (inboxes.setChannel number channel).channel? other =
      if other = number then some channel else inboxes.channel? other := by
  by_cases current : number = inboxes.generation
  · simp only [setChannel, channel?, generation, current, if_true]
    split <;> simp [*]
  -- An older channel is written where it is, so the latest one keeps its number.
  · have old : inboxes.closed[number]? = some before := by
      simpa [channel?, current] using present
    obtain ⟨bound, -⟩ := Array.getElem?_eq_some_iff.mp old
    simp only [generation] at current
    by_cases same : other = number
    · subst same
      simp [setChannel, channel?, generation, current, bound]
    · simp [setChannel, channel?, generation, current, same, Ne.symm same]
      rfl

@[simp] theorem generation_renew (inboxes : Inboxes) (capacity : Nat) :
    (inboxes.renew capacity).generation = inboxes.generation + 1 := by
  simp [generation, renew]

@[simp] theorem generation_setChannel (inboxes : Inboxes) (number : Nat) (channel : Channel) :
    (inboxes.setChannel number channel).generation = inboxes.generation := by
  simp only [setChannel]
  split
  · rfl
  · simp [generation]

theorem channel?_generation (inboxes : Inboxes) :
    inboxes.channel? inboxes.generation = some inboxes.current := by
  simp [channel?]

theorem withCurrent_eq (inboxes : Inboxes) (channel : Channel) :
    { inboxes with current := channel } = inboxes.setChannel inboxes.generation channel := by
  simp [setChannel]

/-- The same channels from a start on. -/
structure Counterparts (first second : Nat) (left right : Inboxes) : Prop where
  channel : ∀ number, left.channel? (first + number) = right.channel? (second + number)
  generation : ∃ number, left.generation = first + number ∧ right.generation = second + number

namespace Counterparts

variable {first second : Nat} {left right : Inboxes}

theorem current_eq (same : Counterparts first second left right) :
    left.current = right.current := by
  obtain ⟨number, here, there⟩ := same.generation
  have found := same.channel number
  rw [← here, ← there, channel?_generation, channel?_generation] at found
  exact Option.some.inj found

theorem setChannel (same : Counterparts first second left right) {number : Nat} {before : Channel}
    (present : left.channel? (first + number) = some before) (channel : Channel) :
    Counterparts first second (left.setChannel (first + number) channel)
      (right.setChannel (second + number) channel) := by
  have also : right.channel? (second + number) = some before := same.channel number ▸ present
  refine ⟨?_, ?_⟩
  · intro other
    simp only [channel?_setChannel present, channel?_setChannel also, same.channel,
      Nat.add_left_cancel_iff]
  · simpa using same.generation

theorem withCurrent (same : Counterparts first second left right) (channel : Channel) :
    Counterparts first second { left with current := channel }
      { right with current := channel } := by
  obtain ⟨number, here, there⟩ := same.generation
  rw [withCurrent_eq, withCurrent_eq, here, there]
  exact same.setChannel (here ▸ left.channel?_generation) channel

theorem renew (same : Counterparts first second left right) (capacity : Nat) :
    Counterparts first second (left.renew capacity) (right.renew capacity) := by
  obtain ⟨latest, here, there⟩ := same.generation
  refine ⟨?_, ?_⟩
  · intro number
    simp only [channel?_renew, here, there, same.channel, same.current_eq, Nat.add_assoc,
      Nat.add_left_cancel_iff]
  · exact ⟨latest + 1, by simp [here, Nat.add_assoc], by simp [there, Nat.add_assoc]⟩

end Counterparts

theorem counterparts_renewed (left right : Inboxes) (capacity : Nat) :
    Counterparts (left.generation + 1) (right.generation + 1) (left.renew capacity)
      (right.renew capacity) := by
  -- Whatever there was, the new channel is the only one from its number on.
  have from_start (inboxes : Inboxes) (number : Nat) :
      (inboxes.renew capacity).channel? (inboxes.generation + 1 + number) =
        if number = 0 then some { capacity } else none := by
    have beyond : inboxes.generation + 1 + number ≠ inboxes.generation := by omega
    have none : inboxes.channel? (inboxes.generation + 1 + number) = none := by
      rw [channel?, if_neg beyond, Array.getElem?_eq_none]
      simp only [generation]
      omega
    rw [channel?_renew, if_neg beyond, none]
    simp
  refine ⟨fun number => ?_, ⟨0, generation_renew .., generation_renew ..⟩⟩
  rw [from_start, from_start]

end Inboxes

end AudioHost
