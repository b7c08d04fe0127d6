import AudioHost.Mail.Mailboxes
import AudioHost.Proofs.MailboxQueues

/-!
# Events that wait

What waits for the application in every mailbox that a role has had, in force or retired, and what
each operation on the mail does to it.
-/

set_option autoImplicit false

namespace AudioHost

namespace Mailbox

variable {mailbox next : Mailbox}

def inputs (mailbox : Mailbox) : List InputEvent := (mailbox.incoming.map Ring.toList).getD []

theorem incomingLength_eq (mailbox : Mailbox) : mailbox.incomingLength = mailbox.inputs.length := by
  cases known : mailbox.incoming <;> simp [incomingLength, inputs, known]

theorem inputs_make (capacity : MailboxSize) : (make capacity).inputs = [] := by
  cases known : (Ring.make? capacity.incoming : Option (Ring InputEvent)) with
  | none => simp [inputs, make, known]
  | some ring => simp [inputs, make, known, Ring.toList_make? known]

theorem inputs_deliver? {event : InputEvent} (known : mailbox.deliver? event = some next) :
    next.inputs = mailbox.inputs ++ [event] := by
  simp only [deliver?, Option.bind_eq_bind, Option.bind_eq_some_iff] at known
  obtain ⟨ring, present, pushed, room, same⟩ := known
  cases same
  simp [inputs, present, Ring.toList_push? room]

theorem inputs_collect?_some {event : InputEvent} (known : mailbox.collect? = some (event, next)) :
    mailbox.inputs = event :: next.inputs := by
  simp only [collect?, Option.bind_eq_bind, Option.bind_eq_some_iff] at known
  obtain ⟨ring, present, ⟨first, rest⟩, popped, same⟩ := known
  cases same
  simp [inputs, present, Ring.toList_pop? popped]

theorem inputs_collect?_none (known : mailbox.collect? = none) : mailbox.inputs = [] := by
  cases present : mailbox.incoming with
  | none => simp [inputs, present]
  | some ring =>
    have empty : ring.pop? = none := by
      cases popped : ring.pop? with
      | none => rfl
      | some taken => simp [collect?, present, popped] at known
    simpa [inputs, present] using (Ring.pop?_eq_none_iff ring).mp empty

theorem collectUpTo_all (mailbox : Mailbox) (count : Nat) (enough : mailbox.inputs.length ≤ count) :
    (mailbox.collectUpTo count).1 = mailbox.inputs ∧ (mailbox.collectUpTo count).2.inputs = [] := by
  induction count generalizing mailbox with
  | zero =>
    have empty : mailbox.inputs = [] := List.length_eq_zero_iff.mp (Nat.le_zero.mp enough)
    exact ⟨empty.symm, empty⟩
  | succ count ih =>
    simp only [collectUpTo]
    cases known : mailbox.collect? with
    | none =>
      have empty := inputs_collect?_none known
      exact ⟨empty.symm, empty⟩
    | some taken =>
      obtain ⟨event, rest⟩ := taken
      have first := inputs_collect?_some known
      rw [first, List.length_cons] at enough
      obtain ⟨events, emptied⟩ := ih rest (by omega)
      rw [first, ← events]
      exact ⟨rfl, emptied⟩

theorem collectAll_all (mailbox : Mailbox) :
    mailbox.collectAll.1 = mailbox.inputs ∧ mailbox.collectAll.2.inputs = [] :=
  collectUpTo_all mailbox _ (Nat.le_of_eq mailbox.incomingLength_eq.symm)

def Command.offers : Command → List InputEvent
  | .deliver event => [event]
  | _ => []

def Command.accepted (command : Command) (answer : Answer) : List InputEvent :=
  if answer = .accepted true then command.offers else []

theorem inputs_apply (mailbox : Mailbox) (command : Command) (leaves : command ≠ .collect) :
    (mailbox.apply command).2.inputs =
      mailbox.inputs ++ command.accepted (mailbox.apply command).1 := by
  cases command with
  | send bytes =>
    have kept : (mailbox.apply (.send bytes)).2.incoming = mailbox.incoming :=
      mailbox.apply_spares (.send bytes)
    simp [inputs, kept, Command.accepted, Command.offers]
  | fetch position =>
    have kept : (mailbox.apply (.fetch position)).2.incoming = mailbox.incoming :=
      mailbox.apply_spares (.fetch position)
    simp [inputs, kept, Command.accepted, Command.offers]
  | deliver event =>
    simp only [apply, Answer.attempt]
    cases known : mailbox.deliver? event with
    | none => simp [Command.accepted]
    | some next => simp [Command.accepted, Command.offers, inputs_deliver? known]
  | collect => exact absurd rfl leaves
  | describe => simp [apply, Command.accepted]

end Mailbox

namespace Lane

theorem mailbox?_setMailbox (lane : Lane) {generation : Nat} {before : Mailbox}
    (present : lane.mailbox? generation = some before) (mailbox : Mailbox) (other : Nat) :
    (lane.setMailbox generation mailbox).mailbox? other =
      if other = generation then some mailbox else lane.mailbox? other := by
  by_cases current : generation = lane.generation
  · simp only [setMailbox, mailbox?, Lane.generation, current, if_true]
    split <;> simp [*]
  · have old : lane.retired[generation]? = some before := by
      simpa [mailbox?, current] using present
    obtain ⟨bound, -⟩ := Array.getElem?_eq_some_iff.mp old
    simp only [Lane.generation] at current
    by_cases same : other = generation
    · subst same
      simp [setMailbox, mailbox?, Lane.generation, current, bound]
    · simp [setMailbox, mailbox?, Lane.generation, current, same, Ne.symm same]
      rfl

theorem mailbox?_replace (lane : Lane) (mailbox : Mailbox) (generation : Nat) :
    (lane.replace mailbox).mailbox? generation =
      if generation = lane.generation + 1 then some mailbox else lane.mailbox? generation := by
  simp only [replace, mailbox?, Lane.generation, Array.size_push, Array.getElem?_push]
  rfl

theorem mailbox?_next (lane : Lane) : lane.mailbox? (lane.generation + 1) = none := by
  simp [mailbox?, Lane.generation]

end Lane

namespace Mailboxes

def waiting (mail : Mailboxes) (handle : Handle) : List InputEvent :=
  ((mail.held? handle).map Mailbox.inputs).getD []

theorem withMailbox_eq_setHeld (mail : Mailboxes) (name : RoleName) (mailbox : Mailbox) :
    mail.withMailbox name mailbox = mail.setHeld (mail.hold name) mailbox := by
  simp [withMailbox, setHeld, hold, Lane.setMailbox]

theorem held?_setHeld (mail : Mailboxes) {handle : Handle} {before : Mailbox}
    (present : mail.held? handle = some before) (mailbox : Mailbox) (other : Handle) :
    (mail.setHeld handle mailbox).held? other =
      if other = handle then some mailbox else mail.held? other := by
  obtain ⟨role, generation⟩ := handle
  obtain ⟨place, number⟩ := other
  by_cases here : place = role
  · subst here
    simp [held?, setHeld, Lane.mailbox?_setMailbox _ present]
  · simp [held?, setHeld, here]

theorem waiting_setHeld (mail : Mailboxes) {handle : Handle} {before : Mailbox}
    (present : mail.held? handle = some before) (mailbox : Mailbox) (other : Handle) :
    (mail.setHeld handle mailbox).waiting other =
      if other = handle then mailbox.inputs else mail.waiting other := by
  rw [waiting, held?_setHeld mail present]
  split <;> rfl

theorem waiting_hold (mail : Mailboxes) (name : RoleName) :
    mail.waiting (mail.hold name) = (mail.mailbox name).inputs := by
  simp [waiting]

theorem waiting_replace (mail : Mailboxes) (role : Role) {mailbox : Mailbox}
    (empty : mailbox.inputs = []) (handle : Handle) :
    waiting ⟨mail.lanes.set role ((mail.lanes.get role).replace mailbox)⟩ handle =
      mail.waiting handle := by
  obtain ⟨place, generation⟩ := handle
  by_cases here : place = role
  · subst here
    simp only [waiting, held?, PerRole.get_set_self, Lane.mailbox?_replace]
    split
    next same => simp [same, Lane.mailbox?_next, empty]
    next => rfl
  · simp [waiting, held?, here]

theorem waiting_collectAll (mail : Mailboxes) (name : RoleName) :
    (mail.collectAll name).1 = mail.waiting (mail.hold name) ∧
      ∀ handle, (mail.collectAll name).2.waiting handle =
        if handle = mail.hold name then [] else mail.waiting handle := by
  obtain ⟨events, emptied⟩ := (mail.mailbox name).collectAll_all
  refine ⟨?_, ?_⟩
  · rw [waiting_hold]
    exact events
  · intro handle
    simp only [collectAll]
    rw [withMailbox_eq_setHeld, waiting_setHeld mail (mail.held?_hold name), emptied]

def offers (mail : Mailboxes) : Command → List (Handle × InputEvent)
  | .deliver name port buffer =>
    (ChannelData.canonical? buffer).toList.map fun data =>
      (mail.hold name, .ofChannelData name.role port data)
  | .through handle command => command.offers.map fun event => (handle, event)
  | _ => []

def accepted (mail : Mailboxes) (command : Command) : List (Handle × InputEvent) :=
  if (mail.apply command).1 = .accepted true then mail.offers command else []

def Command.CollectsFrom (role : Role) : Command → Prop
  | .collect name => name.role = role
  | .through handle command => handle.role = role ∧ command = .collect
  | _ => False

end Mailboxes

def Handle.select (handle : Handle) (entries : List (Handle × InputEvent)) : List InputEvent :=
  (entries.filter fun entry => entry.1 = handle).map Prod.snd

theorem Handle.select_append (handle : Handle) (left right : List (Handle × InputEvent)) :
    handle.select (left ++ right) = handle.select left ++ handle.select right := by
  simp [select]

theorem Handle.select_same (handle : Handle) (events : List InputEvent) :
    handle.select (events.map fun event => (handle, event)) = events := by
  induction events with
  | nil => rfl
  | cons event rest ih => simpa [select] using ih

theorem Handle.select_other {handle other : Handle} (different : handle ≠ other)
    (events : List InputEvent) :
    handle.select (events.map fun event => (other, event)) = [] := by
  simp [select, Ne.symm different]

namespace Mailboxes

theorem waiting_setHeld_apply (mail : Mailboxes) {handle : Handle} {mailbox : Mailbox}
    (present : mail.held? handle = some mailbox) (command : Mailbox.Command)
    (leaves : command ≠ .collect) (other : Handle) :
    (mail.setHeld handle (mailbox.apply command).2).waiting other =
      mail.waiting other ++
        if other = handle then command.accepted (mailbox.apply command).1 else [] := by
  rw [waiting_setHeld mail present]
  by_cases same : other = handle
  · subst same
    simp [waiting, present, Mailbox.inputs_apply mailbox command leaves]
  · simp [same]

theorem waiting_apply (mail : Mailboxes) (command : Command) (handle : Handle)
    (leaves : ¬ command.CollectsFrom handle.role) :
    (mail.apply command).2.waiting handle =
      mail.waiting handle ++ handle.select (mail.accepted command) := by
  cases command with
  | renew name capacity =>
    simp only [apply, renew, accepted, reduceCtorEq, if_false]
    rw [mail.waiting_replace name.role (Mailbox.inputs_make capacity)]
    exact (List.append_nil _).symm
  | clear name =>
    simp only [apply, clear, accepted, reduceCtorEq, if_false]
    rw [mail.waiting_replace name.role rfl]
    exact (List.append_nil _).symm
  | send name port buffer =>
    have silent : handle.select (mail.accepted (.send name port buffer)) = [] := by
      simp [accepted, offers, Handle.select]
    rw [silent, List.append_nil]
    simp only [apply, Answer.attempt]
    cases known : mail.send? name port buffer with
    | none => rfl
    | some next =>
      simp only [send?, Option.bind_eq_bind, Option.bind_eq_some_iff] at known
      obtain ⟨message, -, mailbox, room, same⟩ := known
      cases same
      simp only [Option.getD_some]
      rw [withMailbox_eq_setHeld, waiting_setHeld mail (mail.held?_hold name)]
      split
      next here =>
        rw [here, waiting_hold, Mailbox.inputs, Mailbox.incoming_send? room, Mailbox.inputs]
      next => rfl
  | deliver name port buffer =>
    cases known : mail.deliver? name port buffer with
    | none => simp [apply, Answer.attempt, accepted, known, Handle.select]
    | some next =>
      simp only [apply, Answer.attempt, accepted, known]
      simp only [deliver?, Option.bind_eq_bind, Option.bind_eq_some_iff] at known
      obtain ⟨data, canonical, mailbox, room, same⟩ := known
      cases same
      simp only [Option.getD_some, Option.isSome_some, if_true, offers, canonical]
      rw [withMailbox_eq_setHeld, waiting_setHeld mail (mail.held?_hold name)]
      by_cases here : handle = mail.hold name
      · subst here
        simp [Handle.select, waiting_hold, Mailbox.inputs_deliver? room]
      · simp [Handle.select, here, Ne.symm here]
  | fetch name position =>
    have kept :=
      mail.waiting_setHeld_apply (mail.held?_hold name) (.fetch position) (by simp) handle
    simp only [apply, onMailbox, withMailbox_eq_setHeld, kept]
    simp [accepted, offers, Handle.select, Mailbox.Command.accepted, Mailbox.Command.offers]
  | collect name =>
    -- Events are taken, but from a mailbox of the other role.
    have elsewhere : handle ≠ mail.hold name := by
      rintro rfl
      exact leaves rfl
    simp only [apply, onMailbox, withMailbox_eq_setHeld]
    rw [waiting_setHeld mail (mail.held?_hold name), if_neg elsewhere]
    simp [accepted, offers, Handle.select]
  | through held command =>
    cases present : mail.held? held with
    | none => simp [apply, accepted, present, Handle.select]
    | some mailbox =>
      simp only [apply, accepted, offers, present]
      by_cases collects : command = .collect
      · subst collects
        have elsewhere : handle ≠ held := by
          rintro rfl
          exact leaves ⟨rfl, rfl⟩
        rw [waiting_setHeld mail present, if_neg elsewhere]
        simp [Mailbox.Command.offers, Handle.select]
      · rw [mail.waiting_setHeld_apply present command collects]
        by_cases here : handle = held
        · subst here
          simp only [Mailbox.Command.accepted, if_true]
          split
          · rw [Handle.select_same]
          · rfl
        · simp only [here, if_false]
          split
          · rw [Handle.select_other here]
          · rfl

end Mailboxes

end AudioHost
