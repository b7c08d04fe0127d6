import AudioHost.Proofs.CurrentMail

/-!
# Uses of the mail

Every operation on the mail uses one mailbox, by its handle or by the name of a role, or puts a new
mailbox in force for a role. Told by handles, what it does to all mailboxes is one equation.
-/

set_option autoImplicit false

namespace AudioHost

def Handle.next (handle : Handle) : Handle := ⟨handle.role, handle.generation + 1⟩

theorem Handle.next_ne (handle : Handle) : handle.next ≠ handle := by
  obtain ⟨role, generation⟩ := handle
  simp [next]

namespace Mailboxes

inductive Use where
  | command (command : Command)
  | hold (name : RoleName)
  | outgoingLength (handle : Handle)
  | incomingLength (handle : Handle)

inductive Sight where
  | inside (sight : Mailbox.Sight)
  | held (handle : Handle)

def nothing : Sight := .inside (.answer .none)

def use (mail : Mailboxes) : Use → Sight × Mailboxes
  | .command command => (mail.apply command).map (fun answer => .inside (.answer answer)) id
  | .hold name => (.held (mail.hold name), mail)
  | .outgoingLength handle =>
    match mail.held? handle with
    | none => (nothing, mail)
    | some mailbox => (.inside (.count mailbox.outgoingLength), mail)
  | .incomingLength handle =>
    match mail.held? handle with
    | none => (nothing, mail)
    | some mailbox => (.inside (.count mailbox.incomingLength), mail)

/-- What was done, and what was seen of it each time. -/
def trace (mail : Mailboxes) : List Use → List (Use × Sight)
  | [] => []
  | use :: rest => (use, (mail.use use).1) :: (mail.use use).2.trace rest

def useAll (mail : Mailboxes) (uses : List Use) : Mailboxes :=
  uses.foldl (fun mail use => (mail.use use).2) mail

/-- The mailbox that is used, and what is done with it. A malformed message uses none. -/
def aim? (mail : Mailboxes) : Use → Option (Handle × Mailbox.Use)
  | .command (.send name _ buffer) =>
    (Message.canonical? buffer).map fun message => (mail.hold name, .command (.send message.bytes))
  | .command (.deliver name port buffer) =>
    (ChannelData.canonical? buffer).map fun data =>
      (mail.hold name, .command (.deliver (.ofChannelData name.role port data)))
  | .command (.fetch name position) => some (mail.hold name, .command (.fetch position))
  | .command (.collect name) => some (mail.hold name, .command .collect)
  | .command (.through handle command) => some (handle, .command command)
  | .outgoingLength handle => some (handle, .outgoingLength)
  | .incomingLength handle => some (handle, .incomingLength)
  | .command (.renew ..) | .command (.clear _) | .hold _ => none

/-- The role that gets another mailbox, and that mailbox. -/
def Use.replacement? : Use → Option (Role × Mailbox)
  | .command (.renew name capacity) => some (name.role, .make capacity)
  | .command (.clear name) => some (name.role, .closed)
  | _ => none

def replace (mail : Mailboxes) (role : Role) (mailbox : Mailbox) : Mailboxes :=
  ⟨mail.lanes.set role ((mail.lanes.get role).replace mailbox)⟩

theorem held?_replace (mail : Mailboxes) (role : Role) (mailbox : Mailbox) (handle : Handle) :
    (mail.replace role mailbox).held? handle =
      if handle = (mail.hold role).next then some mailbox else mail.held? handle := by
  obtain ⟨place, generation⟩ := handle
  by_cases here : place = role
  · subst here
    simp [held?, replace, Lane.mailbox?_replace, Handle.next, hold]
  · simp [held?, replace, Handle.next, hold, here]

theorem hold_replace (mail : Mailboxes) (role : Role) (mailbox : Mailbox) (name : RoleName) :
    (mail.replace role mailbox).hold name =
      if name.role = role then (mail.hold role).next else mail.hold name := by
  by_cases here : name.role = role
  · simp [hold, replace, Lane.replace, Lane.generation, Handle.next, here]
  · simp [hold, replace, here]

/-- What a use that aims at a mailbox shows, and what it leaves. -/
structure Aimed (mail : Mailboxes) (use : Use) (handle : Handle) (there : Mailbox.Use) : Prop where
  sight : (mail.use use).1 =
    ((mail.held? handle).map fun mailbox => Sight.inside (mailbox.use there).1).getD nothing
  held : ∀ other, (mail.use use).2.held? other =
    if other = handle then (mail.held? handle).map fun mailbox => (mailbox.use there).2
    else mail.held? other
  hold : ∀ name, (mail.use use).2.hold name = mail.hold name

theorem aimed_of_setHeld {mail : Mailboxes} {use : Use} {handle : Handle} {there : Mailbox.Use}
    {before : Mailbox} (present : mail.held? handle = some before)
    (same : mail.use use =
      (.inside (before.use there).1, mail.setHeld handle (before.use there).2)) :
    mail.Aimed use handle there where
  sight := by simp [same, present]
  held other := by simp [same, held?_setHeld mail present, present]
  hold name := by simp [same, hold_setHeld]

theorem aimed_of_kept {mail : Mailboxes} {use : Use} {handle : Handle} {there : Mailbox.Use}
    (sight : (mail.use use).1 =
      ((mail.held? handle).map fun mailbox => Sight.inside (mailbox.use there).1).getD nothing)
    (kept : (mail.use use).2 = mail)
    (idle : ∀ mailbox, mail.held? handle = some mailbox → (mailbox.use there).2 = mailbox) :
    mail.Aimed use handle there where
  sight := sight
  held other := by
    rw [kept]
    split
    next same =>
      subst same
      cases present : mail.held? other with
      | none => rfl
      | some mailbox => simp [idle mailbox present]
    next => rfl
  hold name := by rw [kept]

theorem aimed (mail : Mailboxes) {use : Use} {handle : Handle} {there : Mailbox.Use}
    (aims : mail.aim? use = some (handle, there)) : mail.Aimed use handle there := by
  cases use with
  | command command =>
    cases command with
    | renew name capacity => cases aims
    | clear name => cases aims
    | send name port buffer =>
      obtain ⟨message, canonical, same⟩ := Option.map_eq_some_iff.mp aims
      cases same
      cases known : (mail.mailbox name).send? message.bytes with
      | none =>
        -- A mailbox that refuses is not written back; it would be the same one.
        refine aimed_of_kept ?_ ?_ ?_
        · simp [use, apply, Answer.attempt, send?, canonical, known, Mailbox.use, Mailbox.apply]
        · simp [use, apply, Answer.attempt, send?, canonical, known]
        · simp [Mailbox.use, Mailbox.apply, Answer.attempt, known]
      | some next =>
        refine aimed_of_setHeld (mail.held?_hold name) ?_
        simp [use, apply, Answer.attempt, send?, canonical, known, Mailbox.use, Mailbox.apply,
          withMailbox_eq_setHeld]
    | deliver name port buffer =>
      obtain ⟨data, canonical, same⟩ := Option.map_eq_some_iff.mp aims
      cases same
      cases known : (mail.mailbox name).deliver? (.ofChannelData name.role port data) with
      | none =>
        refine aimed_of_kept ?_ ?_ ?_
        · simp [use, apply, Answer.attempt, deliver?, canonical, known, Mailbox.use, Mailbox.apply]
        · simp [use, apply, Answer.attempt, deliver?, canonical, known]
        · simp [Mailbox.use, Mailbox.apply, Answer.attempt, known]
      | some next =>
        refine aimed_of_setHeld (mail.held?_hold name) ?_
        simp [use, apply, Answer.attempt, deliver?, canonical, known, Mailbox.use, Mailbox.apply,
          withMailbox_eq_setHeld]
    | fetch name position =>
      cases aims
      refine aimed_of_setHeld (mail.held?_hold name) ?_
      simp [use, apply, onMailbox, withMailbox_eq_setHeld, Mailbox.use]
    | collect name =>
      cases aims
      refine aimed_of_setHeld (mail.held?_hold name) ?_
      simp [use, apply, onMailbox, withMailbox_eq_setHeld, Mailbox.use]
    | through held command =>
      cases aims
      cases present : mail.held? handle with
      | none =>
        refine aimed_of_kept ?_ ?_ ?_
        · simp [use, apply, present, nothing]
        · simp [use, apply, present]
        · simp [present]
      | some mailbox =>
        refine aimed_of_setHeld present ?_
        simp [use, apply, present, Mailbox.use]
  | hold name => cases aims
  | outgoingLength held =>
    cases aims
    refine aimed_of_kept ?_ ?_ fun _ _ => rfl
    · simp only [use]
      split <;> simp_all [Mailbox.use]
    · simp only [use]
      split <;> rfl
  | incomingLength held =>
    cases aims
    refine aimed_of_kept ?_ ?_ fun _ _ => rfl
    · simp only [use]
      split <;> simp_all [Mailbox.use]
    · simp only [use]
      split <;> rfl

theorem use_replacement (mail : Mailboxes) {use : Use} {role : Role} {mailbox : Mailbox}
    (replaces : use.replacement? = some (role, mailbox)) :
    mail.use use = (nothing, mail.replace role mailbox) := by
  cases use with
  | command command =>
    cases command with
    | renew name capacity =>
      cases replaces
      rfl
    | clear name =>
      cases replaces
      rfl
    | _ => cases replaces
  | _ => cases replaces

/-- What is seen of a use that leaves all mail as it is. -/
def idleSight (mail : Mailboxes) : Use → Sight
  | .hold name => .held (mail.hold name)
  | _ => .inside (.answer (.accepted false))

theorem use_idle (mail : Mailboxes) {use : Use} (aimless : mail.aim? use = none)
    (keeps : use.replacement? = none) : mail.use use = (mail.idleSight use, mail) := by
  cases use with
  | command command =>
    cases command with
    | send name port buffer =>
      have malformed : Message.canonical? buffer = none := by simpa [aim?] using aimless
      simp [use, apply, Answer.attempt, send?, malformed, idleSight]
    | deliver name port buffer =>
      have malformed : ChannelData.canonical? buffer = none := by simpa [aim?] using aimless
      simp [use, apply, Answer.attempt, deliver?, malformed, idleSight]
    | renew name capacity => cases keeps
    | clear name => cases keeps
    | fetch name position => cases aimless
    | collect name => cases aimless
    | through handle command => cases aimless
  | hold name => rfl
  | outgoingLength handle => cases aimless
  | incomingLength handle => cases aimless

theorem made_of_replacement {use : Use} {role : Role} {mailbox : Mailbox}
    (replaces : use.replacement? = some (role, mailbox)) : ∃ size, mailbox = .make size := by
  cases use with
  | command command =>
    cases command with
    | renew name size => cases replaces; exact ⟨size, rfl⟩
    | clear => cases replaces; exact ⟨⟨0, 0⟩, rfl⟩
    | _ => cases replaces
  | _ => cases replaces

/-- The three things that a use may do. -/
inductive Effect (mail : Mailboxes) (use : Use) : Prop where
  | aimed (handle : Handle) (there : Mailbox.Use) (aims : mail.aim? use = some (handle, there))
      (effect : mail.Aimed use handle there)
  | replaced (role : Role) (mailbox : Mailbox) (aimless : mail.aim? use = none)
      (replaces : use.replacement? = some (role, mailbox))
      (effect : mail.use use = (nothing, mail.replace role mailbox))
  | idle (aimless : mail.aim? use = none) (keeps : use.replacement? = none)
      (effect : mail.use use = (mail.idleSight use, mail))

theorem effect (mail : Mailboxes) (use : Use) : mail.Effect use := by
  cases aims : mail.aim? use with
  | some aim => exact .aimed aim.1 aim.2 aims (mail.aimed aims)
  | none =>
    cases replaces : use.replacement? with
    | some other => exact .replaced other.1 other.2 aims replaces (mail.use_replacement replaces)
    | none => exact .idle aims replaces (mail.use_idle aims replaces)

end Mailboxes

end AudioHost
