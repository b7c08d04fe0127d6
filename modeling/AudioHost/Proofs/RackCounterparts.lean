import AudioHost.Proofs.Counterparts
import AudioHost.Proofs.RackPairs
import Mathlib.Data.List.Forall2

/-!
# Racks that count from a start

A device that answers by what it is asked alone, and leaves the hub as it is, cannot tell what there
was before it. Two racks with such devices stay the same from a start on, but for the numbers of
their devices and mailboxes and for the time.
-/

set_option autoImplicit false

namespace AudioHost

/-- Answers by what it is asked, and does nothing to the hub. -/
def Device.IsForgetful (device : Device) : Prop :=
  ∃ outcome : Request → Outcome, ∀ journal target request,
    device.respond journal target request = .finish (outcome request)

/-- Makes the same device for a role each time. -/
def Registration.IsForgetful (registration : Registration) : Prop :=
  ∃ device : Role → Device, ∀ serial role,
    registration.make serial role = device role ∧ (device role).IsForgetful

def Catalog.IsForgetful (catalog : Catalog) : Prop :=
  ∀ registration ∈ catalog.registrations, registration.IsForgetful

def Instance.after (before : Journal) (target : Instance) : Instance :=
  ⟨target.registration, before.madeBy target.registration + target.serial⟩

/-- The same entry, but for the number of the device and the time. -/
inductive Record.Counterpart (first second : Journal) : Record → Record → Prop where
  | made (target : Instance) (role : Role) :
      Counterpart first second (.made (target.after first) role) (.made (target.after second) role)
  | called (target : Instance) (request : Request) (clockDummies mountedDummies : PerRole Bool)
      (here there : Clock) (outcome : Outcome) :
      Counterpart first second
        (.called ⟨target.after first, request, clockDummies, mountedDummies, [], here, outcome⟩)
        (.called ⟨target.after second, request, clockDummies, mountedDummies, [], there, outcome⟩)

/-- The same entries since a start. -/
def Journal.Counterparts (first second left right : Journal) : Prop :=
  ∃ here there, left.toList = first.toList ++ here ∧ right.toList = second.toList ++ there ∧
    List.Forall₂ (Record.Counterpart first second) here there

namespace Journal

variable {first second left right : Journal}

theorem counterparts_refl (first second : Journal) : Counterparts first second first second :=
  ⟨[], [], by simp, by simp, .nil⟩

theorem Counterparts.push (same : Counterparts first second left right) {one other : Record}
    (entry : Record.Counterpart first second one other) :
    Counterparts first second (left.push one) (right.push other) := by
  obtain ⟨here, there, before, also, entries⟩ := same
  refine ⟨here ++ [one], there ++ [other], by simp [before], by simp [also], ?_⟩
  exact List.rel_append entries (.cons entry .nil)

theorem Counterparts.madeBy (same : Counterparts first second left right) (registration : Nat) :
    ∃ serial, left.madeBy registration = first.madeBy registration + serial ∧
      right.madeBy registration = second.madeBy registration + serial := by
  obtain ⟨here, there, before, also, entries⟩ := same
  simp only [Journal.madeBy, before, also, List.countP_append]
  refine ⟨_, rfl, ?_⟩
  congr 1
  clear before also
  -- Entries of a pair tell of devices of the same driver, so both count the same ones.
  induction entries with
  | nil => rfl
  | cons entry rest ih => cases entry <;> simp [List.countP_cons, ih, Instance.after]

end Journal

/-- The same backend, but for its number. -/
inductive Backend.Counterpart (first second : Journal) : Backend → Backend → Prop where
  | dummy : Counterpart first second .dummy .dummy
  | external (target : Instance) (device : Device) (forgetful : device.IsForgetful) :
      Counterpart first second (.external (target.after first) device)
        (.external (target.after second) device)

theorem Backend.Counterpart.isDummy {first second : Journal} {one other : Backend}
    (same : Counterpart first second one other) : one.isDummy = other.isDummy := by
  cases same <;> rfl

theorem Catalog.mem_of_choose {catalog : Catalog} {role : Role} {driver : String}
    {registration : Registration} (chosen : catalog.choose role driver = .registered registration) :
    registration ∈ catalog.registrations := by
  simp only [Catalog.choose] at chosen
  split at chosen
  · cases chosen
  · split at chosen
    next known =>
      cases chosen
      exact List.mem_of_find?_eq_some known
    next => split at chosen <;> cases chosen

namespace Rack

/-- Two racks are the same from a start on. While a relay waits, either both signals are the same
or there is no input that they could tell of. -/
structure Counterparts (first second : Rack) (awake : Prop) (left right : Rack) : Prop where
  catalog : left.catalog = right.catalog
  forgetful : left.catalog.IsForgetful
  mounts : ∀ role, Option.Rel (SameMount (Backend.Counterpart first.journal second.journal))
    (left.mounts.get role) (right.mounts.get role)
  dummies : left.hub.clock.dummies = right.hub.clock.dummies
  times : left.hub.time = first.hub.time ∧ right.hub.time = second.hub.time
  mail : Mailboxes.Counterparts first.hub.mail.counts second.hub.mail.counts
    left.hub.mail right.hub.mail
  journal : Journal.Counterparts first.journal second.journal left.journal right.journal
  signals : awake → left.hub.signal = right.hub.signal ∨
    (left.hub.mail.mailbox .midi).incomingLength = 0

namespace Counterparts

variable {first second left right : Rack} {awake : Prop}

theorem backend (same : Counterparts first second awake left right) (name : RoleName) :
    Backend.Counterpart first.journal second.journal (left.backend name) (right.backend name) :=
  SameMounts.backend same.mounts .dummy name

theorem mountedDummies (same : Counterparts first second awake left right) :
    left.mountedDummies = right.mountedDummies := by
  simp only [Rack.mountedDummies, (same.backend _).isDummy]

theorem weaken {other : Prop} (same : Counterparts first second awake left right)
    (fewer : other → awake) : Counterparts first second other left right :=
  { same with signals := fun wakes => same.signals (fewer wakes) }

end Counterparts

section

variable {first second left right : Rack} {awake : Prop}

theorem Counterparts.make (same : Counterparts first second awake left right) (role : Role)
    {registration : Registration} (forgetful : registration.IsForgetful) :
    Backend.Counterpart first.journal second.journal (left.make registration role).1
        (right.make registration role).1 ∧
      Counterparts first second awake (left.make registration role).2
        (right.make registration role).2 := by
  obtain ⟨device, makes⟩ := forgetful
  obtain ⟨serial, here, there⟩ := same.journal.madeBy registration.number
  let target : Instance := ⟨registration.number, serial⟩
  simp only [Rack.make, here, there, (makes _ role).1]
  refine ⟨.external target (device role) (makes 0 role).2, ?_⟩
  exact { same with journal := same.journal.push (.made target role) }

theorem Counterparts.choose (same : Counterparts first second awake left right) (role : Role)
    (driver : String) :
    SameChoice (Backend.Counterpart first.journal second.journal) (Counterparts first second awake)
      left right role (left.catalog.choose role driver) (right.catalog.choose role driver) := by
  rw [← same.catalog]
  cases chosen : left.catalog.choose role driver with
  | registered registration =>
    have forgetful := same.forgetful registration (Catalog.mem_of_choose chosen)
    obtain ⟨backend, made⟩ := same.make role forgetful
    exact .registered registration registration backend made
  | dummy => exact .dummy
  | leftOut => exact .leftOut
  | unknown => exact .unknown

theorem Counterparts.replace (same : Counterparts first second awake left right) (role : Role)
    {mailbox : Mailbox} (empty : mailbox.incomingLength = 0) (wakes : awake) :
    left.hub.signal = right.hub.signal ∨
      ((left.hub.mail.replace role mailbox).mailbox .midi).incomingLength = 0 := by
  cases role with
  | midi => exact .inr empty
  | audio => exact same.signals wakes

end

theorem paired_counterparts (first second : Rack) (awake : Prop) :
    Paired (Backend.Counterpart first.journal second.journal)
      (Counterparts first second awake) where
  dummy := .dummy
  mounts _ _ role same := same.mounts role
  choose _ _ role driver same := same.choose role driver
  note _ _ notice same := { same with }
  call left right role one other request same backend := by
    cases backend with
    | dummy => cases request <;> exact ⟨rfl, { same with }⟩
    | external target device forgetful =>
      -- It finishes without an action, so both hubs are as they were, the clock included.
      obtain ⟨outcome, responds⟩ := forgetful
      simp only [call, responds, Conduct.run]
      refine ⟨rfl, { same with journal := same.journal.push ?_ }⟩
      rw [same.dummies, same.mountedDummies]
      exact .called ..
  mount left right role driver one other same backend :=
    { same with
      mounts := SameMounts.set same.mounts role (.some ⟨rfl, backend⟩)
      dummies := congrArg₂ (PerRole.set · _ ·) same.dummies backend.isDummy }
  dismount left right role same :=
    { same with
      mounts := SameMounts.set same.mounts role .none
      dummies := congrArg (PerRole.set · _ _) same.dummies }
  clear left right role same :=
    { same with
      mail := same.mail.replace role.name.role .closed
      signals := same.replace role.name.role rfl }
  renew left right role capacity same :=
    { same with
      mail := same.mail.replace role.name.role (.make capacity)
      signals := same.replace role.name.role (Mailbox.make_holds capacity).incomingLength_eq }

end Rack

/-- Asks for the position of the clock, or moves it. -/
def Hub.Action.usesTime : Action → Bool
  | .report .. | .jump _ | .time | .describe => true
  | .deliver .. | .onMailboxes _ => false

def Hub.Action.after (before : PerRole Nat) : Action → Action
  | .onMailboxes command => .onMailboxes (command.after before)
  | action => action

theorem Hub.onMailboxes_eq (hub : Hub) (command : Mailboxes.Command) :
    (hub.onMailboxes command).1 = (hub.mail.apply command).1 ∧
      (hub.onMailboxes command).2.mail = (hub.mail.apply command).2 ∧
      (hub.onMailboxes command).2.clock = hub.clock ∧
      (hub.onMailboxes command).2.signal = hub.signal := by
  cases command <;> exact ⟨rfl, rfl, rfl, rfl⟩

namespace Rack.Counterparts

variable {first second left right : Rack} {awake : Prop}

theorem deliver (same : Counterparts first second awake left right) (name : RoleName)
    (port : UInt16) (buffer : List UInt8) :
    (left.hub.perform (.deliver name port buffer)).1 =
        (right.hub.perform (.deliver name port buffer)).1 ∧
      Counterparts first second awake
        { left with hub := (left.hub.perform (.deliver name port buffer)).2 }
        { right with hub := (right.hub.perform (.deliver name port buffer)).2 } := by
  obtain ⟨answer, mail⟩ := same.mail.apply (.deliver name port buffer)
  simp only [Mailboxes.Command.after, Mailboxes.apply, Answer.attempt] at answer mail
  simp only [Hub.perform, Hub.deliver?, Answer.attempt, Option.isSome_map, answer, true_and]
  cases here : left.hub.mail.deliver? name port buffer with
  | none =>
    have there : right.hub.mail.deliver? name port buffer = none := by simpa [here] using answer
    rw [there]
    exact same
  | some next =>
    have some : (right.hub.mail.deliver? name port buffer).isSome = true := by
      simpa [here] using answer
    obtain ⟨other, there⟩ := Option.isSome_iff_exists.mp some
    rw [here, there] at mail
    rw [there]
    -- An event that is taken raises both signals.
    exact { same with mail, signals := fun _ => .inl rfl }

theorem perform (same : Counterparts first second awake left right)
    (lowered : awake → left.hub.signal = right.hub.signal) {action : Hub.Action}
    (timeless : action.usesTime = false) :
    (left.hub.perform (action.after first.hub.mail.counts)).1 =
        (right.hub.perform (action.after second.hub.mail.counts)).1 ∧
      Counterparts first second awake
        { left with hub := (left.hub.perform (action.after first.hub.mail.counts)).2 }
        { right with hub := (right.hub.perform (action.after second.hub.mail.counts)).2 } := by
  cases action with
  | deliver name port buffer => exact same.deliver name port buffer
  | onMailboxes command =>
    obtain ⟨answer, mail⟩ := same.mail.apply command
    obtain ⟨here, mailHere, clockHere, signalHere⟩ :=
      left.hub.onMailboxes_eq (command.after first.hub.mail.counts)
    obtain ⟨there, mailThere, clockThere, signalThere⟩ :=
      right.hub.onMailboxes_eq (command.after second.hub.mail.counts)
    refine ⟨(here.trans answer).trans there.symm, ?_⟩
    refine ⟨same.catalog, same.forgetful, same.mounts, ?_, ?_, ?_, same.journal, ?_⟩
    · simpa only [Hub.Action.after, Hub.perform, clockHere, clockThere] using same.dummies
    · simpa only [Hub.Action.after, Hub.perform, Hub.time, clockHere, clockThere] using same.times
    · simpa only [Hub.Action.after, Hub.perform, mailHere, mailThere] using mail
    · intro wakes
      have equal := lowered wakes
      left
      simpa only [Hub.Action.after, Hub.perform, signalHere, signalThere] using equal
  | report => cases timeless
  | jump => cases timeless
  | time => cases timeless
  | describe => cases timeless

end Rack.Counterparts

end AudioHost
