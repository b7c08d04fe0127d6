import AudioHost.Proofs.MailUses
import AudioHost.Session

/-!
# Names of roles

Audio has two names. No operation that takes the name of a role tells them apart: whichever of the
two it is given, it shows the same and leaves the same behind.
-/

set_option autoImplicit false

namespace AudioHost

/-- The name that is no alias. -/
def RoleName.resolved (name : RoleName) : RoleName := name.role.name

@[simp] theorem RoleName.role_resolved (name : RoleName) : name.resolved.role = name.role :=
  Role.role_name name.role

/-- How operations are carried out: what each of them shows, and the state it leaves. -/
abbrev Step (State Operation Sight : Type) := State → Operation → Sight × State

namespace Step

variable {State Operation Sight : Type}

/-- What is seen of a run of operations, and the state it ends in. -/
def run (step : Step State Operation Sight) (state : State) : List Operation → List Sight × State
  | [] => ([], state)
  | operation :: rest =>
    let (sight, state) := step state operation
    let (sights, state) := run step state rest
    (sight :: sights, state)

theorem run_append (step : Step State Operation Sight) (state : State)
    (first second : List Operation) :
    step.run state (first ++ second) =
      ((step.run state first).1 ++ (step.run (step.run state first).2 second).1,
        (step.run (step.run state first).2 second).2) := by
  induction first generalizing state with
  | nil => rfl
  | cons operation rest ih => simp only [List.cons_append, run, ih]

/-- Names may be spelled otherwise anywhere in a run: what is shown and what is left stay. -/
def BlindTo (step : Step State Operation Sight) (resolved : Operation → Operation) : Prop :=
  ∀ state operations others, operations.map resolved = others.map resolved →
    step.run state operations = step.run state others

theorem run_resolved {step : Step State Operation Sight} {resolved : Operation → Operation}
    (same : ∀ state operation, step state (resolved operation) = step state operation)
    (state : State) (operations : List Operation) :
    step.run state (operations.map resolved) = step.run state operations := by
  induction operations generalizing state with
  | nil => rfl
  | cons operation rest ih => simp only [List.map_cons, run, same, ih]

theorem blindTo {step : Step State Operation Sight} {resolved : Operation → Operation}
    (same : ∀ state operation, step state (resolved operation) = step state operation) :
    step.BlindTo resolved := by
  intro state operations others means
  rw [← run_resolved same, means, run_resolved same]

theorem run_related {step : Step State Operation Sight} {related : State → State → Prop}
    (kept : ∀ left right operation, related left right →
      (step left operation).1 = (step right operation).1 ∧
        related (step left operation).2 (step right operation).2)
    {left right : State} (holds : related left right) (operations : List Operation) :
    (step.run left operations).1 = (step.run right operations).1 ∧
      related (step.run left operations).2 (step.run right operations).2 := by
  induction operations generalizing left right with
  | nil => exact ⟨rfl, holds⟩
  | cons operation rest ih =>
    obtain ⟨sight, after⟩ := kept left right operation holds
    obtain ⟨sights, ends⟩ := ih after
    exact ⟨by simp only [run, sight, sights], ends⟩

/-- From these two states on, runs that mean the same show the same and end alike. -/
def AlikeFrom (step : Step State Operation Sight) (resolved : Operation → Operation)
    (alike : State → State → Prop) (left right : State) : Prop :=
  ∀ operations others, operations.map resolved = others.map resolved →
    (step.run left operations).1 = (step.run right others).1 ∧
      alike (step.run left operations).2 (step.run right others).2

theorem BlindTo.alikeFrom {step : Step State Operation Sight} {resolved : Operation → Operation}
    {alike : State → State → Prop} (blind : step.BlindTo resolved)
    (kept : ∀ left right operation, alike left right →
      (step left operation).1 = (step right operation).1 ∧
        alike (step left operation).2 (step right operation).2)
    {left right : State} (holds : alike left right) : step.AlikeFrom resolved alike left right := by
  intro operations others means
  rw [← blind right operations others means]
  exact run_related kept holds operations

/-- What every step shows and keeps, as long as nothing has been done that is not allowed. -/
theorem run_shows {step : Step State Operation Sight} {operations : List Operation}
    (allowed property : State → Prop) (proper : Sight → Prop)
    (back : ∀ state operation, allowed (step state operation).2 → allowed state)
    (kept : ∀ state, ∀ operation ∈ operations, allowed (step state operation).2 → property state →
      proper (step state operation).1 ∧ property (step state operation).2)
    {state : State} (holds : property state) (ends : allowed (step.run state operations).2) :
    (∀ sight ∈ (step.run state operations).1, proper sight) ∧
      property (step.run state operations).2 := by
  -- What is allowed is said of the end of the run; read backwards, it holds all along.
  have earlier (state : State) (operations : List Operation)
      (ends : allowed (step.run state operations).2) : allowed state := by
    induction operations generalizing state with
    | nil => exact ends
    | cons operation rest ih => exact back state operation (ih _ ends)
  induction operations generalizing state with
  | nil => exact ⟨by simp [run], holds⟩
  | cons operation rest ih =>
    obtain ⟨shown, after⟩ :=
      kept state operation List.mem_cons_self (earlier _ rest ends) holds
    obtain ⟨later, last⟩ := ih
      (fun state other member => kept state other (List.mem_cons_of_mem operation member))
      after ends
    refine ⟨?_, last⟩
    intro sight member
    rcases List.mem_cons.mp member with rfl | elsewhere
    · exact shown
    · exact later sight elsewhere

end Step

namespace Settings

inductive Use where
  | driver (name : RoleName)
  | withDriver (name : RoleName) (driver : String)
  | mailboxSize (name : RoleName)

inductive Sight where
  | nothing
  | driver (driver : String)
  | size (size : MailboxSize)

def use (settings : Settings) : Use → Sight × Settings
  | .driver name => (.driver (settings.driver name), settings)
  | .withDriver name driver => (.nothing, settings.withDriver name driver)
  | .mailboxSize name => (.size (settings.mailboxSize name), settings)

def Use.resolved : Use → Use
  | .driver name => .driver name.resolved
  | .withDriver name other => .withDriver name.resolved other
  | .mailboxSize name => .mailboxSize name.resolved

theorem use_resolved (settings : Settings) (use : Use) :
    settings.use use.resolved = settings.use use := by
  cases use <;>
    simp only [Use.resolved, Settings.use, driver, withDriver, mailboxSize, RoleName.role_resolved]

end Settings

namespace Catalog

inductive Use where
  | add (name : RoleName) (driver : String) (make : Nat → Role → Device)
  | contains (name : RoleName) (driver : String)
  | choices (name : RoleName)
  | choose (role : Role) (driver : String)

inductive Sight where
  | nothing
  | contained (yes : Bool)
  | choices (drivers : List String)
  | chosen (choice : Choice)

def use (catalog : Catalog) : Use → Sight × Catalog
  | .add name driver make => (.nothing, catalog.add name driver make)
  | .contains name driver => (.contained (catalog.contains name driver), catalog)
  | .choices name => (.choices (catalog.choices name), catalog)
  | .choose role driver => (.chosen (catalog.choose role driver), catalog)

def Use.resolved : Use → Use
  | .add name driver make => .add name.resolved driver make
  | .contains name driver => .contains name.resolved driver
  | .choices name => .choices name.resolved
  | .choose role driver => .choose role driver

theorem use_resolved (catalog : Catalog) (use : Use) :
    catalog.use use.resolved = catalog.use use := by
  cases use <;>
    simp only [Use.resolved, Catalog.use, add, contains, choices, find?,
      RoleName.role_resolved]

end Catalog

namespace Clock

inductive Use where
  | report (source : ClockSource) (time : Position)
  | jump (time : Position)
  | markDummy (name : RoleName) (dummy : Bool)
  | isDummy (name : RoleName)

inductive Sight where
  | nothing
  | verdict (verdict : Verdict)
  | isDummy (yes : Bool)

def use (clock : Clock) : Use → Sight × Clock
  | .report source time => (clock.report source time).map .verdict id
  | .jump time => (.nothing, clock.jump time)
  | .markDummy name dummy => (.nothing, clock.markDummy name dummy)
  | .isDummy name => (.isDummy (clock.isDummy name), clock)

def Use.resolved : Use → Use
  | .markDummy name dummy => .markDummy name.resolved dummy
  | .isDummy name => .isDummy name.resolved
  | use => use

theorem use_resolved (clock : Clock) (use : Use) : clock.use use.resolved = clock.use use := by
  cases use <;> simp only [Use.resolved, Clock.use, markDummy, isDummy, RoleName.role_resolved]

end Clock

namespace Mailboxes

def Command.resolved : Command → Command
  | .renew name capacity => .renew name.resolved capacity
  | .clear name => .clear name.resolved
  | .send name port buffer => .send name.resolved port buffer
  | .deliver name port buffer => .deliver name.resolved port buffer
  | .fetch name position => .fetch name.resolved position
  | .collect name => .collect name.resolved
  -- No role is named; an event is handed in as it is.
  | .through handle command => .through handle command

theorem apply_resolved (mail : Mailboxes) (command : Command) :
    mail.apply command.resolved = mail.apply command := by
  cases command <;>
    simp only [Command.resolved, apply, renew, clear, send?, deliver?, onMailbox, mailbox,
      withMailbox, RoleName.role_resolved]

def Use.resolved : Use → Use
  | .command operation => .command operation.resolved
  | .hold name => .hold name.resolved
  | use => use

theorem use_resolved (mail : Mailboxes) (use : Use) : mail.use use.resolved = mail.use use := by
  cases use with
  | command command => simp only [Use.resolved, Mailboxes.use, apply_resolved]
  | hold name => simp only [Use.resolved, Mailboxes.use, hold, RoleName.role_resolved]
  | _ => rfl

end Mailboxes

namespace Hub

def Action.resolved : Action → Action
  | .deliver name port buffer => .deliver name.resolved port buffer
  | .onMailboxes command => .onMailboxes command.resolved
  | action => action

theorem onMailboxes_resolved (hub : Hub) (command : Mailboxes.Command) :
    hub.onMailboxes command.resolved = hub.onMailboxes command := by
  have applied := hub.mail.apply_resolved command
  cases command with
  -- The log tells of a renewal, and it names the role.
  | renew name capacity =>
    simp only [Mailboxes.Command.resolved, onMailboxes, renew, note, Mailboxes.renew,
      RoleName.role_resolved]
  | _ => exact congrArg (Prod.map id fun mail => { hub with mail }) applied

theorem perform_resolved (hub : Hub) (action : Action) :
    hub.perform action.resolved = hub.perform action := by
  cases action with
  | deliver name port buffer =>
    simp only [Action.resolved, perform, deliver?, Mailboxes.deliver?, Mailboxes.mailbox,
      Mailboxes.withMailbox, RoleName.role_resolved]
  | onMailboxes command => exact hub.onMailboxes_resolved command
  | _ => rfl

end Hub

namespace Rack

inductive Use where
  | command (command : Command)
  | backend (name : RoleName)
  | driver (name : RoleName)
  | isMounted (name : RoleName)

inductive Sight where
  | reply (reply : Reply)
  | backend (name : String) (isDummy : Bool)
  | driver (driver : String)
  | isMounted (yes : Bool)

def use (rack : Rack) : Use → Sight × Rack
  | .command command => (rack.apply command).map .reply id
  | .backend name => (.backend (rack.backend name).name (rack.backend name).isDummy, rack)
  | .driver name => (.driver (rack.driver name), rack)
  | .isMounted name => (.isMounted (rack.isMounted name), rack)

def Command.resolved : Command → Command
  | .engage name settings => .engage name.resolved settings
  | .adjust name settings => .adjust name.resolved settings
  | .vacate name => .vacate name.resolved
  | .playbackStarted name => .playbackStarted name.resolved
  | .playbackStopped name => .playbackStopped name.resolved
  | .silence name => .silence name.resolved
  | .perform action => .perform action.resolved
  | .waitSignal => .waitSignal

theorem apply_resolved (rack : Rack) (command : Command) :
    rack.apply command.resolved = rack.apply command := by
  cases command <;>
    simp only [Command.resolved, apply, engage, adjust, vacate, pass, Hub.perform_resolved,
      RoleName.role_resolved]

def Use.resolved : Use → Use
  | .command operation => .command operation.resolved
  | .backend name => .backend name.resolved
  | .driver name => .driver name.resolved
  | .isMounted name => .isMounted name.resolved

theorem use_resolved (rack : Rack) (use : Use) : rack.use use.resolved = rack.use use := by
  cases use <;>
    simp only [Use.resolved, Rack.use, apply_resolved, backend, driver, isMounted,
      RoleName.role_resolved]

end Rack

namespace Session

inductive Use where
  | operate (command : Command)
  | settle
  | backend (name : RoleName)
  | driver (name : RoleName)

inductive Sight where
  | reply (reply : Reply) (attempts : List Attempt)
  | settled (attempts : List Attempt)
  | backend (name : String) (isDummy : Bool)
  | driver (driver : String)

def use (session : Session) : Use → Sight × Session
  | .operate command =>
    let (reply, attempts, session) := session.apply command
    (.reply reply attempts, session)
  | .settle => session.settle.map .settled id
  | .backend name =>
    (.backend (session.rack.backend name).name (session.rack.backend name).isDummy, session)
  | .driver name => (.driver (session.rack.driver name), session)

def Command.resolved : Command → Command
  | .silence name => .silence name.resolved
  | .perform action => .perform action.resolved
  | command => command

theorem apply_resolved (session : Session) (command : Command) :
    session.apply command.resolved = session.apply command := by
  cases command with
  | silence name =>
    simp only [Command.resolved, apply, Session.pass, Rack.pass, RoleName.role_resolved]
  | perform action => simp only [Command.resolved, apply, Hub.perform_resolved]
  | _ => rfl

def Use.resolved : Use → Use
  | .operate command => .operate command.resolved
  | .settle => .settle
  | .backend name => .backend name.resolved
  | .driver name => .driver name.resolved

theorem use_resolved (session : Session) (use : Use) :
    session.use use.resolved = session.use use := by
  cases use <;>
    simp only [Use.resolved, Session.use, apply_resolved, Rack.backend, Rack.driver,
      RoleName.role_resolved]

end Session

end AudioHost
