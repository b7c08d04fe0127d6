import AudioHost.Proofs.FaultNames
import AudioHost.Proofs.SessionEvents
import AudioHost.Proofs.SpelledSessions

/-!
# The default stands for audio

A caller or a device may say default for audio anywhere. Nobody can tell, then or later.
-/

set_option autoImplicit false

namespace AudioHost

/-- Runs that differ in what audio is called are the same, in all that is shown and in all that is
left. -/
structure OverlooksDefault : Prop where
  settings : Step.BlindTo Settings.use Settings.Use.resolved
  catalog : Step.BlindTo Catalog.use Catalog.Use.resolved
  clock : Step.BlindTo Clock.use Clock.Use.resolved
  mail : Step.BlindTo Mailboxes.use Mailboxes.Use.resolved
  rack : Step.BlindTo Rack.use Rack.Use.resolved
  session : Step.BlindTo Session.use Session.Use.resolved

theorem overlooksDefault : OverlooksDefault where
  settings := Step.blindTo Settings.use_resolved
  catalog := Step.blindTo Catalog.use_resolved
  clock := Step.blindTo Clock.use_resolved
  mail := Step.blindTo Mailboxes.use_resolved
  rack := Step.blindTo Rack.use_resolved
  session := Step.blindTo Session.use_resolved

/-- An event that names the default was handed in with that name. -/
def InputEvent.DefaultFrom (actions : List Hub.Action) (event : InputEvent) : Prop :=
  event.role = .default → ∃ action ∈ actions, action.handsIn? = some event

theorem InputEvent.defaultFrom_of_role (actions : List Hub.Action) (event : InputEvent)
    (role : Role) (named : event.role = role.name) : event.DefaultFrom actions := by
  intro default
  rw [default] at named
  exact absurd named.symm role.name_ne_default

theorem Hub.Action.admissible_of_mem {actions : List Action} {action : Action}
    (taken : action ∈ actions) : action.Admissible (InputEvent.DefaultFrom actions) :=
  fun _ handed _ => ⟨action, taken, handed⟩

def Mailboxes.Use.action? : Use → Option Hub.Action
  | .command operation => some (.onMailboxes operation)
  | _ => none

/-- A run on the mail stores and shows no event with the default, unless it was handed in so. -/
structure Mailboxes.StoresRoles (mail : Mailboxes) (uses : List Use) : Prop where
  shown : ∀ sight ∈ (Step.run Mailboxes.use mail uses).1, ∀ event ∈ sight.event?,
    event.DefaultFrom (uses.filterMap Use.action?)
  stored : (Step.run Mailboxes.use mail uses).2.Within
    (InputEvent.DefaultFrom (uses.filterMap Use.action?))

structure Rack.StoresRoles (rack : Rack) (uses : List Use) : Prop where
  shown : ∀ sight ∈ (Step.run Rack.use rack uses).1, ∀ event ∈ sight.events,
    event.DefaultFrom (rack.actions uses)
  faults : ∀ sight ∈ (Step.run Rack.use rack uses).1, ∀ fault ∈ sight.fault?,
    fault.name? ≠ some .default
  stored : (Step.run Rack.use rack uses).2.hub.mail.Within
    (InputEvent.DefaultFrom (rack.actions uses))
  /-- Devices were shown none either. -/
  answers : ∀ answer ∈ (Step.run Rack.use rack uses).2.journal.answers, ∀ event ∈ answer.event?,
    event.DefaultFrom (rack.actions uses)

structure Session.StoresRoles (session : Session) (uses : List Use) : Prop where
  shown : ∀ sight ∈ (Step.run Session.use session uses).1, ∀ event ∈ sight.events,
    event.DefaultFrom (session.actionsOf uses)
  faults : ∀ sight ∈ (Step.run Session.use session uses).1, ∀ fault ∈ sight.fault?,
    fault.name? ≠ some .default
  stored : (Step.run Session.use session uses).2.rack.hub.mail.Within
    (InputEvent.DefaultFrom (session.actionsOf uses))
  posted : (Step.run Session.use session uses).2.inboxes.Within
    (InputEvent.DefaultFrom (session.actionsOf uses))
  answers : ∀ answer ∈ (Step.run Session.use session uses).2.rack.journal.answers,
    ∀ event ∈ answer.event?, event.DefaultFrom (session.actionsOf uses)

section

variable {proper : InputEvent → Prop}

theorem Mailboxes.within_new : Within proper {} := by
  intro handle event waits
  obtain ⟨role, generation⟩ := handle
  have empty : ({} : Mailboxes).waiting ⟨role, generation⟩ = [] := by
    by_cases first : generation = 0 <;>
      simp [waiting, held?, Lane.mailbox?, Lane.generation, Mailbox.inputs, Mailbox.closed, first]
  rw [empty] at waits
  cases waits

theorem Rack.keeps_new (catalog : Catalog) : Keeps proper { catalog } :=
  fun _ => ⟨Mailboxes.within_new, by simp [Journal.answers]⟩

theorem Session.keeps_new (catalog : Catalog) : (ofCatalog catalog).Keeps proper where
  rack := Rack.keeps_new catalog
  inboxes := by
    intro _ number event waits
    rw [waiting_new] at waits
    cases waits

end

theorem Mailboxes.storesRoles (uses : List Mailboxes.Use) : ({} : Mailboxes).StoresRoles uses := by
  let proper := InputEvent.DefaultFrom (uses.filterMap Use.action?)
  have kept (mail : Mailboxes) (use : Use) (member : use ∈ uses) (_ : True)
      (within : mail.Within proper) :
      (∀ event ∈ (mail.use use).1.event?, proper event) ∧ (mail.use use).2.Within proper := by
    refine within.use (InputEvent.defaultFrom_of_role _) use ?_
    rintro command rfl
    have listed : .onMailboxes command ∈ uses.filterMap Use.action? :=
      List.mem_filterMap.mpr ⟨_, member, rfl⟩
    exact Hub.Action.admissible_of_mem listed
  obtain ⟨shown, stored⟩ := Step.run_shows (fun _ => True) (Within proper)
    (fun sight : Sight => ∀ event ∈ sight.event?, proper event) (fun _ _ _ => trivial) kept
    within_new trivial
  exact ⟨shown, stored⟩

theorem Rack.storesRoles (catalog : Catalog) (uses : List Rack.Use) :
    Rack.StoresRoles { catalog } uses := by
  -- What devices hand in is known at the end of the run only, so that is where it is bounded.
  let proper := InputEvent.DefaultFrom (Rack.actions { catalog } uses)
  have kept (rack : Rack) (use : Use) (member : use ∈ uses)
      (devices : (rack.use use).2.journal.Admissible proper) (keeps : rack.Keeps proper) :
      ((∀ event ∈ (rack.use use).1.events, proper event) ∧
        ∀ fault ∈ (rack.use use).1.fault?, fault.name? ≠ some .default) ∧
        (rack.use use).2.Keeps proper := by
    refine ⟨⟨keeps.events (rack.admissible_before use devices) use, rack.fault_resolved use⟩, ?_⟩
    refine keeps.use (InputEvent.defaultFrom_of_role _) use fun action taken => ?_
    refine Hub.Action.admissible_of_mem (List.mem_append_left _ ?_)
    exact List.mem_filterMap.mpr ⟨use, member, taken⟩
  have devices : (Step.run Rack.use { catalog } uses).2.journal.Admissible proper :=
    fun action taken => Hub.Action.admissible_of_mem (List.mem_append_right _ taken)
  obtain ⟨shown, keeps⟩ := Step.run_shows (fun rack => rack.journal.Admissible proper)
    (Keeps proper) (fun sight : Sight => (∀ event ∈ sight.events, proper event) ∧
      ∀ fault ∈ sight.fault?, fault.name? ≠ some .default)
    admissible_before kept (keeps_new catalog) devices
  exact {
    shown := fun sight member => (shown sight member).1
    faults := fun sight member => (shown sight member).2
    stored := (keeps devices).1
    answers := (keeps devices).2 }

theorem Session.storesRoles (catalog : Catalog) (uses : List Session.Use) :
    (Session.ofCatalog catalog).StoresRoles uses := by
  let proper := InputEvent.DefaultFrom ((ofCatalog catalog).actionsOf uses)
  have kept (session : Session) (use : Use) (member : use ∈ uses)
      (devices : (session.use use).2.rack.journal.Admissible proper)
      (keeps : session.Keeps proper) :
      ((∀ event ∈ (session.use use).1.events, proper event) ∧
        ∀ fault ∈ (session.use use).1.fault?, fault.name? ≠ some .default) ∧
        (session.use use).2.Keeps proper := by
    have admissible : ∀ move ∈ use.move?, ∀ action ∈ move.action?, action.Admissible proper := by
      intro move moves action taken
      refine Hub.Action.admissible_of_mem (List.mem_append_left _ ?_)
      exact List.mem_filterMap.mpr ⟨move, List.mem_filterMap.mpr ⟨use, member, moves⟩, taken⟩
    obtain ⟨events, after⟩ :=
      keeps.use (InputEvent.defaultFrom_of_role _) use admissible devices
    exact ⟨⟨events, session.fault_resolved use⟩, after⟩
  have devices : (Step.run Session.use (ofCatalog catalog) uses).2.rack.journal.Admissible proper :=
    fun action taken => Hub.Action.admissible_of_mem (List.mem_append_right _ taken)
  obtain ⟨shown, keeps⟩ := Step.run_shows (fun session => session.rack.journal.Admissible proper)
    (Keeps proper) (fun sight : Sight => (∀ event ∈ sight.events, proper event) ∧
      ∀ fault ∈ sight.fault?, fault.name? ≠ some .default)
    admissible_before_use kept (keeps_new catalog) devices
  exact {
    shown := fun sight member => (shown sight member).1
    faults := fun sight member => (shown sight member).2
    stored := (keeps.rack devices).1
    posted := keeps.inboxes devices
    answers := (keeps.rack devices).2 }

/-- Whoever says default for audio is not told from one who says audio, in any run of operations on
settings, catalogs, clocks, mail, racks and sessions, nor in what devices do to the hub. A driver
that is added under one of the names is found under the other, and chosen for the role. No event,
wherever it is kept or shown, and no fault ever has the name of the default, but for an event that
was handed in with it; keys, slots and mounts are kept by role, and no role has that name. -/
theorem default_means_audio :
    OverlooksDefault ∧
    (∀ left right : Catalog, left.Alike right →
      Step.AlikeFrom Rack.use Rack.Use.resolved Rack.Alike
        { catalog := left } { catalog := right } ∧
      Step.AlikeFrom Session.use Session.Use.resolved Session.Alike
        (.ofCatalog left) (.ofCatalog right)) ∧
    (∀ catalog name other driver make, RoleName.role name = RoleName.role other →
      (Catalog.add catalog name driver make).find? other driver =
          some ⟨catalog.registrations.length, other.role, driver, make⟩ ∧
        (driver ≠ dummyName → (Catalog.add catalog name driver make).choose other.role driver =
          .registered ⟨catalog.registrations.length, other.role, driver, make⟩)) ∧
    (∀ uses, ({} : Mailboxes).StoresRoles uses) ∧
    (∀ catalog uses, Rack.StoresRoles { catalog } uses) ∧
    (∀ catalog uses, (Session.ofCatalog catalog).StoresRoles uses) ∧
    (∀ role : Role, role.name ≠ .default) := by
  refine ⟨overlooksDefault, ?_, ?_, Mailboxes.storesRoles, Rack.storesRoles, Session.storesRoles,
    Role.name_ne_default⟩
  · intro left right alike
    have racks : Rack.Alike { catalog := left } { catalog := right } :=
      (Session.alike_ofCatalog alike).rack
    exact ⟨overlooksDefault.rack.alikeFrom (fun _ _ use alike => alike.use use) racks,
      overlooksDefault.session.alikeFrom (fun _ _ use alike => alike.use use)
        (Session.alike_ofCatalog alike)⟩
  · intro catalog name other driver make same
    refine ⟨by simp [Catalog.find?, Catalog.add, same], fun external => ?_⟩
    simp [Catalog.choose, Catalog.find?, Catalog.add, external, same]

/-- A device that delivers an event for audio and takes it back, and has its own name for audio. -/
def Script.spelling (name : RoleName) : Script where
  label := "spelling"
  actions := [(.activate, [.deliver name 0 [0x90, 60, 1], .onMailboxes (.collect name)])]

def Catalog.spelling (name : RoleName) : Catalog :=
  ({} : Catalog).add name "spelling" fun _ _ => (Script.spelling name).device

theorem Catalog.alike_spelling : (spelling .default).Alike (spelling .audio) :=
  Alike.add .nil rfl "spelling" fun _ _ => Script.alike rfl

def spellingUses (name : RoleName) : List Session.Use :=
  [.operate (.activate { audioDriver := "spelling", audioMailbox := ⟨1, 1⟩ }),
    .operate (.silence name), .backend name]

theorem default_means_audio_spelling :
    let default := Step.run Session.use (.ofCatalog (.spelling .default)) (spellingUses .default)
    let audio := Step.run Session.use (.ofCatalog (.spelling .audio)) (spellingUses .audio)
    (Catalog.spelling .default).Alike (.spelling .audio) ∧
      (spellingUses .default).map Session.Use.resolved =
        (spellingUses .audio).map Session.Use.resolved ∧
      default.1 = audio.1 ∧ default.2.Alike audio.2 ∧
      default.2.rack.driver .audio = "spelling" ∧
      default.2.rack.journal.answers.map (fun answer => answer.event?.map InputEvent.role) =
        [none, some .audio] ∧
      (Catalog.spelling .default).choose .audio "spelling" =
        .registered ⟨0, .audio, "spelling", fun _ _ => (Script.spelling .default).device⟩ := by
  intro default audio
  obtain ⟨-, sessions⟩ := default_means_audio.2.1 _ _ Catalog.alike_spelling
  obtain ⟨sights, ends⟩ := sessions (spellingUses .default) (spellingUses .audio) rfl
  have chosen := default_means_audio.2.2.1 {} .default .audio "spelling"
    (fun _ _ => (Script.spelling .default).device) rfl
  exact ⟨Catalog.alike_spelling, rfl, sights, ends, by decide +kernel, by decide +kernel,
    chosen.2 (by decide)⟩

end AudioHost
