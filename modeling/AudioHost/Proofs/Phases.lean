import AudioHost.Driver.Script
import AudioHost.Proofs.ClockAuthority
import AudioHost.Proofs.CurrentMail
import AudioHost.Proofs.RackTurns
import AudioHost.Proofs.SessionSteps

/-!
# The phases of a session

A session is running or it is at rest, and never in between: whatever its devices do and wherever
they fail, the settings, the relay, the mounts, the clock and the mail change over together.
-/

set_option autoImplicit false

namespace AudioHost

namespace Rack

theorem Installs.mounts {rack after : Rack} {role : Role} {driver : String} {backend : Backend}
    {settings : Settings} {result : Except Fault Unit}
    (installs : rack.Installs role driver backend settings result after) :
    ∃ mount, after.mounts = rack.mounts.set role (some mount) := by
  cases installs with
  | dummy _ _ mounts => exact ⟨_, mounts⟩
  | comesUp _ _ _ _ _ mounts => exact ⟨_, mounts⟩
  | refuses _ _ _ _ _ _ mounts => exact ⟨_, mounts⟩

theorem mounts_engage (rack : Rack) (name : RoleName) (settings : Settings) :
    ∃ mount, (rack.engage name settings).2.mounts = rack.mounts.set name.role (some mount) := by
  simp only [engage]
  split
  · exact (installs ..).mounts
  · exact (installs ..).mounts
  · exact (installs ..).mounts
  · exact (installs ..).mounts

theorem mounts_adjust (rack : Rack) (name : RoleName) (settings : Settings) :
    ∃ mount, (rack.adjust name settings).2.mounts = rack.mounts.set name.role (some mount) := by
  simp only [adjust]
  split
  next =>
    obtain ⟨mount, mounts⟩ := mounts_engage _ name.role settings
    refine ⟨mount, mounts.trans ?_⟩
    simp [vacate, mounts_unmount]
  next mount found =>
    obtain ⟨mounted, -⟩ := Option.filter_eq_some_iff.mp found
    have called := rack.mounts_call name.role mount.backend (.adjust settings)
    split
    next known =>
      refine ⟨mount, ?_⟩
      rw [known] at called
      rw [called, ← mounted, PerRole.set_get_self]
    next cause after known =>
      rw [known] at called
      have dummy (rack : Rack) : (rack.mountDummy name.role settings).mounts =
          rack.mounts.set name.role (some ⟨dummyName, .dummy⟩) := rfl
      exact ⟨_, by rw [dummy, mounts_unmount, PerRole.set_set, mounts_note, called]⟩

theorem mounts_pass (rack : Rack) (name : RoleName) (request : Request) :
    (rack.pass name request).2.mounts = rack.mounts := by
  simp only [pass]
  split
  next => rfl
  next mount _ =>
    have called := rack.mounts_call name.role mount.backend request
    split
    next known => simpa [known] using called
    next known => simpa [known] using called

theorem Noted.withHub {rack : Rack} {hub : Hub} (noted : rack.Noted)
    (same : hub.clock.dummies = rack.hub.clock.dummies) : Noted { rack with hub } :=
  ⟨same.trans noted.now, noted.throughout⟩

theorem Noted.vacate {rack : Rack} (noted : rack.Noted) (name : RoleName) :
    (rack.vacate name).2.Noted :=
  stable_noted.vacate name (fun _ noted => noted.withHub rfl) noted

theorem Noted.adjust {rack : Rack} (noted : rack.Noted) (name : RoleName) (settings : Settings) :
    (rack.adjust name settings).2.Noted :=
  stable_noted.adjust name settings (fun _ noted => noted.withHub rfl)
    (fun _ noted => noted.withHub rfl) noted

end Rack

namespace Station

theorem clock_clear (station : Station) : station.clear.hub.clock = station.hub.clock := by
  simp only [clear, stop]
  split <;> rfl

theorem Runs.clock {station : Station} {result : List Attempt × Station}
    (runs : station.Runs result) : result.2.hub.clock = station.hub.clock := by
  cases runs <;> rfl

theorem Runs.relay? {station : Station} {result : List Attempt × Station}
    (runs : station.Runs result) :
    result.2.worker.relay?.isSome = station.worker.relay?.isSome := by
  cases runs with
  | still => rfl
  | cycle relay waiting =>
    rw [waiting]
    rfl

end Station

namespace Session

/-- What holds of a session between operations whatever drivers and callers do. -/
structure Phased (session : Session) : Prop where
  active : session.settings.isSome = true →
    session.isRelaying = true ∧ ∀ role, (session.rack.mounts.get role).isSome = true
  rest : session.settings = none →
    session.worker = .absent ∧ ∀ role, session.rack.mounts.get role = none
  noted : session.rack.Noted

theorem mounts_vacated (session : Session) (role : Role) :
    session.vacated.mounts.get role = none := by
  simp only [vacated, Rack.forBoth_snd, Rack.vacate, Rack.mounts_unmount]
  cases role <;> rfl

theorem noted_vacated {session : Session} (noted : session.rack.Noted) :
    session.vacated.Noted := by
  have cleared : Rack.Noted { session.rack with hub := session.station.clear.hub } :=
    noted.withHub (congrArg Clock.dummies session.station.clock_clear)
  simp only [vacated, Rack.forBoth_snd]
  exact (cleared.vacate .audio).vacate .midi

theorem phased_deactivate {session : Session} (noted : session.rack.Noted) :
    session.deactivate.2.Phased := by
  have vacated := noted_vacated noted
  rw [deactivate_snd]
  refine ⟨fun active => by simp at active, fun _ => ⟨rfl, ?_⟩, ?_⟩
  · intro role
    dsimp only
    split <;> exact session.mounts_vacated role
  · dsimp only
    split
    · exact vacated.withHub rfl
    · exact vacated

theorem BringsUp.noted {session after : Session} {settings : Settings}
    {result : Except Fault Unit} (brought : session.BringsUp settings result after)
    (noted : session.rack.Noted) : after.rack.Noted := by
  obtain ⟨rack, noted, ⟨-, rfl⟩ | ⟨-, rfl⟩⟩ := brought.steady Rack.stable_noted.toSteady noted
  · exact noted
  · exact noted.withHub (congrArg Clock.dummies (Station.clock_clear _))

theorem BringsUp.up {session after : Session} {settings : Settings}
    (brought : session.BringsUp settings (.ok ()) after) :
    after.isRelaying = true ∧ ∀ role, (after.rack.mounts.get role).isSome = true := by
  cases brought with
  | comesUp first rack audio midi willing =>
    obtain ⟨_, before⟩ := session.rack.mounts_engage .audio settings
    obtain ⟨_, mounts⟩ := first.mounts_engage .midi settings
    simp only [audio] at before
    simp only [midi, before] at mounts
    refine ⟨rfl, ?_⟩
    intro role
    have same : (relayed { session with rack } settings).rack.mounts = rack.mounts := rfl
    rw [same, mounts]
    cases role <;> rfl

theorem Activates.phased {session after : Session} {settings : Settings}
    {result : Except Fault Unit} (activates : session.Activates settings result after)
    (phased : session.Phased) : after.Phased := by
  have prepared : (session.prepared settings).rack.Noted := phased.noted.withHub rfl
  cases activates with
  | alreadyActive => exact phased
  | invalid => exact phased
  | fails fault after atRest checked brought =>
    have noted := brought.noted prepared
    exact phased_deactivate (noted.withHub rfl)
  | succeeds after atRest checked brought =>
    exact ⟨fun _ => brought.up, fun atRest => by simp at atRest, brought.noted prepared⟩

theorem Phased.adjust {session : Session} (phased : session.Phased) (settings : Settings) :
    (session.adjust settings).2.Phased := by
  simp only [Session.adjust]
  split
  · exact (session.activates settings).phased phased
  next known =>
  have active : session.settings.isSome = true := by
    simpa [Option.isSome_iff_ne_none] using known
  split
  · exact phased
  · obtain ⟨_, first⟩ := session.rack.mounts_adjust .audio settings
    obtain ⟨_, second⟩ := (session.rack.adjust .audio settings).2.mounts_adjust .midi settings
    refine ⟨fun _ => ⟨(phased.active active).1, ?_⟩, fun atRest => by simp at atRest, ?_⟩
    · intro role
      rw [Rack.forBoth_snd]
      simp only [Role.name, second, first]
      cases role <;> rfl
    · rw [Rack.forBoth_snd]
      exact (phased.noted.adjust .audio settings).adjust .midi settings

theorem Phased.withRack {session : Session} {rack : Rack} (phased : session.Phased)
    (mounts : rack.mounts = session.rack.mounts) (noted : rack.Noted) :
    Phased { session with rack } where
  active := by
    simp only [mounts]
    exact phased.active
  rest := by
    simp only [mounts]
    exact phased.rest
  noted := noted

theorem Phased.pass {session : Session} (phased : session.Phased) (name : RoleName)
    (request : Request) : (session.pass name request).2.Phased :=
  phased.withRack (session.rack.mounts_pass name request)
    (Rack.stable_noted.pass name request phased.noted)

theorem Phased.passBoth {session : Session} (phased : session.Phased) (request : Request) :
    (session.passBoth request).2.Phased := by
  have first := Rack.stable_noted.pass .audio request phased.noted
  have second := Rack.stable_noted.pass .midi request first
  have mounts := ((session.rack.pass .audio request).2.mounts_pass .midi request).trans
    (session.rack.mounts_pass .audio request)
  simp only [Session.passBoth, Rack.forBoth_snd]
  exact phased.withRack mounts second

theorem Phased.runs {session : Session} {result : List Attempt × Station} (phased : session.Phased)
    (runs : session.station.Runs result) : (session.withStation result.2).Phased where
  active := by
    intro active
    obtain ⟨relaying, mounted⟩ := phased.active active
    exact ⟨runs.relay?.trans relaying, mounted⟩
  rest := by
    intro atRest
    obtain ⟨absent, unmounted⟩ := phased.rest atRest
    refine ⟨?_, unmounted⟩
    cases runs with
    | still => exact absent
    | cycle relay waiting =>
      have both : Worker.absent = .waiting relay := absent.symm.trans waiting
      cases both
  noted := phased.noted.withHub (congrArg Clock.dummies runs.clock)

theorem Phased.apply {session : Session} (phased : session.Phased) (command : Command) :
    (session.apply command).2.2.Phased := by
  cases command with
  | activate settings => exact (session.activates settings).phased phased
  | adjust settings => exact phased.adjust settings
  | deactivate => exact phased_deactivate phased.noted
  | playbackStarted => exact phased.passBoth .playbackStarted
  | playbackStopped => exact phased.passBoth .playbackStopped
  | silence name => exact phased.pass name .silence
  | perform action => exact phased.withRack rfl (phased.noted.withHub (Hub.dummies_perform ..))
  | collect => exact ⟨phased.active, phased.rest, phased.noted⟩
  | subscribe => exact ⟨phased.active, phased.rest, phased.noted⟩
  | receive receiver =>
    simp only [Session.apply]
    split
    · exact phased
    · exact ⟨phased.active, phased.rest, phased.noted⟩
  | lapse => exact phased.runs session.station.runs_lapse
  | refuse refusal => exact ⟨phased.active, phased.rest, phased.noted⟩

theorem Phased.move {session : Session} (phased : session.Phased) (move : Move) :
    (session.move move).2.Phased := by
  cases move with
  | operate command => exact phased.apply command
  | settle => exact phased.runs session.station.runs_settle

theorem phased_new (catalog : Catalog) : (ofCatalog catalog).Phased where
  active := by simp [ofCatalog]
  rest := by
    intro _
    refine ⟨rfl, ?_⟩
    intro role
    cases role <;> rfl
  noted := Rack.noted_new catalog

/-- What every move keeps as long as the application takes none but allowed actions. -/
theorem moveAll_within {allowed : Hub.Action → Prop} {property : Session → Prop}
    (catalog : Catalog) (moves : List Move) (fresh : property (ofCatalog catalog))
    (kept : ∀ {session : Session}, property session → session.Phased → ∀ move : Move,
      (∀ action ∈ move.action?, allowed action) → property (session.move move).2)
    (within : ∀ action ∈ (ofCatalog catalog).actions moves, allowed action) :
    ((ofCatalog catalog).moveAll moves).Phased ∧ property ((ofCatalog catalog).moveAll moves) := by
  refine moveAll_keeps (fun session => session.Phased ∧ property session) moves ?_
    ⟨phased_new catalog, fresh⟩
  rintro session move member ⟨phased, holds⟩
  refine ⟨phased.move move, kept holds phased move ?_⟩
  intro action taken
  have listed : action ∈ moves.filterMap Move.action? :=
    List.mem_filterMap.mpr ⟨move, member, taken⟩
  exact within action (List.mem_append_left _ listed)

end Session

theorem Mailbox.apply_closed (command : Command) : (closed.apply command).2 = closed := by
  cases command <;> rfl

def Hub.Action.renewsMail (action : Action) : Bool :=
  action.onMail?.any Mailboxes.Command.renews

theorem Hub.kept_closed (role : Role) :
    Kept (fun action => action.renewsMail = false) fun hub => hub.mail.mailbox role = .closed where
  perform hub action spares closed := by
    rw [mail_perform]
    cases known : action.onMail? with
    | none => exact closed
    | some command =>
      have unrenewed : command.renews = false := by simpa [Action.renewsMail, known] using spares
      have becomes := hub.mail.becomes command role
      rw [Option.elim_some]
      generalize (hub.mail.apply command).2.mailbox role = after at becomes
      cases becomes with
      | renewed capacity renews => simp [unrenewed] at renews
      | cleared => rfl
      | kept => exact closed
      | used use => rw [closed, Mailbox.apply_closed]
  note _ _ closed := closed
  markDummy _ _ _ closed := closed

/-- No device has put another mailbox in the place of one. -/
def Journal.SparesMail (journal : Journal) : Prop :=
  ∀ action ∈ journal.actions, action.renewsMail = false

def Rack.ClosedFor (rack : Rack) (role : Role) : Prop :=
  rack.journal.SparesMail → rack.hub.mail.mailbox role = .closed

theorem Rack.steady_closedFor (role : Role) : Steady (ClosedFor · role) :=
  (Hub.kept_closed role).steady

theorem Rack.ClosedFor.clear {rack : Rack} {role : Role} (closed : rack.ClosedFor role)
    (name : RoleName) : ClosedFor { rack with hub := rack.hub.clear name } role := by
  intro spares
  simp only [Hub.clear, Mailboxes.mailbox_clear]
  split
  · rfl
  · exact closed spares

theorem Rack.closedFor_vacate (rack : Rack) (role : Role) :
    (rack.vacate role).2.ClosedFor role := by
  intro _
  simp [vacate, Hub.clear]

namespace Session

def Shut (session : Session) : Prop :=
  session.settings = none → ∀ role, session.rack.ClosedFor role

theorem closedFor_vacated (session : Session) (role : Role) : session.vacated.ClosedFor role := by
  simp only [vacated, Rack.forBoth_snd]
  cases role with
  | audio =>
    -- What the MIDI device does while it is released leaves the audio mailbox closed.
    exact (Rack.steady_closedFor .audio).vacate _ (fun _ closed => closed.clear _)
      (Rack.closedFor_vacate _ .audio)
  | midi => exact Rack.closedFor_vacate _ .midi

theorem shut_deactivate (session : Session) : session.deactivate.2.Shut := by
  intro _ role
  rw [deactivate_snd]
  dsimp only
  split <;> exact session.closedFor_vacated role

theorem Activates.shut {session after : Session} {settings : Settings}
    {result : Except Fault Unit} (activates : session.Activates settings result after)
    (shut : session.Shut) : after.Shut := by
  cases activates with
  | alreadyActive => exact shut
  | invalid => exact shut
  | fails fault after atRest checked brought => exact shut_deactivate _
  | succeeds after atRest checked brought => exact fun atRest => by simp at atRest

theorem Shut.adjust {session : Session} (shut : session.Shut) (settings : Settings) :
    (session.adjust settings).2.Shut := by
  simp only [Session.adjust]
  split
  · exact (session.activates settings).shut shut
  split
  · exact shut
  · exact fun atRest => by simp at atRest

theorem Shut.passBoth {session : Session} (shut : session.Shut) (request : Request) :
    (session.passBoth request).2.Shut := by
  intro atRest role
  simp only [Session.passBoth, Rack.forBoth_snd]
  exact (Rack.steady_closedFor role).pass .midi request
    ((Rack.steady_closedFor role).pass .audio request (shut atRest role))

theorem Shut.runs {session : Session} {result : List Attempt × Station} (shut : session.Shut)
    (phased : session.Phased) (runs : session.station.Runs result) :
    (session.withStation result.2).Shut := by
  intro atRest
  cases runs with
  | still => exact shut atRest
  | cycle relay waiting =>
    have both : Worker.absent = .waiting relay := (phased.rest atRest).1.symm.trans waiting
    cases both

theorem Shut.apply {session : Session} (shut : session.Shut) (phased : session.Phased)
    (command : Command)
    (spares : ∀ action, command = .perform action → action.renewsMail = false) :
    (session.apply command).2.2.Shut := by
  cases command with
  | activate settings => exact (session.activates settings).shut shut
  | adjust settings => exact shut.adjust settings
  | deactivate => exact session.shut_deactivate
  | playbackStarted => exact shut.passBoth .playbackStarted
  | playbackStopped => exact shut.passBoth .playbackStopped
  | silence name =>
    exact fun atRest role => (Rack.steady_closedFor role).pass name .silence (shut atRest role)
  | perform action =>
    intro atRest role spared
    exact (Hub.kept_closed role).perform _ action (spares action rfl) (shut atRest role spared)
  | receive receiver =>
    simp only [Session.apply]
    split <;> exact shut
  | lapse => exact shut.runs phased session.station.runs_lapse
  | _ => exact shut

theorem Shut.move {session : Session} (shut : session.Shut) (phased : session.Phased) (move : Move)
    (spares : ∀ action ∈ move.action?, action.renewsMail = false) : (session.move move).2.Shut := by
  cases move with
  | operate command =>
    refine shut.apply phased command ?_
    rintro action rfl
    exact spares action rfl
  | settle => exact shut.runs phased session.station.runs_settle

structure Running (session : Session) : Prop where
  active : session.settings.isSome = true
  relaying : session.isRelaying = true
  mounted : ∀ name, session.rack.isMounted name = true

structure Resting (session : Session) : Prop where
  inactive : session.settings = none
  relayless : session.worker = .absent
  unmounted : ∀ name, session.rack.isMounted name = false
  dummies : ∀ name, session.rack.backend name = .dummy ∧ session.rack.driver name = dummyName
  noted : ∀ name, session.rack.hub.clock.isDummy name = true
  closed : ∀ name, session.rack.hub.mail.mailbox name = .closed

theorem Phased.running {session : Session} (phased : session.Phased)
    (active : session.settings.isSome = true) : session.Running where
  active := active
  relaying := (phased.active active).1
  mounted name := (phased.active active).2 name.role

theorem Phased.resting {session : Session} (phased : session.Phased) (shut : session.Shut)
    (atRest : session.settings = none) (spared : session.rack.journal.SparesMail) :
    session.Resting := by
  obtain ⟨relayless, unmounted⟩ := phased.rest atRest
  refine ⟨atRest, relayless, ?_, ?_, ?_, ?_⟩
  · intro name
    simp [Rack.isMounted, unmounted]
  · intro name
    simp [Rack.backend, Rack.driver, unmounted]
  · intro name
    have noted := congrArg (PerRole.get · name.role) phased.noted.now
    rw [Rack.mountedDummies_get, unmounted] at noted
    exact noted
  · intro name
    have closed := shut atRest name.role spared
    simpa [Mailboxes.mailbox] using closed

end Session

namespace Rack

theorem vacate_vacant {rack : Rack} {role : Role} (vacant : rack.mounts.get role = none) :
    (rack.vacate role).1 = .ok () ∧ (rack.vacate role).2.journal = rack.journal := by
  simp [vacate, unmount_eq, vacant]

theorem vacateBoth_vacant (rack : Rack) (vacant : ∀ role, rack.mounts.get role = none) :
    (rack.forBoth fun rack role => rack.vacate role).1 = .ok () ∧
      (rack.forBoth fun rack role => rack.vacate role).2.journal = rack.journal := by
  obtain ⟨audio, before⟩ := vacate_vacant (vacant .audio)
  have still : (rack.vacate Role.audio).2.mounts.get .midi = none := by
    simp [vacate, mounts_unmount, vacant]
  obtain ⟨midi, after⟩ := vacate_vacant still
  simp only [forBoth, audio, midi, after, before, and_self]

end Rack

namespace Session

theorem deactivate_vacant {session : Session}
    (vacant : ∀ role, session.rack.mounts.get role = none) :
    session.deactivate.1 = .ok () ∧ session.deactivate.2.rack.journal = session.rack.journal := by
  let cleared : Rack := { session.rack with hub := session.station.clear.hub }
  have both := cleared.vacateBoth_vacant vacant
  constructor
  · simp only [deactivate]
    split <;> exact both.1
  · rw [deactivate_snd]
    dsimp only
    split <;> exact both.2

/-- From which phase an operation leads to which, unless a device renews mail on the way. -/
structure ChangesPhase (session : Session) : Prop where
  either : session.Running ∨ session.Resting
  notBoth : ¬ (session.Running ∧ session.Resting)
  activate_running : session.Running →
    ∀ settings, session.activate settings = (.error .alreadyActive, session)
  activate_resting : session.Resting → ∀ settings,
    ((session.activate settings).1 = .ok () ↔ (session.activate settings).2.Running) ∧
      ∀ fault, (session.activate settings).1 = .error fault →
        (session.activate settings).2.rack.journal.SparesMail →
          (session.activate settings).2.Resting
  adjust_running : session.Running → ∀ settings, (session.adjust settings).2.Running
  adjust_resting : session.Resting →
    ∀ settings, session.adjust settings = session.activate settings
  deactivate : session.deactivate.2.rack.journal.SparesMail → session.deactivate.2.Resting
  deactivate_resting : session.Resting → session.deactivate.1 = .ok () ∧
    session.deactivate.2.rack.journal = session.rack.journal
  other : session.Running → ∀ command, command ≠ .deactivate → (session.apply command).2.2.Running

/-- A session at rest has settings after an activation just when that reports success. -/
theorem Activates.active {session after : Session} {settings : Settings}
    {result : Except Fault Unit} (activates : session.Activates settings result after)
    (atRest : session.settings = none) : result = .ok () ↔ after.settings.isSome = true := by
  cases activates with
  | alreadyActive active => simp [atRest] at active
  | invalid => simp [atRest]
  | fails => simp [deactivate_snd]
  | succeeds => simp

theorem adjust_resting {session : Session} (atRest : session.settings = none)
    (settings : Settings) : session.adjust settings = session.activate settings := by
  simp [adjust, atRest]

theorem active_adjust {session : Session} (active : session.settings.isSome = true)
    (settings : Settings) : (session.adjust settings).2.settings.isSome = true := by
  have running : session.settings.isNone = false := by simpa using active
  simp only [Session.adjust, running, Bool.false_eq_true, if_false]
  split
  · exact active
  · rfl

theorem Phased.changesPhase {session : Session} (phased : session.Phased) (shut : session.Shut)
    (spared : session.rack.journal.SparesMail) : session.ChangesPhase where
  either := by
    cases known : session.settings with
    | none => exact .inr (phased.resting shut known spared)
    | some settings => exact .inl (phased.running (by simp [known]))
  notBoth := by
    rintro ⟨running, resting⟩
    have active := running.active
    simp [resting.inactive] at active
  activate_running running settings := by
    simp only [Session.activate, running.active, if_true]
  activate_resting resting settings := by
    have activates := session.activates settings
    have active := activates.active resting.inactive
    refine ⟨⟨fun success => (activates.phased phased).running (active.mp success), ?_⟩, ?_⟩
    · exact fun running => active.mpr running.active
    · intro fault failed spared
      refine (activates.phased phased).resting (activates.shut shut) ?_ spared
      simpa [failed] using active
  adjust_running running settings :=
    (phased.adjust settings).running (active_adjust running.active settings)
  adjust_resting resting settings := adjust_resting resting.inactive settings
  deactivate spared := by
    refine (phased_deactivate phased.noted).resting session.shut_deactivate ?_ spared
    rw [deactivate_snd]
  deactivate_resting resting :=
    deactivate_vacant (phased.rest resting.inactive).2
  other running command stays := by
    refine (phased.apply command).running ?_
    have active := running.active
    cases command with
    | deactivate => exact absurd rfl stays
    | activate settings =>
      simp only [Session.apply, Session.activate, active, if_true]
    | adjust settings => exact active_adjust active settings
    | receive receiver =>
      simp only [Session.apply]
      split <;> exact active
    | _ => exact active

end Session

/-- Between any two operations a session is either running, with settings, a relay and a backend for
each role, or at rest, with none of them, served by the dummy and without mail. -/
theorem session_running_or_resting (catalog : Catalog) (moves : List Session.Move)
    (spares : ∀ action ∈ (Session.ofCatalog catalog).actions moves, action.renewsMail = false) :
    ((Session.ofCatalog catalog).moveAll moves).ChangesPhase := by
  have fresh : (Session.ofCatalog catalog).Shut := by
    intro _ role _
    cases role <;> rfl
  obtain ⟨phased, shut⟩ := Session.moveAll_within catalog moves fresh
    (fun shut phased move spares => shut.move phased move spares) spares
  refine phased.changesPhase shut ?_
  intro action taken
  exact spares action (List.mem_append_right _ taken)

/-- A driver that uses the mail and the clock as it comes up, and cannot be released. -/
def Script.stubborn : Script where
  label := "stubborn"
  actions := [(.activate, [.report .audio 2, .deliver .midi 0 [0x90, 60, 1]])]
  failures := [(.release, ⟨.failed "busy", none⟩)]

def Catalog.stubborn : Catalog :=
  ({} : Catalog).add .audio "stubborn" fun _ _ => Script.stubborn.device

/-- A session is started, loses its driver to another one, and is stopped. -/
def stubbornMoves : List Session.Move :=
  [.operate (.activate { audioDriver := "stubborn" }), .settle, .operate .playbackStarted,
    .operate (.perform (.jump 1)), .operate (.adjust {}), .settle, .operate .deactivate]

theorem session_running_or_resting_stubborn :
    (∀ action ∈ (Session.ofCatalog .stubborn).actions stubbornMoves, action.renewsMail = false) ∧
      ((Session.ofCatalog .stubborn).moveAll stubbornMoves).ChangesPhase := by
  have spares : ∀ action ∈ (Session.ofCatalog .stubborn).actions stubbornMoves,
      action.renewsMail = false := by decide +kernel
  exact ⟨spares, session_running_or_resting .stubborn stubbornMoves spares⟩

end AudioHost
