import AudioHost.Proofs.Rollback

/-!
# Mounted drivers

Nothing but the built-in dummy is ever mounted under its name, and that cannot fail. So the name of
the driver that is mounted for a role tells whether the role got the one it was to have.
-/

set_option autoImplicit false

namespace AudioHost

theorem Catalog.choose_eq_dummy_iff (catalog : Catalog) (role : Role) (driver : String) :
    catalog.choose role driver = .dummy ↔ driver = dummyName := by
  simp only [choose]
  split
  next same => simp [same]
  next other =>
    simp only [other, iff_false]
    split
    · simp
    · split <;> simp

namespace Mount

def dummy : Mount := ⟨dummyName, .dummy⟩

def Proper (mount : Mount) : Prop := mount.driver = dummyName → mount = dummy

/-- What is mounted for a role by what came of giving it the driver that settings choose. -/
structure Provides (mount : Mount) (settings : Settings) (role : Role)
    (result : Except Fault Unit) : Prop where
  succeeds : result = .ok () → mount.driver = settings.driver role
  fails : ∀ fault, result = .error fault → mount = dummy
  /-- The dummy is never refused. -/
  dummy : settings.driver role = dummyName → result = .ok () ∧ mount = dummy

namespace Provides

variable {mount : Mount} {settings : Settings} {role : Role} {result : Except Fault Unit}

theorem proper (provides : mount.Provides settings role result) : mount.Proper := by
  intro named
  cases result with
  | ok done => exact (provides.dummy ((provides.succeeds rfl).symm.trans named)).2
  | error fault => exact provides.fails fault rfl

theorem ok_iff (provides : mount.Provides settings role result) :
    result = .ok () ↔ mount.driver = settings.driver role := by
  refine ⟨provides.succeeds, ?_⟩
  intro same
  cases result with
  | ok done => rfl
  | error fault =>
    have named : mount.driver = dummyName := by rw [provides.fails fault rfl]; rfl
    exact (provides.dummy (same.symm.trans named)).1

theorem ofOther {fault : Fault} (other : settings.driver role ≠ dummyName) :
    Mount.dummy.Provides settings role (.error fault) :=
  ⟨nofun, fun _ _ => rfl, fun same => absurd same other⟩

end Provides

end Mount

namespace Rack

/-- What is mounted under the name of the dummy is the dummy. -/
def Proper (rack : Rack) : Prop := ∀ role, ∀ mount ∈ rack.mounts.get role, mount.Proper

theorem Proper.set {rack after : Rack} (proper : rack.Proper) {role : Role} {value : Option Mount}
    (mounts : after.mounts = rack.mounts.set role value) (fits : ∀ mount ∈ value, mount.Proper) :
    after.Proper := by
  intro other mount mounted
  rw [mounts, PerRole.get_set] at mounted
  split at mounted
  · exact fits mount mounted
  · exact proper other mount mounted

theorem Proper.congr {rack after : Rack} (proper : rack.Proper)
    (mounts : after.mounts = rack.mounts) : after.Proper := by
  intro role mount mounted
  rw [mounts] at mounted
  exact proper role mount mounted

theorem mounts_mountDummy (rack : Rack) (role : Role) (settings : Settings) :
    (rack.mountDummy role settings).mounts = rack.mounts.set role (some .dummy) := rfl

theorem install_dummy (rack : Rack) (role : Role) (settings : Settings) :
    rack.install role dummyName .dummy settings =
      (.ok (), (rack.unmount role).2.mountDummy role settings) := rfl

theorem mounts_installDummy (rack : Rack) (role : Role) (settings : Settings) :
    (rack.install role dummyName .dummy settings).2.mounts =
      rack.mounts.set role (some .dummy) := by
  rw [install_dummy, mounts_mountDummy, mounts_unmount, PerRole.set_set]

theorem Installs.provides {rack after : Rack} {role : Role} {target : Instance} {device : Device}
    {settings : Settings} {result : Except Fault Unit}
    (installs : rack.Installs role (settings.driver role) (.external target device) settings result
      after) (other : settings.driver role ≠ dummyName) :
    ∃ mount, after.mounts = rack.mounts.set role (some mount) ∧
      mount.Provides settings role result := by
  cases installs with
  | dummy _ isDummy => cases isDummy
  | comesUp _ _ _ _ _ mounts =>
    exact ⟨_, mounts, fun _ => rfl, nofun, fun same => absurd same other⟩
  | refuses _ _ _ _ _ _ mounts => exact ⟨_, mounts, .ofOther other⟩

theorem engage_provides (rack : Rack) (role : Role) (settings : Settings) :
    ∃ mount, (rack.engage role settings).2.mounts = rack.mounts.set role (some mount) ∧
      mount.Provides settings role (rack.engage role settings).1 := by
  have named := rack.catalog.choose_eq_dummy_iff role (settings.driver role)
  have other {choice : Choice} (chosen : rack.catalog.choose role (settings.driver role) = choice)
      (outside : choice ≠ .dummy) : settings.driver role ≠ dummyName :=
    fun same => outside (chosen.symm.trans (named.mpr same))
  simp only [engage, Role.role_name]
  split
  next registration chosen => exact (installs ..).provides (other chosen (by simp))
  next chosen =>
    have same : settings.driver role = dummyName := named.mp chosen
    exact ⟨.dummy, mounts_installDummy .., fun _ => same.symm, by simp, fun _ => ⟨rfl, rfl⟩⟩
  next chosen =>
    exact ⟨.dummy, mounts_installDummy _ role settings, .ofOther (other chosen (by simp))⟩
  next chosen =>
    exact ⟨.dummy, mounts_installDummy _ role settings, .ofOther (other chosen (by simp))⟩

theorem Proper.engage {rack : Rack} (proper : rack.Proper) (role : Role) (settings : Settings) :
    (rack.engage role settings).2.Proper := by
  obtain ⟨mount, mounts, provides⟩ := rack.engage_provides role settings
  exact proper.set mounts fun other same => Option.some.inj same ▸ provides.proper

theorem Proper.vacate {rack : Rack} (proper : rack.Proper) (role : Role) :
    (rack.vacate role).2.Proper := by
  have mounts : (rack.vacate role).2.mounts = rack.mounts.set role none := by
    simp [Rack.vacate, mounts_unmount]
  exact proper.set mounts (by simp)

/-- The mount, if there is one, that a role keeps under other settings. -/
def staying? (rack : Rack) (role : Role) (settings : Settings) : Option Mount :=
  (rack.mounts.get role).filter fun mount => mount.driver == settings.driver role

/-- The role without a backend and with an empty mailbox, before another driver is chosen. -/
def cleared (rack : Rack) (role : Role) (settings : Settings) : Rack :=
  let rack := ((rack.note (.switchingDriver role (settings.driver role))).vacate role).2
  { rack with hub := rack.hub.renew role (settings.mailboxSize role) }

theorem adjust_switching {rack : Rack} {role : Role} {settings : Settings}
    (other : rack.staying? role settings = none) :
    rack.adjust role settings = (rack.cleared role settings).engage role settings := by
  simp only [staying?] at other
  simp only [adjust, Role.role_name, other]
  rfl

theorem mounts_cleared (rack : Rack) (role : Role) (settings : Settings) :
    (rack.cleared role settings).mounts = rack.mounts.set role none := by
  simp [cleared, vacate, mounts_unmount]

/-- What becomes of a role whose driver stays. -/
inductive AdjustsInPlace (rack : Rack) (role : Role) (settings : Settings) (mount : Mount) :
    Except Fault Unit × Rack → Prop where
  | complies (after : Rack)
      (called : rack.call role mount.backend (.adjust settings) = (.ok (), after)) :
      AdjustsInPlace rack role settings mount (.ok (), after)
  | faults (cause : DeviceError) (after : Rack)
      (called : rack.call role mount.backend (.adjust settings) = (.error cause, after)) :
      AdjustsInPlace rack role settings mount (.error (.backend role cause),
        ((after.note (.adjustmentFailed role cause)).unmount role).2.mountDummy role settings)

theorem adjustsInPlace {rack : Rack} {role : Role} {settings : Settings} {mount : Mount}
    (stays : rack.staying? role settings = some mount) :
    rack.AdjustsInPlace role settings mount (rack.adjust role settings) := by
  simp only [staying?] at stays
  simp only [adjust, Role.role_name, stays]
  split
  next after known => exact .complies after known
  next cause after known => exact .faults cause after known

theorem adjust_provides {rack : Rack} (proper : rack.Proper) (role : Role) (settings : Settings) :
    ∃ mount, (rack.adjust role settings).2.mounts = rack.mounts.set role (some mount) ∧
      mount.Provides settings role (rack.adjust role settings).1 := by
  cases stays : rack.staying? role settings with
  | none =>
    rw [adjust_switching stays]
    obtain ⟨mount, mounts, provides⟩ :=
      (rack.cleared role settings).engage_provides role settings
    exact ⟨mount, by rw [mounts, mounts_cleared, PerRole.set_set], provides⟩
  | some mount =>
    obtain ⟨mounted, named⟩ := Option.filter_eq_some_iff.mp stays
    have same : mount.driver = settings.driver role := by simpa using named
    have kept := rack.mounts_call role mount.backend (.adjust settings)
    have inPlace := adjustsInPlace stays
    generalize rack.adjust role settings = result at inPlace
    cases inPlace with
    | complies after called =>
      rw [called] at kept
      refine ⟨mount, ?_, fun _ => same, nofun, fun named => ⟨rfl, ?_⟩⟩
      · rw [← mounted, PerRole.set_get_self]
        exact kept
      · exact proper role mount mounted (same.trans named)
    | faults cause after called =>
      rw [called] at kept
      refine ⟨.dummy, ?_, .ofOther fun named => ?_⟩
      · rw [mounts_mountDummy, mounts_unmount, mounts_note, PerRole.set_set]
        exact congrArg (PerRole.set · role (some Mount.dummy)) kept
      · -- The dummy does as it is asked.
        rw [proper role mount mounted (same.trans named)] at called
        cases called

theorem Proper.adjust {rack : Rack} (proper : rack.Proper) (role : Role) (settings : Settings) :
    (rack.adjust role settings).2.Proper := by
  obtain ⟨mount, mounts, provides⟩ := adjust_provides proper role settings
  exact proper.set mounts fun other same => Option.some.inj same ▸ provides.proper

end Rack

namespace Session

variable {session after : Session} {settings : Settings} {result : Except Fault Unit}

theorem proper_deactivate (session : Session) : session.deactivate.2.rack.Proper := by
  intro role mount mounted
  have none : session.deactivate.2.rack.mounts.get role = none := by
    rw [deactivate_snd]
    dsimp only
    split <;> exact session.mounts_vacated role
  rw [none] at mounted
  cases mounted

theorem BringsUp.proper (brought : session.BringsUp settings (.ok ()) after)
    (proper : session.rack.Proper) : after.rack.Proper := by
  cases brought with
  | comesUp first rack audio midi =>
    have up := (proper.engage .audio settings).engage .midi settings
    simp only [Role.name, audio, midi] at up
    exact up.congr rfl

theorem Activates.proper (activates : session.Activates settings result after)
    (proper : session.rack.Proper) : after.rack.Proper := by
  cases activates with
  | alreadyActive => exact proper
  | invalid => exact proper
  | fails => exact proper_deactivate _
  | succeeds after _ _ brought => exact brought.proper (proper.congr rfl)

theorem proper_adjust (proper : session.rack.Proper) (settings : Settings) :
    (session.adjust settings).2.rack.Proper := by
  simp only [adjust]
  split
  · exact (session.activates settings).proper proper
  split
  · exact proper
  · rw [Rack.forBoth_snd]
    exact (proper.adjust .audio settings).adjust .midi settings

theorem proper_move (proper : session.rack.Proper) (move : Move) :
    (session.move move).2.rack.Proper := by
  have passed (request : Request) : (session.passBoth request).2.rack.Proper := by
    simp only [passBoth, Rack.forBoth_snd]
    exact proper.congr ((Rack.mounts_pass _ .midi request).trans
      (session.rack.mounts_pass .audio request))
  cases move with
  | settle => exact proper.congr rfl
  | operate command =>
    cases command with
    | activate settings => exact (session.activates settings).proper proper
    | adjust settings => exact proper_adjust proper settings
    | deactivate => exact session.proper_deactivate
    | playbackStarted => exact passed .playbackStarted
    | playbackStopped => exact passed .playbackStopped
    | silence name => exact proper.congr (session.rack.mounts_pass name .silence)
    | receive receiver =>
      simp only [move, Session.apply]
      split <;> exact proper
    | _ => exact proper.congr rfl

theorem proper_moveAll (catalog : Catalog) (moves : List Move) :
    ((ofCatalog catalog).moveAll moves).rack.Proper := by
  refine moveAll_keeps (fun session => session.rack.Proper) moves
    (fun _ move _ proper => proper_move proper move) ?_
  intro role mount mounted
  cases role <;> cases mounted

end Session

end AudioHost
