import AudioHost.Proofs.Adjustments
import AudioHost.Proofs.ClockAuthority

/-!
# Engagements

A role can be engaged at any time, whoever serves it so far. It gets the driver that settings
choose, or the dummy in its place and a fault that says why; nothing else changes hands.
-/

set_option autoImplicit false

namespace AudioHost

namespace Catalog

variable {catalog : Catalog} {role : Role} {name : RoleName} {driver : String}

/-- The registration that serves a name, unless it is the name of the dummy. -/
def wanted? (catalog : Catalog) (name : RoleName) (driver : String) : Option Registration :=
  if driver = dummyName then none else catalog.find? name driver

theorem dummyName_not_leftOut (role : Role) : dummyName ∉ leftOutDrivers role := by
  cases role <;> decide

theorem choose_eq_registered_iff {registration : Registration} :
    catalog.choose role driver = .registered registration ↔
      catalog.wanted? role driver = some registration := by
  simp only [choose, wanted?]
  split
  · simp
  · split
    next known => simp [known]
    next missing => split <;> simp [missing]

theorem contains_of_wanted {registration : Registration}
    (wanted : catalog.wanted? name driver = some registration) :
    driver ≠ dummyName ∧ catalog.contains name driver = true := by
  simp only [wanted?] at wanted
  split at wanted
  · cases wanted
  next other => exact ⟨other, by simp [contains, wanted]⟩

theorem choose_eq_leftOut_iff :
    catalog.choose role driver = .leftOut ↔
      catalog.contains role driver = false ∧ driver ∈ leftOutDrivers role := by
  simp only [choose, contains]
  split
  next same =>
    subst same
    simp [dummyName_not_leftOut]
  · split
    next known => simp [known]
    next missing => split <;> simp_all

theorem choose_eq_unknown_iff :
    catalog.choose role driver = .unknown ↔
      driver ≠ dummyName ∧ catalog.contains role driver = false ∧
        driver ∉ leftOutDrivers role := by
  simp only [choose, contains]
  split
  next same => simp [same]
  next other =>
    split
    next known => simp [known]
    next missing => split <;> simp_all

end Catalog

/-- The device that a driver makes next. -/
def Registration.next (registration : Registration) (journal : Journal) : Instance :=
  ⟨registration.number, journal.madeBy registration.number⟩

/-- What a new device is mounted as. -/
def Registration.mount (registration : Registration) (target : Instance) (driver : String)
    (role : Role) : Mount :=
  ⟨driver, .external target (registration.make target.serial role)⟩

/-- What may come of engaging a role that `former` serves so far: the result, all that drivers and
devices are asked, and what is mounted afterwards. A new device is made first, and it is asked to
come up once the former one is released. -/
inductive Engagement (catalog : Catalog) (journal : Journal) (former : Option Instance)
    (settings : Settings) (role : Role) : Except Fault Unit → List Record → Mount → Prop where
  | dummy (released : List Record)
      (chosen : catalog.choose role (settings.driver role) = .dummy)
      (gone : Released former released) :
      Engagement catalog journal former settings role (.ok ()) released .dummy
  | leftOut (released : List Record)
      (chosen : catalog.choose role (settings.driver role) = .leftOut)
      (gone : Released former released) :
      Engagement catalog journal former settings role
        (.error (.driverLeftOut role (settings.driver role))) released .dummy
  | unknown (released : List Record)
      (chosen : catalog.choose role (settings.driver role) = .unknown)
      (gone : Released former released) :
      Engagement catalog journal former settings role
        (.error (.unknownDriver role (settings.driver role))) released .dummy
  | comesUp (registration : Registration) (released : List Record) (call : Call)
      (chosen : catalog.choose role (settings.driver role) = .registered registration)
      (gone : Released former released) (target : call.target = registration.next journal)
      (request : call.request = .activate settings) (succeeds : call.outcome = .ok ()) :
      Engagement catalog journal former settings role (.ok ())
        (.made call.target role :: (released ++ [.called call]))
        (registration.mount call.target (settings.driver role) role)
  | refuses (registration : Registration) (released : List Record) (call : Call)
      (cause : DeviceError)
      (chosen : catalog.choose role (settings.driver role) = .registered registration)
      (gone : Released former released) (target : call.target = registration.next journal)
      (request : call.request = .activate settings) (fails : call.outcome = .error cause) :
      Engagement catalog journal former settings role
        (.error (.activation role (settings.driver role) cause))
        (.made call.target role :: (released ++ [.called call])) .dummy

def Record.making? : Record → Option (Instance × Role)
  | .made target role => some (target, role)
  | .called _ => none

/-- A device was asked to come up, and that was its answer. -/
def AnswersActivation (records : List Record) (settings : Settings) (outcome : Outcome) : Prop :=
  ∃ call, .called call ∈ records ∧ call.request = .activate settings ∧ call.outcome = outcome

namespace Released

variable {former : Option Instance} {records : List Record}

theorem makes_nothing (released : Released former records) :
    records.filterMap Record.making? = [] := by
  cases released <;> rfl

theorem activates_nothing (released : Released former records) (settings : Settings)
    (outcome : Outcome) : ¬ AnswersActivation records settings outcome := by
  rintro ⟨call, listed, request, -⟩
  cases released with
  | nobody => cases listed
  | once other releases =>
    cases List.mem_singleton.mp listed
    cases releases.symm.trans request

theorem activates_once (released : Released former records) (role : Role) {call : Call}
    {settings : Settings} (request : call.request = .activate settings) (outcome : Outcome) :
    AnswersActivation (.made call.target role :: (records ++ [.called call])) settings outcome ↔
      call.outcome = outcome := by
  constructor
  · rintro ⟨other, listed, asked, answered⟩
    rcases List.mem_append.mp (List.mem_of_ne_of_mem (by simp) listed) with before | last
    · exact absurd ⟨other, before, asked, answered⟩ (released.activates_nothing settings outcome)
    · cases List.mem_singleton.mp last
      exact answered
  · exact fun answered => ⟨call, by simp, request, answered⟩

end Released

namespace Engagement

variable {catalog : Catalog} {journal : Journal} {former : Option Instance} {settings : Settings}
  {role : Role} {result : Except Fault Unit} {records : List Record} {mount : Mount}

theorem ok_iff (engagement : Engagement catalog journal former settings role result records mount) :
    result = .ok () ↔ settings.driver role = dummyName ∨
      catalog.contains role (settings.driver role) = true ∧
        AnswersActivation records settings (.ok ()) := by
  cases engagement with
  | dummy _ chosen => simp [(catalog.choose_eq_dummy_iff _ _).mp chosen]
  | leftOut _ chosen gone =>
    have other : settings.driver role ≠ dummyName := by
      rw [Ne, ← catalog.choose_eq_dummy_iff role, chosen]
      simp
    simp [other, gone.activates_nothing]
  | unknown _ chosen gone =>
    obtain ⟨other, -⟩ := Catalog.choose_eq_unknown_iff.mp chosen
    simp [other, gone.activates_nothing]
  | comesUp registration _ _ chosen gone _ request succeeds =>
    have wanted := Catalog.contains_of_wanted (Catalog.choose_eq_registered_iff.mp chosen)
    simp [wanted.2, gone.activates_once role request, succeeds]
  | refuses registration _ _ _ chosen gone _ request fails =>
    have wanted := Catalog.contains_of_wanted (Catalog.choose_eq_registered_iff.mp chosen)
    simp [wanted.1, gone.activates_once role request, fails]

theorem activation_iff
    (engagement : Engagement catalog journal former settings role result records mount)
    (cause : DeviceError) :
    result = .error (.activation role (settings.driver role) cause) ↔
      AnswersActivation records settings (.error cause) := by
  cases engagement with
  | dummy _ _ gone => simp [gone.activates_nothing]
  | leftOut _ _ gone => simp [gone.activates_nothing]
  | unknown _ _ gone => simp [gone.activates_nothing]
  | comesUp _ _ _ _ gone _ request succeeds =>
    simp [gone.activates_once role request, succeeds]
  | refuses _ _ _ _ _ gone _ request fails =>
    simp [gone.activates_once role request, fails]

theorem leftOut_iff
    (engagement : Engagement catalog journal former settings role result records mount) :
    result = .error (.driverLeftOut role (settings.driver role)) ↔
      catalog.contains role (settings.driver role) = false ∧
        settings.driver role ∈ leftOutDrivers role := by
  rw [← Catalog.choose_eq_leftOut_iff]
  cases engagement <;> simp_all

theorem unknown_iff
    (engagement : Engagement catalog journal former settings role result records mount) :
    result = .error (.unknownDriver role (settings.driver role)) ↔
      settings.driver role ≠ dummyName ∧ catalog.contains role (settings.driver role) = false ∧
        settings.driver role ∉ leftOutDrivers role := by
  rw [← Catalog.choose_eq_unknown_iff]
  cases engagement <;> simp_all

theorem faults (engagement : Engagement catalog journal former settings role result records mount)
    {fault : Fault} (failed : result = .error fault) :
    fault = .driverLeftOut role (settings.driver role) ∨
      fault = .unknownDriver role (settings.driver role) ∨
      ∃ cause, fault = .activation role (settings.driver role) cause := by
  cases engagement with
  | dummy => cases failed
  | comesUp => cases failed
  | leftOut => exact .inl (Except.error.inj failed).symm
  | unknown => exact .inr (.inl (Except.error.inj failed).symm)
  | refuses _ _ _ cause => exact .inr (.inr ⟨cause, (Except.error.inj failed).symm⟩)

theorem serves_dummy
    (engagement : Engagement catalog journal former settings role result records mount)
    (dummy : mount = .dummy) :
    catalog.choose role (settings.driver role) = .dummy ∨ ∃ fault, result = .error fault := by
  cases engagement with
  | dummy _ chosen => exact .inl chosen
  | comesUp => cases congrArg Mount.backend dummy
  | leftOut | unknown | refuses => exact .inr ⟨_, rfl⟩

theorem makes (engagement : Engagement catalog journal former settings role result records mount) :
    records.filterMap Record.making? =
      (catalog.wanted? role (settings.driver role)).toList.map fun registration =>
        (registration.next journal, role) := by
  have unwanted (chosen : ∀ registration,
      catalog.choose role (settings.driver role) ≠ .registered registration) :
      catalog.wanted? role (settings.driver role) = none := by
    rw [Option.eq_none_iff_forall_ne_some]
    exact fun registration wanted => chosen _ (Catalog.choose_eq_registered_iff.mpr wanted)
  cases engagement with
  | dummy _ chosen gone => simp [gone.makes_nothing, unwanted (by simp [chosen])]
  | leftOut _ chosen gone => simp [gone.makes_nothing, unwanted (by simp [chosen])]
  | unknown _ chosen gone => simp [gone.makes_nothing, unwanted (by simp [chosen])]
  | comesUp _ _ _ chosen gone target =>
    simp [Catalog.choose_eq_registered_iff.mp chosen, gone.makes_nothing, Record.making?, target]
  | refuses _ _ _ _ chosen gone target =>
    simp [Catalog.choose_eq_registered_iff.mp chosen, gone.makes_nothing, Record.making?, target]

end Engagement

/-- The mail after what devices did to a hub. -/
def Mailboxes.acted (mail : Mailboxes) (log : List Exchange) : Mailboxes :=
  log.foldl (fun mail exchange =>
    exchange.action.onMail?.elim mail fun command => (mail.apply command).2) mail

theorem Hub.logged_acted (mail : Mailboxes) : Logged fun log hub => hub.mail = mail.acted log where
  perform log hub action same := by
    rw [mail_perform, same, Mailboxes.acted, Mailboxes.acted, List.foldl_append]
    rfl
  note _ _ _ same := same
  markDummy _ _ _ _ same := same

namespace Rack

variable {rack : Rack} {role : Role} {settings : Settings}

theorem engage_role (rack : Rack) (name : RoleName) (settings : Settings) :
    rack.engage name settings = rack.engage name.role settings := by
  simp only [engage, Role.role_name]

theorem dummies_call (rack : Rack) (role : Role) (backend : Backend) (request : Request) :
    (rack.call role backend request).2.hub.clock.dummies = rack.hub.clock.dummies := by
  cases backend with
  | dummy => cases request <;> rfl
  | external target device =>
    exact ((device.respond rack.journal target request).run_dummies rack.hub).1

theorem dummies_unmount (rack : Rack) (role : Role) :
    (rack.unmount role).2.hub.clock.dummies = rack.hub.clock.dummies.set role true := by
  have marked : (rack.dismount role).hub.clock.dummies = rack.hub.clock.dummies.set role true := by
    simp [dismount, Hub.markDummy, Clock.markDummy]
  rw [unmount_eq]
  cases rack.mounts.get role with
  | none => exact marked
  | some mount =>
    have kept := (rack.dismount role).dummies_call role mount.backend .release
    rw [marked] at kept
    simp only
    split
    next known => simpa [known] using kept
    next known =>
      rw [known] at kept
      exact kept

theorem dummies_mount (rack : Rack) (role : Role) (driver : String) (backend : Backend) :
    (rack.mount role driver backend).hub.clock.dummies =
      rack.hub.clock.dummies.set role backend.isDummy := by
  simp [mount, Hub.markDummy, Clock.markDummy]

theorem dummies_mountDummy (rack : Rack) (role : Role) (settings : Settings) :
    (rack.mountDummy role settings).hub.clock.dummies = rack.hub.clock.dummies.set role true := by
  rw [mountDummy, dummies_call, dummies_mount]
  rfl

/-- The clock learns of the backend that is mounted in the end. -/
theorem dummies_install {driver : String} {backend : Backend} {mount : Mount}
    (mounts : (rack.install role driver backend settings).2.mounts =
      rack.mounts.set role (some mount)) :
    (rack.install role driver backend settings).2.hub.clock.dummies =
      rack.hub.clock.dummies.set role mount.backend.isDummy := by
  have called := ((rack.unmount role).2.mount role driver backend).dummies_call role backend
    (.activate settings)
  have kept := ((rack.unmount role).2.mount role driver backend).mounts_call role backend
    (.activate settings)
  rw [dummies_mount, dummies_unmount, PerRole.set_set] at called
  have here := congrArg (PerRole.get · role) mounts
  simp only [install, PerRole.get_set_self] at here ⊢
  split
  next after known =>
    simp only [known] at called kept here
    simp only [kept, Rack.mount, PerRole.get_set_self, Option.some.injEq] at here
    rw [called, ← here]
  next cause after known =>
    simp only [known, mounts_mountDummy, PerRole.get_set_self, Option.some.injEq] at called here
    have noted : (after.note (.activationFailed role driver cause)).hub.clock.dummies =
        rack.hub.clock.dummies.set role backend.isDummy := called
    rw [dummies_mountDummy, noted, PerRole.set_set, ← here]
    rfl

theorem dummies_engage {mount : Mount}
    (mounts : (rack.engage role settings).2.mounts = rack.mounts.set role (some mount)) :
    (rack.engage role settings).2.hub.clock.dummies =
      rack.hub.clock.dummies.set role mount.backend.isDummy := by
  simp only [engage, Role.role_name] at mounts ⊢
  split at mounts <;> exact dummies_install mounts

/-- What comes of engaging a role, told by what the rack was before. -/
structure Engages (rack : Rack) (role : Role) (settings : Settings) (result : Except Fault Unit)
    (after : Rack) (mount : Mount) (records : List Record) : Prop where
  engagement : Engagement rack.catalog rack.journal (rack.serving.get role) settings role result
    records mount
  mounts : after.mounts = rack.mounts.set role (some mount)
  journal : after.journal.toList = rack.journal.toList ++ records

theorem Installs.engages {after : Rack} {registration : Registration} {result : Except Fault Unit}
    (installs : (rack.make registration role).2.Installs role (settings.driver role)
      (rack.make registration role).1 settings result after)
    (chosen : rack.catalog.choose role (settings.driver role) = .registered registration) :
    ∃ mount records, rack.Engages role settings result after mount records := by
  obtain ⟨released, gone, emptied⟩ := (rack.make registration role).2.released_unmount role
  have made : (rack.make registration role).2.journal.toList = rack.journal.toList ++
      [.made (registration.next rack.journal) role] := Array.toList_push
  rw [made, List.append_assoc] at emptied
  cases installs with
  | dummy _ isDummy => cases isDummy
  | comesUp _ call mounted request succeeds mounts journal =>
    have target : call.target = registration.next rack.journal := (Option.some.inj mounted).symm
    refine ⟨registration.mount call.target (settings.driver role) role, _,
      .comesUp registration released call chosen gone target request succeeds, ?_, ?_⟩
    · rw [mounts, target]
      rfl
    · rw [journal, Array.toList_push, emptied, target]
      simp
  | refuses _ call cause mounted request fails mounts journal =>
    have target : call.target = registration.next rack.journal := (Option.some.inj mounted).symm
    refine ⟨.dummy, _, .refuses registration released call cause chosen gone target request fails,
      mounts, ?_⟩
    rw [journal, Array.toList_push, emptied, target]
    simp

theorem released_installDummy (rack : Rack) (role : Role) (settings : Settings) :
    ∃ released, Released (rack.serving.get role) released ∧
      (rack.install role dummyName .dummy settings).2.journal.toList =
        rack.journal.toList ++ released := by
  rw [install_dummy]
  exact rack.released_unmount role

theorem engages (rack : Rack) (role : Role) (settings : Settings) :
    ∃ mount records, rack.Engages role settings (rack.engage role settings).1
      (rack.engage role settings).2 mount records := by
  simp only [engage, Role.role_name]
  split
  next registration chosen =>
    obtain ⟨mount, records, engages⟩ := Installs.engages (installs ..) chosen
    exact ⟨mount, records, engages.engagement, engages.mounts, engages.journal⟩
  next chosen =>
    obtain ⟨released, gone, journal⟩ := released_installDummy (rack.note _) role settings
    exact ⟨.dummy, released, .dummy released chosen gone, mounts_installDummy .., journal⟩
  next chosen =>
    obtain ⟨released, gone, journal⟩ := released_installDummy ((rack.note _).note _) role settings
    exact ⟨.dummy, released, .leftOut released chosen gone,
      mounts_installDummy _ role settings, journal⟩
  next chosen =>
    obtain ⟨released, gone, journal⟩ := released_installDummy ((rack.note _).note _) role settings
    exact ⟨.dummy, released, .unknown released chosen gone,
      mounts_installDummy _ role settings, journal⟩

theorem Engages.provides {mount : Mount} {records : List Record}
    (engages : rack.Engages role settings (rack.engage role settings).1
      (rack.engage role settings).2 mount records) :
    mount.Provides settings role (rack.engage role settings).1 := by
  obtain ⟨other, mounts, provides⟩ := rack.engage_provides role settings
  have same := congrArg (PerRole.get · role) (engages.mounts.symm.trans mounts)
  obtain rfl : mount = other := by simpa using same
  exact provides

/-- Nothing but devices has acted on the mail. -/
theorem Engages.mail {mount : Mount} {records : List Record}
    (engages : rack.Engages role settings (rack.engage role settings).1
      (rack.engage role settings).2 mount records) :
    (rack.engage role settings).2.hub.mail =
      rack.hub.mail.acted (records.flatMap Record.exchanges) := by
  have logged := Hub.logged_acted rack.hub.mail
  have since := (logged.steady rack.journal.toList).engage role settings (.now rfl)
  exact since.holds engages.journal

theorem Heard.engage_dummy {lines : List Notice} (heard : rack.Heard lines)
    (chosen : rack.catalog.choose role (settings.driver role) = .dummy) :
    (rack.engage role settings).2.Heard (lines ++ [.dummyActivated role]) := by
  have noted :=
    (steady_heard lines).note rack (.activatingBackend role (settings.driver role)) heard
  have same (notice : Notice) : (rack.note notice).catalog.choose role (settings.driver role) =
      .dummy := chosen
  simp only [engage, Role.role_name, same]
  exact noted.installDummy role settings

theorem Engages.heard {mount : Mount} {records : List Record}
    (engages : rack.Engages role settings (rack.engage role settings).1
      (rack.engage role settings).2 mount records) (dummy : mount = .dummy) :
    (rack.engage role settings).2.Heard (rack.hub.notices.toList ++ [.dummyActivated role]) := by
  have heard : rack.Heard rack.hub.notices.toList := .refl _
  obtain chosen | ⟨fault, failed⟩ := engages.engagement.serves_dummy dummy
  · exact heard.engage_dummy chosen
  · exact heard.engage_error failed

/-- How a role fares when it is engaged, however it was served before. `mount` is what serves it
afterwards, and `records` has all that drivers and devices were asked. -/
structure FailsOver (rack : Rack) (role : Role) (settings : Settings)
    (result : Except Fault Unit) (after : Rack) (mount : Mount) (records : List Record) :
    Prop extends rack.Engages role settings result after mount records where
  provides : mount.Provides settings role result
  succeeds : result = .ok () ↔ settings.driver role = dummyName ∨
    rack.catalog.contains role (settings.driver role) = true ∧
      AnswersActivation records settings (.ok ())
  /-- The fault of the device is reported, though the dummy comes up in its place. -/
  refuses : ∀ cause, result = .error (.activation role (settings.driver role) cause) ↔
    AnswersActivation records settings (.error cause)
  leftOut : result = .error (.driverLeftOut role (settings.driver role)) ↔
    rack.catalog.contains role (settings.driver role) = false ∧
      settings.driver role ∈ leftOutDrivers role
  unknown : result = .error (.unknownDriver role (settings.driver role)) ↔
    settings.driver role ≠ dummyName ∧ rack.catalog.contains role (settings.driver role) = false ∧
      settings.driver role ∉ leftOutDrivers role
  faults : ∀ fault, result = .error fault →
    fault = .driverLeftOut role (settings.driver role) ∨
      fault = .unknownDriver role (settings.driver role) ∨
      ∃ cause, fault = .activation role (settings.driver role) cause
  makes : records.filterMap Record.making? =
    (rack.catalog.wanted? role (settings.driver role)).toList.map fun registration =>
      (registration.next rack.journal, role)
  /-- Where the dummy serves the role, it was brought up for it. -/
  heard : mount = .dummy →
    after.Heard (rack.hub.notices.toList ++ [.dummyActivated role])
  marks : after.hub.clock.dummies = rack.hub.clock.dummies.set role mount.backend.isDummy
  mail : after.hub.mail = rack.hub.mail.acted (records.flatMap Record.exchanges)

end Rack

/-- Whoever serves a role, it can be given the driver that settings choose. That succeeds just when
the driver is the dummy, or is in the catalog and its new device comes up; any other choice is
reported for what it is and leaves the dummy in place, which is up. The former device is released
once, before the new one is asked to come up, and its answer makes no difference. The other role
keeps its backend and its mark, and no mail is touched but by devices. -/
theorem role_fails_over (rack : Rack) (name : RoleName) (settings : Settings) :
    ∃ mount records, rack.FailsOver name.role settings (rack.engage name settings).1
      (rack.engage name settings).2 mount records := by
  obtain ⟨mount, records, engages⟩ := rack.engages name.role settings
  have engagement := engages.engagement
  rw [rack.engage_role]
  exact ⟨mount, records, {
    toEngages := engages
    provides := engages.provides
    succeeds := engagement.ok_iff
    refuses := engagement.activation_iff
    leftOut := engagement.leftOut_iff
    unknown := engagement.unknown_iff
    faults := fun fault failed => engagement.faults failed
    makes := engagement.makes
    heard := engages.heard
    marks := Rack.dummies_engage engages.mounts
    mail := engages.mail }⟩

-- The device that served the role is gone, and the one in its place does not come up.
example :
    let rack : Rack :=
      { catalog := Catalog.stubborn.add .audio "absent" fun _ _ => Script.absent.device }
    let serving := (rack.engage .audio { audioDriver := "stubborn" }).2
    (serving.driver .audio, (serving.engage .default { audioDriver := "absent" }).1,
        (serving.engage .default { audioDriver := "absent" }).2.driver .audio) =
      ("stubborn", .error (.activation .audio "absent" (.device "gone")), dummyName) := by
  decide +kernel

end AudioHost
