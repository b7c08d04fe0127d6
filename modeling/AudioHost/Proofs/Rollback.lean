import AudioHost.Proofs.Phases

/-!
# Failing as a whole

An operation that is refused leaves the session as it was. An activation that a driver spoils
reports the first failure, and what has come up by then is released again, once.
-/

set_option autoImplicit false

namespace AudioHost

/-- The session does not take an operation up. -/
def Fault.isRefusal : Fault → Bool
  | .alreadyActive | .invalidSettings _ => true
  | _ => false

/-- What may come of the driver that is chosen for a role: the device that serves it, if one does,
or a fault, and all that drivers and devices are asked for that. -/
inductive Trial (catalog : Catalog) (settings : Settings) (role : Role) :
    Except Fault (Option Instance) → List Record → Prop where
  | dummy (chosen : catalog.choose role (settings.driver role) = .dummy) :
      Trial catalog settings role (.ok none) []
  | leftOut (chosen : catalog.choose role (settings.driver role) = .leftOut) :
      Trial catalog settings role (.error (.driverLeftOut role (settings.driver role))) []
  | unknown (chosen : catalog.choose role (settings.driver role) = .unknown) :
      Trial catalog settings role (.error (.unknownDriver role (settings.driver role))) []
  | comesUp (registration : Registration) (call : Call)
      (chosen : catalog.choose role (settings.driver role) = .registered registration)
      (driver : call.target.registration = registration.number)
      (request : call.request = .activate settings) (succeeds : call.outcome = .ok ()) :
      Trial catalog settings role (.ok (some call.target)) [.made call.target role, .called call]
  | refuses (registration : Registration) (call : Call) (cause : DeviceError)
      (chosen : catalog.choose role (settings.driver role) = .registered registration)
      (driver : call.target.registration = registration.number)
      (request : call.request = .activate settings) (fails : call.outcome = .error cause) :
      Trial catalog settings role (.error (.activation role (settings.driver role) cause))
        [.made call.target role, .called call]

/-- A device that serves a role is released once, and nothing else is asked of anyone. -/
inductive Released : Option Instance → List Record → Prop where
  | nobody : Released none []
  | once (call : Call) (request : call.request = .release) :
      Released (some call.target) [.called call]

/-- What drivers and devices are asked when the first fault of an activation is that of a driver. -/
inductive FirstFailure (catalog : Catalog) (settings : Settings) (fault : Fault) :
    List Record → Prop where
  | audio (records : List Record) (audio : Trial catalog settings .audio (.error fault) records) :
      FirstFailure catalog settings fault records
  | midi (up : Option Instance) (first second last : List Record)
      (audio : Trial catalog settings .audio (.ok up) first)
      (midi : Trial catalog settings .midi (.error fault) second) (undone : Released up last) :
      FirstFailure catalog settings fault (first ++ second ++ last)

theorem Trial.blames {catalog : Catalog} {settings : Settings} {role : Role} {fault : Fault}
    {records : List Record} (trial : Trial catalog settings role (.error fault) records) :
    fault.blamesDriver = true := by
  cases trial <;> rfl

theorem FirstFailure.blames {catalog : Catalog} {settings : Settings} {fault : Fault}
    {records : List Record} (failure : FirstFailure catalog settings fault records) :
    fault.blamesDriver = true := by
  cases failure with
  | audio _ trial => exact trial.blames
  | midi _ _ _ _ _ trial => exact trial.blames

theorem Fault.accepted_of_blames {fault : Fault} (blames : fault.blamesDriver = true) :
    fault.isRefusal = false := by
  cases fault with
  | unknownDriver | driverLeftOut | activation => rfl
  | invalidSettings | relayNotStarted | backend | alreadyActive => cases blames

namespace Rack

theorem steady_catalog (catalog : Catalog) : Steady fun rack => rack.catalog = catalog where
  note _ _ same := same
  make _ _ _ same := same
  call rack role backend request same := by
    cases backend with
    | dummy => cases request <;> exact same
    | external => exact same
  mount _ _ _ _ same := same
  dismount _ _ same := same

theorem journal_unmount_vacant {rack : Rack} {role : Role} (vacant : rack.mounts.get role = none) :
    (rack.unmount role).2.journal = rack.journal := by
  rw [unmount_eq, vacant]
  rfl

theorem installDummy_vacant {rack : Rack} {role : Role} (vacant : rack.mounts.get role = none)
    (settings : Settings) :
    (rack.install role dummyName .dummy settings).1 = .ok () ∧
      (rack.install role dummyName .dummy settings).2.journal = rack.journal ∧
      (rack.install role dummyName .dummy settings).2.serving = rack.serving.set role none := by
  have installs := rack.installs role dummyName .dummy settings
  generalize (rack.install role dummyName .dummy settings).1 = result at installs ⊢
  generalize (rack.install role dummyName .dummy settings).2 = after at installs ⊢
  cases installs with
  | dummy after _ mounts journal =>
    exact ⟨rfl, journal.trans (journal_unmount_vacant vacant), serving_set mounts⟩
  | comesUp _ _ mounted => cases mounted
  | refuses _ _ _ mounted => cases mounted

/-- What becomes of a rack when a role that nothing is mounted for is engaged. -/
structure Tries (rack after : Rack) (role : Role) (settings : Settings) (result : Except Fault Unit)
    (tried : Except Fault (Option Instance)) (records : List Record) : Prop where
  trial : Trial rack.catalog settings role tried records
  result : result = tried.map fun _ => ()
  journal : after.journal.toList = rack.journal.toList ++ records
  serving : after.serving = rack.serving.set role tried.toOption.join

section

variable {rack after : Rack} {role : Role} {settings : Settings}
  {tried : Except Fault (Option Instance)} {records : List Record}

theorem Tries.fails {fault : Fault}
    (tries : rack.Tries after role settings (.error fault) tried records) :
    tried = .error fault := by
  have result := tries.result
  cases tried with
  | ok up => cases result
  | error other =>
    cases result
    rfl

theorem Tries.succeeds (tries : rack.Tries after role settings (.ok ()) tried records) :
    ∃ up, tried = .ok up := by
  have result := tries.result
  cases tried with
  | ok up => exact ⟨up, rfl⟩
  | error other => cases result

end

theorem Installs.tries {rack after : Rack} {role : Role} {settings : Settings}
    {registration : Registration} {result : Except Fault Unit}
    (installs : (rack.make registration role).2.Installs role (settings.driver role)
      (rack.make registration role).1 settings result after)
    (vacant : rack.mounts.get role = none)
    (chosen : rack.catalog.choose role (settings.driver role) = .registered registration) :
    ∃ tried records, rack.Tries after role settings result tried records := by
  have emptied : ((rack.make registration role).2.unmount role).2.journal = rack.journal.push
      (.made ⟨registration.number, rack.journal.madeBy registration.number⟩ role) :=
    journal_unmount_vacant vacant
  cases installs with
  | dummy _ isDummy => cases isDummy
  | comesUp _ call mounted request succeeds mounts journal =>
    have target := Option.some.inj mounted
    rw [emptied, target] at journal
    have driver : call.target.registration = registration.number := by rw [← target]
    refine ⟨.ok (some call.target), [.made call.target role, .called call],
      .comesUp registration call chosen driver request succeeds, rfl, by simp [journal], ?_⟩
    rw [serving_set mounts]
    exact congrArg _ mounted
  | refuses _ call cause mounted request fails mounts journal =>
    have target := Option.some.inj mounted
    rw [emptied, target] at journal
    have driver : call.target.registration = registration.number := by rw [← target]
    exact ⟨.error (.activation role (settings.driver role) cause),
      [.made call.target role, .called call],
      .refuses registration call cause chosen driver request fails, rfl, by simp [journal],
      serving_set mounts⟩

theorem tries_engage (rack : Rack) (role : Role) (settings : Settings)
    (vacant : rack.mounts.get role = none) :
    ∃ tried records, rack.Tries (rack.engage role settings).2 role settings
      (rack.engage role settings).1 tried records := by
  have noted (notice : Notice) : (rack.note notice).mounts.get role = none := vacant
  have warned (first second : Notice) :
      ((rack.note first).note second).mounts.get role = none := vacant
  simp only [engage, Role.role_name]
  split
  next registration chosen =>
    obtain ⟨tried, records, tries⟩ := (installs ..).tries (noted _) chosen
    exact ⟨tried, records, tries.trial, tries.result, tries.journal, tries.serving⟩
  next chosen =>
    obtain ⟨result, journal, serving⟩ := installDummy_vacant (noted _) settings
    exact ⟨.ok none, [], .dummy chosen, result, by simp [journal], serving⟩
  next chosen =>
    obtain ⟨_, journal, serving⟩ := installDummy_vacant (warned _ _) settings
    exact ⟨.error _, [], .leftOut chosen, rfl, by simp [journal], serving⟩
  next chosen =>
    obtain ⟨_, journal, serving⟩ := installDummy_vacant (warned _ _) settings
    exact ⟨.error _, [], .unknown chosen, rfl, by simp [journal], serving⟩

theorem accepted_engage {rack : Rack} {role : Role} {settings : Settings} {fault : Fault}
    (vacant : rack.mounts.get role = none) (failed : (rack.engage role settings).1 = .error fault) :
    fault.isRefusal = false := by
  obtain ⟨tried, records, tries⟩ := rack.tries_engage role settings vacant
  rw [failed] at tries
  cases tries.fails
  exact Fault.accepted_of_blames tries.trial.blames

theorem accepted_adjust {rack : Rack} {role : Role} {settings : Settings} {fault : Fault}
    (failed : (rack.adjust role settings).1 = .error fault) : fault.isRefusal = false := by
  simp only [adjust, Role.role_name] at failed
  split at failed
  next =>
    refine accepted_engage ?_ failed
    have emptied := ((rack.note (.switchingDriver role (settings.driver role))).mounts_unmount role)
    simp [vacate, emptied]
  next =>
    split at failed
    · cases failed
    · cases failed
      rfl

theorem forBoth_error {rack : Rack} {operation : Rack → Role → Except Fault Unit × Rack}
    {fault : Fault} (failed : (rack.forBoth operation).1 = .error fault) :
    (operation rack .audio).1 = .error fault ∨
      (operation (operation rack .audio).2 .midi).1 = .error fault := by
  simp only [forBoth] at failed
  split at failed
  · exact .inr failed
  next known =>
    cases failed
    exact .inl known

theorem released_unmount (rack : Rack) (role : Role) :
    ∃ records, Released (rack.serving.get role) records ∧
      (rack.unmount role).2.journal.toList = rack.journal.toList ++ records := by
  obtain ⟨vacant, journal⟩ | ⟨call, up, request, journal⟩ := rack.journal_unmount role
  · exact ⟨[], vacant ▸ .nobody, by simp [journal]⟩
  · exact ⟨[.called call], up ▸ .once call request, by simp [journal]⟩

theorem released_vacate (rack : Rack) (role : Role) :
    ∃ records, Released (rack.serving.get role) records ∧
      (rack.vacate role).2.journal.toList = rack.journal.toList ++ records := by
  simpa only [vacate, Role.role_name] using rack.released_unmount role

end Rack

namespace Session

theorem released_deactivate (session : Session) (quiet : session.rack.serving.get .midi = none) :
    ∃ records, Released (session.rack.serving.get .audio) records ∧
      session.deactivate.2.rack.journal.toList = session.rack.journal.toList ++ records := by
  have journal : session.deactivate.2.rack.journal = session.vacated.journal := by
    rw [deactivate_snd]
    dsimp only
    split <;> rfl
  simp only [journal, vacated, Rack.forBoth_snd]
  obtain ⟨first, released, audio⟩ :=
    Rack.released_vacate { session.rack with hub := session.station.clear.hub } .audio
  generalize known : (Rack.vacate { session.rack with hub := session.station.clear.hub }
    (Role.name .audio)).2 = rack at audio ⊢
  have still : rack.serving.get .midi = none := by
    rw [← known]
    exact (congrArg (PerRole.get · .midi) (Rack.serving_unmount _ .audio)).trans quiet
  obtain ⟨second, none, midi⟩ := rack.released_vacate .midi
  rw [still] at none
  cases none
  exact ⟨first, released, by rw [midi, audio, List.append_nil]⟩

/-- What a failure leaves to be undone is the device that serves audio by then. -/
theorem BringsUp.undone {session after : Session} {settings : Settings} {fault : Fault}
    (brought : session.BringsUp settings (.error fault) after)
    (vacant : ∀ role, session.rack.mounts.get role = none) :
    (∃ reason, session.refusal = some reason ∧ fault = .relayNotStarted reason) ∨
      ∃ records, after.rack.serving.get .midi = none ∧
        after.rack.journal.toList = session.rack.journal.toList ++ records ∧
        ∀ last, Released (after.rack.serving.get .audio) last →
          FirstFailure session.rack.catalog settings fault (records ++ last) := by
  have quiet (role : Role) : session.rack.serving.get role = none := by
    rw [Rack.serving_get, vacant role]
    rfl
  obtain ⟨_, first, audioTries⟩ := session.rack.tries_engage .audio settings (vacant .audio)
  simp only [Role.name] at audioTries
  cases brought with
  | audioFails _ rack audio =>
    simp only [audio] at audioTries
    cases audioTries.fails
    refine .inr ⟨first, ?_, audioTries.journal, ?_⟩
    · exact (congrArg (PerRole.get · .midi) audioTries.serving).trans (quiet .midi)
    · intro last released
      simp only [audioTries.serving] at released
      cases released
      rw [List.append_nil]
      exact .audio first audioTries.trial
  | midiFails _ before rack audio midi =>
    simp only [audio] at audioTries
    obtain ⟨up, rfl⟩ := audioTries.succeeds
    have empty : before.mounts.get .midi = none := by
      obtain ⟨_, mounts⟩ := session.rack.mounts_engage .audio settings
      rw [audio] at mounts
      exact (congrArg (PerRole.get · .midi) mounts).trans (vacant .midi)
    have catalog : before.catalog = session.rack.catalog := by
      have kept := (Rack.steady_catalog session.rack.catalog).engage .audio settings rfl
      rwa [audio] at kept
    obtain ⟨_, second, midiTries⟩ := before.tries_engage .midi settings empty
    simp only [Role.name] at midiTries
    simp only [midi] at midiTries
    cases midiTries.fails
    refine .inr ⟨first ++ second, ?_, ?_, ?_⟩
    · exact congrArg (PerRole.get · .midi) midiTries.serving
    · rw [midiTries.journal, audioTries.journal, List.append_assoc]
    · intro last released
      have serves : before.serving.get .audio = up :=
        congrArg (PerRole.get · .audio) audioTries.serving
      have still : rack.serving.get .audio = before.serving.get .audio := by
        rw [midiTries.serving]
        rfl
      simp only [still, serves] at released
      exact .midi up first second last audioTries.trial (catalog ▸ midiTries.trial) released
  | relayFails reason _ _ _ _ unwilling => exact .inl ⟨reason, unwilling, rfl⟩

theorem BringsUp.fails {session after : Session} {settings : Settings} {fault : Fault}
    (brought : session.BringsUp settings (.error fault) after)
    (vacant : ∀ role, session.rack.mounts.get role = none) :
    (∃ reason, session.refusal = some reason ∧ fault = .relayNotStarted reason) ∨
      ∃ records, FirstFailure session.rack.catalog settings fault records ∧
        (after.note (.sessionFailed fault)).deactivate.2.rack.journal.toList =
          session.rack.journal.toList ++ records := by
  refine (brought.undone vacant).imp_right ?_
  rintro ⟨records, quiet, journal, undone⟩
  obtain ⟨last, released, final⟩ :=
    (after.note (.sessionFailed fault)).released_deactivate quiet
  refine ⟨records ++ last, undone last released, ?_⟩
  rw [final, ← List.append_assoc]
  exact congrArg (· ++ last) journal

theorem BringsUp.accepted {session after : Session} {settings : Settings} {fault : Fault}
    (brought : session.BringsUp settings (.error fault) after)
    (vacant : ∀ role, session.rack.mounts.get role = none) : fault.isRefusal = false := by
  obtain ⟨reason, -, rfl⟩ | ⟨records, first, -⟩ := brought.fails vacant
  · rfl
  · exact Fault.accepted_of_blames first.blames

/-- How a session fails: it refuses an operation and stays as it is, or a driver or the system keeps
it from becoming active. -/
structure FailsWhole (session : Session) : Prop where
  active : ∀ settings, (session.activate settings).1 = .error .alreadyActive ↔
    session.settings.isSome = true
  invalid : ∀ settings cause, (session.activate settings).1 = .error (.invalidSettings cause) ↔
    session.settings = none ∧ settings.check = .error cause
  adjust_invalid : ∀ settings cause, (session.adjust settings).1 = .error (.invalidSettings cause) ↔
    settings.check = .error cause
  activate_refused : ∀ settings fault, (session.activate settings).1 = .error fault →
    fault.isRefusal = true → (session.activate settings).2 = session
  adjust_refused : ∀ settings fault, (session.adjust settings).1 = .error fault →
    fault.isRefusal = true → (session.adjust settings).2 = session
  activate_failed : ∀ settings fault, (session.activate settings).1 = .error fault →
    fault.isRefusal = true ∨
      (∃ reason, session.refusal = some reason ∧ fault = .relayNotStarted reason) ∨
      fault.blamesDriver = true ∧ ∃ records,
        FirstFailure session.rack.catalog settings fault records ∧
          (session.activate settings).2.rack.journal.toList =
            session.rack.journal.toList ++ records

section

variable {session after : Session} {settings : Settings} {result : Except Fault Unit}

theorem Activates.alreadyActive_iff (activates : session.Activates settings result after)
    (phased : session.Phased) :
    result = .error .alreadyActive ↔ session.settings.isSome = true := by
  cases activates with
  | alreadyActive active => simp [active]
  | invalid _ atRest => simp [atRest]
  | fails fault _ atRest _ brought =>
    have accepted := brought.accepted (phased.rest atRest).2
    simp only [atRest, Except.error.injEq, Option.isSome_none, Bool.false_eq_true, iff_false]
    rintro rfl
    cases accepted
  | succeeds _ atRest => simp [atRest]

theorem Activates.invalid_iff (activates : session.Activates settings result after)
    (phased : session.Phased) (cause : SettingsError) :
    result = .error (.invalidSettings cause) ↔
      session.settings = none ∧ settings.check = .error cause := by
  cases activates with
  | alreadyActive active =>
    have busy : session.settings ≠ none := Option.isSome_iff_ne_none.mp active
    simp [busy]
  | invalid _ atRest checked => simp [atRest, checked]
  | fails fault _ atRest checked brought =>
    have accepted := brought.accepted (phased.rest atRest).2
    simp only [checked, Except.error.injEq, reduceCtorEq, and_false, iff_false]
    rintro rfl
    cases accepted
  | succeeds _ _ checked => simp [checked]

theorem Activates.refused {fault : Fault}
    (activates : session.Activates settings (.error fault) after) (phased : session.Phased)
    (refused : fault.isRefusal = true) : after = session := by
  cases activates with
  | alreadyActive => rfl
  | invalid => rfl
  | fails _ _ atRest _ brought => simp [brought.accepted (phased.rest atRest).2] at refused

theorem Activates.failed {fault : Fault}
    (activates : session.Activates settings (.error fault) after) (phased : session.Phased) :
    fault.isRefusal = true ∨
      (∃ reason, session.refusal = some reason ∧ fault = .relayNotStarted reason) ∨
      fault.blamesDriver = true ∧ ∃ records,
        FirstFailure session.rack.catalog settings fault records ∧
          after.rack.journal.toList = session.rack.journal.toList ++ records := by
  cases activates with
  | alreadyActive => exact .inl rfl
  | invalid => exact .inl rfl
  | fails _ _ atRest _ brought =>
    right
    obtain unwilling | ⟨records, first, journal⟩ := brought.fails (phased.rest atRest).2
    · exact .inl unwilling
    · exact .inr ⟨first.blames, records, first, journal⟩

end

/-- The settings are sound, so a fault is one of a role, and none of those is a refusal. -/
theorem accepted_adjust {session : Session} {settings : Settings} {fault : Fault}
    (active : session.settings.isSome = true) (checked : settings.check = .ok ())
    (failed : (session.adjust settings).1 = .error fault) : fault.isRefusal = false := by
  have running : session.settings.isNone = false := by simpa using active
  simp only [adjust, running, Bool.false_eq_true, if_false, checked] at failed
  obtain audio | midi := Rack.forBoth_error failed
  · exact Rack.accepted_adjust audio
  · exact Rack.accepted_adjust midi

theorem adjust_unsound {session : Session} {settings : Settings} {cause : SettingsError}
    (active : session.settings.isSome = true) (checked : settings.check = .error cause) :
    session.adjust settings = (.error (.invalidSettings cause), session) := by
  have running : session.settings.isNone = false := by simpa using active
  simp only [adjust, running, Bool.false_eq_true, if_false, checked]

theorem Phased.activate_refused {session : Session} (phased : session.Phased) {settings : Settings}
    {fault : Fault} (failed : (session.activate settings).1 = .error fault)
    (refused : fault.isRefusal = true) : (session.activate settings).2 = session := by
  have activates := session.activates settings
  rw [failed] at activates
  exact activates.refused phased refused

theorem Phased.failsWhole {session : Session} (phased : session.Phased) :
    session.FailsWhole where
  active settings := (session.activates settings).alreadyActive_iff phased
  invalid settings := (session.activates settings).invalid_iff phased
  adjust_invalid settings cause := by
    cases known : session.settings with
    | none =>
      rw [adjust_resting known, (session.activates settings).invalid_iff phased]
      simp [known]
    | some former =>
      have active : session.settings.isSome = true := by simp [known]
      cases checked : settings.check with
      | error other => simp [adjust_unsound active checked]
      | ok sound =>
        simp only [reduceCtorEq, iff_false]
        intro failed
        cases accepted_adjust active checked failed
  activate_refused _ _ failed refused := phased.activate_refused failed refused
  adjust_refused settings fault failed refused := by
    cases known : session.settings with
    | none =>
      rw [adjust_resting known] at failed ⊢
      exact phased.activate_refused failed refused
    | some former =>
      have active : session.settings.isSome = true := by simp [known]
      cases checked : settings.check with
      | error other => rw [adjust_unsound active checked]
      | ok sound => simp [accepted_adjust active checked failed] at refused
  activate_failed settings fault failed := by
    have activates := session.activates settings
    rw [failed] at activates
    exact activates.failed phased

theorem phased_moveAll (catalog : Catalog) (moves : List Move) :
    ((ofCatalog catalog).moveAll moves).Phased :=
  moveAll_keeps Phased moves (fun _ move _ phased => phased.move move) (phased_new catalog)

end Session

/-- What a session refuses leaves it as it was, and it refuses just unsound settings and a second
activation. When a driver keeps it from becoming active, it reports the fault of the first one that
fails, audio before MIDI; no MIDI driver is asked for anything if that is the audio driver, and an
audio device that is up is released once. -/
theorem session_fails_whole (catalog : Catalog) (moves : List Session.Move) :
    ((Session.ofCatalog catalog).moveAll moves).FailsWhole :=
  (Session.phased_moveAll catalog moves).failsWhole

/-- A driver that never comes up. -/
def Script.absent : Script where
  label := "absent"
  failures := [(.activate, ⟨.device "gone", none⟩)]

-- The audio device cannot be released, but the fault is that of the MIDI driver.
example :
    let catalog := Catalog.stubborn.add .midi "absent" fun _ _ => Script.absent.device
    let settings : Settings := { audioDriver := "stubborn", midiDriver := "absent" }
    ((Session.ofCatalog catalog).activate settings).1 =
      .error (.activation .midi "absent" (.device "gone")) := by decide +kernel

end AudioHost
