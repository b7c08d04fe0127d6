import AudioHost.Proofs.AppliedSettings
import AudioHost.Proofs.FaultNames

/-!
# Faults that blame a driver

A fault blames a driver that could not be chosen or brought up. It does not blame one that came up
and then failed to do as it was asked, even if that costs it its place.
-/

set_option autoImplicit false

namespace AudioHost

section

variable {catalog : Catalog} {settings : Settings} {role : Role} {fault : Fault}
  {records : List Record}

theorem Trial.names (trial : Trial catalog settings role (.error fault) records) :
    fault.name? = some role.name := by
  cases trial <;> rfl

variable {former mount : Mount}

theorem Adjustment.names
    (adjustment : Adjustment catalog settings role former (.error fault) records mount) :
    fault.name? = some role.name := by
  cases adjustment with
  | fallsBack => rfl
  | switchFails _ _ _ _ _ trial => exact trial.names

theorem Adjustment.blames_iff
    (adjustment : Adjustment catalog settings role former (.error fault) records mount) :
    fault.blamesDriver = true ↔ former.driver ≠ settings.driver role := by
  cases adjustment with
  | fallsBack _ _ _ same => simp [same, Fault.blamesDriver]
  | switchFails _ _ _ other _ trial => simp [other, trial.blames]

end

namespace Rack

/-- No driver is blamed, whatever the result. -/
def Spares (result : Except Fault Unit) : Prop :=
  ∀ fault, result = .error fault → fault.blamesDriver = false

theorem spares_ok : Spares (.ok ()) := nofun

theorem spares_backend (role : Role) (cause : DeviceError) :
    Spares (.error (.backend role cause)) := by
  intro fault failed
  cases failed
  rfl

theorem spares_vacate (rack : Rack) (name : RoleName) : Spares (rack.vacate name).1 := by
  simp only [vacate, unmount_eq]
  cases rack.mounts.get name.role with
  | none => exact spares_ok
  | some mount =>
    simp only
    split
    · exact spares_ok
    · exact spares_backend _ _

theorem spares_pass (rack : Rack) (name : RoleName) (request : Request) :
    Spares (rack.pass name request).1 := by
  simp only [pass]
  split
  · exact spares_ok
  split
  · exact spares_ok
  · exact spares_backend _ _

theorem spares_forBoth (rack : Rack) {operation : Rack → Role → Except Fault Unit × Rack}
    (spares : ∀ rack role, Spares (operation rack role).1) : Spares (rack.forBoth operation).1 := by
  intro fault failed
  obtain audio | midi := forBoth_error failed
  · exact spares _ _ fault audio
  · exact spares _ _ fault midi

end Rack

namespace Session

/-- Which driver failed when an adjustment reports a fault: the one mounted for `role` so far, or
the one that was to take its place. Either way the dummy serves the role now. -/
structure FailsFor (session : Session) (settings : Settings) (fault : Fault) (role : Role)
    (former : Mount) : Prop where
  names : fault.name? = some role.name
  mounted : session.rack.mounts.get role = some former
  fallsBack : (session.adjust settings).2.rack.mounts.get role = some .dummy
  wanted : settings.driver role ≠ dummyName
  blames : fault.blamesDriver = true ↔ former.driver ≠ settings.driver role

/-- When a fault blames a driver. -/
structure BlamesDrivers (session : Session) : Prop where
  activates : ∀ settings fault, (session.activate settings).1 = .error fault →
    fault.blamesDriver = true ∧
        (∃ records, FirstFailure session.rack.catalog settings fault records) ∨
      fault.blamesDriver = false ∧ (fault.isRefusal = true ∨
        ∃ reason, session.refusal = some reason ∧ fault = .relayNotStarted reason)
  resting : session.settings = none →
    ∀ settings, session.adjust settings = session.activate settings
  unsound : ∀ settings cause, session.settings.isSome = true → settings.check = .error cause →
    session.adjust settings = (.error (.invalidSettings cause), session)
  adjusts : ∀ settings fault, session.settings.isSome = true → settings.check = .ok () →
    (session.adjust settings).1 = .error fault →
      ∃ role former, session.FailsFor settings fault role former
  deactivates : Rack.Spares session.deactivate.1
  passes : ∀ name request, Rack.Spares (session.pass name request).1
  passesBoth : ∀ request, Rack.Spares (session.passBoth request).1

theorem reported_eq_error {results : PerRole (Except Fault Unit)} {fault : Fault}
    (failed : reported results = .error fault) : ∃ role, results.get role = .error fault := by
  simp only [reported] at failed
  split at failed
  next known =>
    cases failed
    exact ⟨.audio, known⟩
  next => exact ⟨.midi, failed⟩

theorem Applies.failsFor {session : Session} {settings : Settings}
    {results : PerRole (Except Fault Unit)} {records : PerRole (List Record)}
    (applies : session.Applies settings results records) {fault : Fault}
    (failed : (session.adjust settings).1 = .error fault) :
    ∃ role former, session.FailsFor settings fault role former := by
  obtain ⟨role, failed⟩ := reported_eq_error (applies.result.symm.trans failed)
  obtain ⟨former, mount, mounted, -, adjustment⟩ := applies.adjusts role
  obtain ⟨fallsBack, -⟩ := applies.fallsBack role fault failed
  rw [failed] at adjustment
  refine ⟨role, former, adjustment.names, mounted, fallsBack, ?_, adjustment.blames_iff⟩
  intro wanted
  have got : results.get role = .ok () := by
    rw [applies.gets role, Rack.driver_mounted fallsBack, wanted]
    rfl
  rw [failed] at got
  cases got

theorem Activates.blames {session after : Session} {settings : Settings} {fault : Fault}
    (activates : session.Activates settings (.error fault) after) (phased : session.Phased) :
    fault.blamesDriver = true ∧
        (∃ records, FirstFailure session.rack.catalog settings fault records) ∨
      fault.blamesDriver = false ∧ (fault.isRefusal = true ∨
        ∃ reason, session.refusal = some reason ∧ fault = .relayNotStarted reason) := by
  obtain refused | ⟨reason, unwilling, rfl⟩ | ⟨blames, records, first, -⟩ := activates.failed phased
  · right
    refine ⟨?_, .inl refused⟩
    rw [← Bool.not_eq_true]
    intro blames
    simp [Fault.accepted_of_blames blames] at refused
  · exact .inr ⟨rfl, .inr ⟨reason, unwilling, rfl⟩⟩
  · exact .inl ⟨blames, records, first⟩

theorem spares_deactivate (session : Session) : Rack.Spares session.deactivate.1 := by
  rw [deactivate_fst]
  exact Rack.spares_forBoth _ fun rack role => rack.spares_vacate role

theorem spares_passBoth (session : Session) (request : Request) :
    Rack.Spares (session.passBoth request).1 :=
  session.rack.spares_forBoth fun rack role => rack.spares_pass role request

end Session

/-- However a session came about and however its drivers fail: the fault of an activation blames a
driver unless no driver was at fault. The fault of an adjustment blames one just when the role was
to have another driver than before; one that fails where it is loses its place to the dummy without
being blamed. All other operations leave the mounts alone or empty, and blame nobody. -/
theorem drivers_blamed (catalog : Catalog) (moves : List Session.Move) :
    ((Session.ofCatalog catalog).moveAll moves).BlamesDrivers := by
  have phased := Session.phased_moveAll catalog moves
  have proper := Session.proper_moveAll catalog moves
  generalize (Session.ofCatalog catalog).moveAll moves = session at phased proper
  constructor
  · intro settings fault failed
    have activates := session.activates settings
    rw [failed] at activates
    exact activates.blames phased
  · exact fun atRest settings => Session.adjust_resting atRest settings
  · exact fun settings cause active checked => Session.adjust_unsound active checked
  · intro settings fault active sound failed
    obtain ⟨results, records, applies⟩ := Session.applies phased proper active sound
    exact applies.failsFor failed
  · exact session.spares_deactivate
  · exact fun name request => session.rack.spares_pass name request
  · exact session.spares_passBoth

/-- A driver that is asked to adjust, fails and gives way to the dummy is not blamed for it. -/
theorem jammed_driver_unblamed :
    let session := (Session.ofCatalog .spindle).moveAll spindleMoves
    let settings : Settings := { audioDriver := "spindle" }
    ∃ fault, (session.adjust settings).1 = .error fault ∧ fault.blamesDriver = false ∧
      session.rack.driver .audio = settings.driver .audio ∧
      (session.adjust settings).2.rack.driver .audio = dummyName ∧
      (session.adjust settings).2.rack.driver .audio ≠ settings.driver .audio :=
  ⟨.backend .audio (.failed "jammed"), by decide +kernel⟩

end AudioHost
