import AudioHost.Proofs.RoleNames
import AudioHost.Proofs.SessionPairs

/-!
# The roles that faults name

A fault of a driver names the role that the driver was to serve, or served.
-/

set_option autoImplicit false

namespace AudioHost

def Fault.name? : Fault → Option RoleName
  | .unknownDriver name _ | .driverLeftOut name _ | .activation name .. | .backend name _ =>
    some name
  | .invalidSettings _ | .relayNotStarted _ | .alreadyActive => none

namespace Rack

/-- All that can go wrong is told by a fault that names the role. -/
def Blames (role : Role) (result : Except Fault Unit) : Prop :=
  ∀ fault, result = .error fault → fault.name? = some role.name

theorem blames_ok (role : Role) : Blames role (.ok ()) := by
  intro fault failed
  cases failed

theorem blames_error {role : Role} {fault : Fault} (named : fault.name? = some role.name) :
    Blames role (.error fault) := by
  intro other failed
  cases failed
  exact named

theorem blames_unmount (rack : Rack) (role : Role) : Blames role (rack.unmount role).1 := by
  rw [unmount_eq]
  cases rack.mounts.get role with
  | none => exact blames_ok role
  | some mount =>
    simp only
    split
    · exact blames_ok role
    · exact blames_error rfl

theorem blames_install (rack : Rack) (role : Role) (driver : String) (backend : Backend)
    (settings : Settings) : Blames role (rack.install role driver backend settings).1 := by
  simp only [install]
  split
  · exact blames_ok role
  · exact blames_error rfl

theorem blames_engage (rack : Rack) (name : RoleName) (settings : Settings) :
    Blames name.role (rack.engage name settings).1 := by
  simp only [engage]
  split
  · exact blames_install _ _ _ _ _
  · exact blames_install _ _ _ _ _
  · exact blames_error rfl
  · exact blames_error rfl

theorem blames_vacate (rack : Rack) (name : RoleName) : Blames name.role (rack.vacate name).1 :=
  rack.blames_unmount name.role

theorem blames_adjust (rack : Rack) (name : RoleName) (settings : Settings) :
    Blames name.role (rack.adjust name settings).1 := by
  simp only [adjust]
  split
  · simpa only [Role.role_name] using blames_engage _ name.role settings
  split
  · exact blames_ok name.role
  · exact blames_error rfl

theorem blames_pass (rack : Rack) (name : RoleName) (request : Request) :
    Blames name.role (rack.pass name request).1 := by
  simp only [pass]
  split
  · exact blames_ok name.role
  split
  · exact blames_ok name.role
  · exact blames_error rfl

theorem blames_forBoth (rack : Rack) {operation : Rack → Role → Except Fault Unit × Rack}
    (blames : ∀ rack role, Blames role (operation rack role).1) :
    ∃ role, Blames role (rack.forBoth operation).1 := by
  -- The first fault is told, so a fault of audio hides one of MIDI.
  have audio := blames rack .audio
  simp only [forBoth]
  split
  · exact ⟨.midi, blames _ .midi⟩
  next known =>
    rw [known] at audio
    exact ⟨.audio, audio⟩

theorem Blames.resolved {role : Role} {result : Except Fault Unit} (blames : Blames role result)
    {fault : Fault} (failed : result = .error fault) : fault.name? ≠ some .default := by
  rw [blames fault failed]
  simp

def Sight.fault? : Sight → Option Fault
  | .reply (.result (.error fault)) => some fault
  | _ => none

theorem fault_resolved (rack : Rack) (use : Use) :
    ∀ fault ∈ (rack.use use).1.fault?, fault.name? ≠ some .default := by
  have told {role : Role} {result : Except Fault Unit} (blames : Blames role result) :
      ∀ fault ∈ Sight.fault? (.reply (.result result)), fault.name? ≠ some .default := by
    intro fault failed
    cases result with
    | ok => cases failed
    | error other =>
      cases failed
      exact blames.resolved rfl
  cases use with
  | command command =>
    cases command with
    | engage name settings => exact told (rack.blames_engage name settings)
    | adjust name settings => exact told (rack.blames_adjust name settings)
    | vacate name => exact told (rack.blames_vacate name)
    | playbackStarted name => exact told (rack.blames_pass name .playbackStarted)
    | playbackStopped name => exact told (rack.blames_pass name .playbackStopped)
    | silence name => exact told (rack.blames_pass name .silence)
    | perform | waitSignal => simp [use, apply, Sight.fault?]
  | backend | driver | isMounted => simp [use, Sight.fault?]

end Rack

namespace Session

theorem resolved_deactivate (session : Session) {fault : Fault}
    (failed : session.deactivate.1 = .error fault) : fault.name? ≠ some .default := by
  rw [deactivate_fst] at failed
  obtain ⟨role, blames⟩ := Rack.blames_forBoth
    { session.rack with hub := session.station.clear.hub }
    fun rack role => by simpa only [Role.role_name] using rack.blames_vacate role.name
  exact blames.resolved failed

theorem BringsUp.resolved {session after : Session} {settings : Settings} {fault : Fault}
    (brought : session.BringsUp settings (.error fault) after) :
    fault.name? ≠ some .default := by
  cases brought with
  | audioFails _ rack audio =>
    exact (session.rack.blames_engage .audio settings).resolved (congrArg Prod.fst audio)
  | midiFails _ first rack _ midi =>
    exact (first.blames_engage .midi settings).resolved (congrArg Prod.fst midi)
  | relayFails => simp [Fault.name?]

theorem resolved_activate (session : Session) (settings : Settings) {fault : Fault}
    (failed : (session.activate settings).1 = .error fault) : fault.name? ≠ some .default := by
  have activates := session.activates settings
  rw [failed] at activates
  generalize (session.activate settings).2 = after at activates
  cases activates with
  | alreadyActive => simp [Fault.name?]
  | invalid => simp [Fault.name?]
  | fails _ _ _ _ brought => exact brought.resolved

theorem resolved_adjust (session : Session) (settings : Settings) {fault : Fault}
    (failed : (session.adjust settings).1 = .error fault) : fault.name? ≠ some .default := by
  simp only [adjust] at failed
  split at failed
  · exact session.resolved_activate settings failed
  split at failed
  · cases failed
    simp [Fault.name?]
  · obtain ⟨role, blames⟩ := session.rack.blames_forBoth fun rack role => by
      simpa only [Role.role_name] using rack.blames_adjust role.name settings
    exact blames.resolved failed

theorem resolved_passBoth (session : Session) (request : Request) {fault : Fault}
    (failed : (session.passBoth request).1 = .error fault) : fault.name? ≠ some .default := by
  obtain ⟨role, blames⟩ := session.rack.blames_forBoth fun rack role => by
    simpa only [Role.role_name] using rack.blames_pass role.name request
  exact blames.resolved failed

def Reply.fault? : Reply → Option Fault
  | .result (.error fault) => some fault
  | _ => none

def Sight.fault? : Sight → Option Fault
  | .reply answer _ => answer.fault?
  | _ => none

theorem fault_resolved (session : Session) (use : Use) :
    ∀ fault ∈ (session.use use).1.fault?, fault.name? ≠ some .default := by
  have told {result : Except Fault Unit}
      (resolved : ∀ {fault}, result = .error fault → fault.name? ≠ some .default) :
      ∀ fault ∈ Reply.fault? (.result result), fault.name? ≠ some .default := by
    intro fault failed
    cases result with
    | ok => cases failed
    | error other =>
      cases failed
      exact resolved rfl
  cases use with
  | operate command =>
    cases command with
    | activate settings => exact told (session.resolved_activate settings)
    | adjust settings => exact told (session.resolved_adjust settings)
    | deactivate => exact told session.resolved_deactivate
    | playbackStarted => exact told (session.resolved_passBoth .playbackStarted)
    | playbackStopped => exact told (session.resolved_passBoth .playbackStopped)
    | silence name => exact told (session.rack.blames_pass name .silence).resolved
    | receive receiver =>
      simp only [Session.use, apply]
      split <;> simp [Sight.fault?, Reply.fault?]
    | perform | collect | subscribe | lapse | refuse =>
      simp [Session.use, apply, Sight.fault?, Reply.fault?]
  | settle | backend | driver => simp [Session.use, Sight.fault?]

end Session

end AudioHost
