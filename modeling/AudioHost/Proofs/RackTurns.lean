import AudioHost.Proofs.DeviceStages
import AudioHost.Proofs.RackSteps

/-!
# Racks keep devices in turn

A rack keeps its journal orderly whatever its devices do: the device that is up for a role, as far
as the journal can tell, is always the one that is mounted for it.
-/

set_option autoImplicit false

namespace AudioHost

namespace Journal

/-- No device of the role has come up and is still to be released. -/
def Quiet (journal : Journal) (role : Role) : Prop := ∀ target, ¬ Active journal.toList role target

/-- Every device has a smaller serial number than the next one that its driver makes. -/
def Numbered (journal : Journal) : Prop :=
  ∀ target role, .made target role ∈ journal → target.serial < journal.madeBy target.registration

theorem madeBy_push_made (journal : Journal) (target : Instance) (role : Role)
    (registration : Nat) :
    madeBy (journal.push (.made target role)) registration =
      journal.madeBy registration + if target.registration = registration then 1 else 0 := by
  by_cases same : target.registration = registration <;> simp [madeBy, same]

theorem madeBy_push_called (journal : Journal) (call : Call) (registration : Nat) :
    madeBy (journal.push (.called call)) registration = journal.madeBy registration := by
  simp [madeBy]

theorem Numbered.called {journal : Journal} (numbered : journal.Numbered) (call : Call) :
    Numbered (journal.push (.called call)) := by
  intro target role member
  rw [madeBy_push_called]
  rcases Array.mem_push.mp member with before | new
  · exact numbered target role before
  · cases new

theorem Numbered.made {journal : Journal} (numbered : journal.Numbered) (registration : Nat)
    (role : Role) :
    Numbered (journal.push (.made ⟨registration, journal.madeBy registration⟩ role)) := by
  intro target other member
  rw [madeBy_push_made]
  rcases Array.mem_push.mp member with before | new
  · exact Nat.lt_add_right _ (numbered target other before)
  · cases new
    simp

theorem Numbered.unmade {journal : Journal} (numbered : journal.Numbered) (registration : Nat)
    (role : Role) : .made ⟨registration, journal.madeBy registration⟩ role ∉ journal.toList := by
  intro member
  have smaller := numbered _ role (Array.mem_def.mpr member)
  exact Nat.lt_irrefl _ smaller

end Journal

/-- A request that neither starts nor ends anything and may fail without consequence. -/
def Request.IsPlain : Request → Prop
  | .playbackStarted | .playbackStopped | .silence => True
  | .activate _ | .release | .adjust _ => False

def Backend.target? : Backend → Option Instance
  | .dummy => none
  | .external target _ => some target

namespace Rack

def serving (rack : Rack) : PerRole (Option Instance) :=
  ⟨rack.mounts.audio.bind fun mount => mount.backend.target?,
    rack.mounts.midi.bind fun mount => mount.backend.target?⟩

theorem serving_get (rack : Rack) (role : Role) :
    rack.serving.get role = (rack.mounts.get role).bind fun mount => mount.backend.target? := by
  cases role <;> rfl

/-- The journal is orderly, and the mounted devices are those that are up. -/
structure InTurn (rack : Rack) (turn : Turn) : Prop where
  orderly : Orderly rack.journal.toList rack.serving turn
  numbered : rack.journal.Numbered

inductive Asked (rack : Rack) (backend : Backend) (request : Request) (outcome : Outcome)
    (after : Rack) : Prop where
  | dummy (isDummy : backend = .dummy) (succeeds : outcome = .ok ())
      (journal : after.journal = rack.journal)
  | external (call : Call) (mounted : backend.target? = some call.target)
      (request : call.request = request) (outcome : call.outcome = outcome)
      (journal : after.journal = rack.journal.push (.called call))

theorem asked_call (rack : Rack) (role : Role) (backend : Backend) (request : Request) :
    rack.Asked backend request (rack.call role backend request).1
      (rack.call role backend request).2 := by
  cases backend with
  | dummy => cases request <;> exact .dummy rfl rfl rfl
  | external target device => exact .external _ rfl rfl rfl rfl

theorem mounts_call (rack : Rack) (role : Role) (backend : Backend) (request : Request) :
    (rack.call role backend request).2.mounts = rack.mounts := by
  cases backend with
  | dummy => cases request <;> rfl
  | external => rfl

theorem serving_set {rack after : Rack} {role : Role} {mount : Option Mount}
    (mounts : after.mounts = rack.mounts.set role mount) :
    after.serving = rack.serving.set role (mount.bind fun mount => mount.backend.target?) := by
  ext other : 1
  rw [serving_get, mounts]
  by_cases same : other = role
  · subst same
    simp
  · simp [same, serving_get]

theorem serving_congr {rack after : Rack} (mounts : after.mounts = rack.mounts) :
    after.serving = rack.serving := by
  simp only [serving, mounts]

@[simp] theorem journal_note (rack : Rack) (notice : Notice) :
    (rack.note notice).journal = rack.journal := rfl

@[simp] theorem mounts_note (rack : Rack) (notice : Notice) :
    (rack.note notice).mounts = rack.mounts := rfl

@[simp] theorem journal_dismount (rack : Rack) (role : Role) :
    (rack.dismount role).journal = rack.journal := rfl

@[simp] theorem mounts_dismount (rack : Rack) (role : Role) :
    (rack.dismount role).mounts = rack.mounts.set role none := rfl

theorem mounts_unmount (rack : Rack) (role : Role) :
    (rack.unmount role).2.mounts = rack.mounts.set role none := by
  rw [unmount_eq]
  cases rack.mounts.get role with
  | none => rfl
  | some mount =>
    have kept := (rack.dismount role).mounts_call role mount.backend .release
    simp only
    split
    next known => simpa [known] using kept
    next known => simpa [known] using kept

theorem serving_unmount (rack : Rack) (role : Role) :
    (rack.unmount role).2.serving = rack.serving.set role none :=
  serving_set (rack.mounts_unmount role)

theorem serving_mountDummy (rack : Rack) (role : Role) (settings : Settings) :
    (rack.mountDummy role settings).serving = rack.serving.set role none := by
  have mounts : (rack.mountDummy role settings).mounts =
      rack.mounts.set role (some ⟨dummyName, .dummy⟩) := rfl
  exact serving_set mounts

theorem journal_unmount (rack : Rack) (role : Role) :
    (rack.serving.get role = none ∧ (rack.unmount role).2.journal = rack.journal) ∨
      ∃ call, rack.serving.get role = some call.target ∧ call.request = .release ∧
        (rack.unmount role).2.journal = rack.journal.push (.called call) := by
  rw [serving_get, unmount_eq]
  cases rack.mounts.get role with
  | none => exact .inl ⟨rfl, rfl⟩
  | some mount =>
    have asked := (rack.dismount role).asked_call role mount.backend .release
    rcases known : (rack.dismount role).call role mount.backend .release with ⟨outcome, after⟩
    rw [known] at asked
    cases asked with
    | dummy isDummy succeeds journal =>
      left
      cases succeeds
      exact ⟨by simp [isDummy, Backend.target?], by simpa [known] using journal⟩
    | external call mounted request _ journal =>
      right
      refine ⟨call, mounted, request, ?_⟩
      cases outcome <;> simpa [known] using journal

/-- What may become of a backend that is put in the place of another one. -/
inductive Installs (rack : Rack) (role : Role) (driver : String) (backend : Backend)
    (settings : Settings) : Except Fault Unit → Rack → Prop where
  | dummy (after : Rack) (isDummy : backend = .dummy)
      (mounts : after.mounts = rack.mounts.set role (some ⟨driver, .dummy⟩))
      (journal : after.journal = (rack.unmount role).2.journal) :
      Installs rack role driver backend settings (.ok ()) after
  | comesUp (after : Rack) (call : Call) (mounted : backend.target? = some call.target)
      (request : call.request = .activate settings) (succeeds : call.outcome = .ok ())
      (mounts : after.mounts = rack.mounts.set role (some ⟨driver, backend⟩))
      (journal : after.journal = (rack.unmount role).2.journal.push (.called call)) :
      Installs rack role driver backend settings (.ok ()) after
  | refuses (after : Rack) (call : Call) (cause : DeviceError)
      (mounted : backend.target? = some call.target)
      (request : call.request = .activate settings) (fails : call.outcome = .error cause)
      (mounts : after.mounts = rack.mounts.set role (some ⟨dummyName, .dummy⟩))
      (journal : after.journal = (rack.unmount role).2.journal.push (.called call)) :
      Installs rack role driver backend settings (.error (.activation role driver cause)) after

theorem installs (rack : Rack) (role : Role) (driver : String) (backend : Backend)
    (settings : Settings) :
    rack.Installs role driver backend settings (rack.install role driver backend settings).1
      (rack.install role driver backend settings).2 := by
  have asked := ((rack.unmount role).2.mount role driver backend).asked_call role backend
    (.activate settings)
  have kept := ((rack.unmount role).2.mount role driver backend).mounts_call role backend
    (.activate settings)
  have mounted : ((rack.unmount role).2.mount role driver backend).mounts =
      rack.mounts.set role (some ⟨driver, backend⟩) := by simp [mount, mounts_unmount]
  rw [mounted] at kept
  simp only [install]
  rcases known : ((rack.unmount role).2.mount role driver backend).call role backend
    (.activate settings) with ⟨outcome, after⟩
  rw [known] at asked kept
  cases asked with
  | dummy isDummy succeeds journal =>
    subst isDummy
    cases succeeds
    exact .dummy after rfl kept journal
  | external call target request result journal =>
    cases outcome with
    | ok => exact .comesUp after call target request result kept journal
    | error cause =>
      refine .refuses _ call cause target request result ?_ journal
      -- The dummy is mounted over the backend that did not come up.
      have dummy : ((after.note (.activationFailed role driver cause)).mountDummy role
          settings).mounts = after.mounts.set role (some ⟨dummyName, .dummy⟩) := rfl
      rw [dummy, kept, PerRole.set_set]

namespace InTurn

variable {rack : Rack} {turn : Turn}

theorem withHub (inTurn : rack.InTurn turn) (hub : Hub) : InTurn { rack with hub } turn :=
  ⟨inTurn.orderly, inTurn.numbered⟩

theorem kept {after : Rack} (inTurn : rack.InTurn turn) (journal : after.journal = rack.journal)
    (serving : after.serving = rack.serving) : after.InTurn turn where
  orderly := by
    rw [journal, serving]
    exact inTurn.orderly
  numbered := by
    rw [journal]
    exact inTurn.numbered

theorem called {after : Rack} {turn' : Turn} {call : Call} (inTurn : rack.InTurn turn)
    (journal : after.journal = rack.journal.push (.called call))
    (follows : Follows rack.journal.toList rack.serving turn (.called call) after.serving turn') :
    after.InTurn turn' where
  orderly := by
    rw [journal, Array.toList_push]
    exact .snoc _ _ _ _ _ _ inTurn.orderly follows
  numbered := by
    rw [journal]
    exact inTurn.numbered.called call

theorem make (inTurn : rack.InTurn .idle) (registration : Registration) (role : Role) :
    InTurn (rack.make registration role).2
      (.awaiting ⟨registration.number, rack.journal.madeBy registration.number⟩ role) where
  orderly := by
    simp only [Rack.make, Array.toList_push]
    refine .snoc _ _ _ _ _ _ inTurn.orderly (.made _ role ?_)
    exact inTurn.numbered.unmade registration.number
  numbered := inTurn.numbered.made registration.number role

theorem unmount (inTurn : rack.InTurn turn) (role : Role)
    (patient : ∀ target other, turn ≠ .failing target other) :
    (rack.unmount role).2.InTurn turn := by
  rcases rack.journal_unmount role with ⟨vacant, journal⟩ | ⟨call, up, releases, journal⟩
  · refine inTurn.kept journal ?_
    rw [serving_unmount, ← vacant, PerRole.set_get_self]
  · refine inTurn.called journal ?_
    rw [serving_unmount]
    exact .released role call turn patient up releases

theorem dismiss {target : Instance} {role : Role} (inTurn : rack.InTurn (.failing target role)) :
    (rack.unmount role).2.InTurn .idle := by
  have up := inTurn.orderly.known.failing target role rfl
  rcases rack.journal_unmount role with ⟨vacant, _⟩ | ⟨call, up', releases, journal⟩
  · rw [vacant] at up
    cases up
  · rw [up] at up'
    cases up'
    refine inTurn.called journal ?_
    rw [serving_unmount]
    exact .dismissed role call releases

theorem mountDummy (inTurn : rack.InTurn turn) (role : Role) (settings : Settings)
    (vacant : rack.serving.get role = none) : (rack.mountDummy role settings).InTurn turn := by
  refine inTurn.kept rfl ?_
  rw [serving_mountDummy, ← vacant, PerRole.set_get_self]

theorem installDummy (inTurn : rack.InTurn .idle) (role : Role) (settings : Settings) :
    (rack.install role dummyName .dummy settings).2.InTurn .idle ∧
      (rack.install role dummyName .dummy settings).2.serving.get role = none := by
  have emptied := inTurn.unmount role (by simp)
  have vacant : (rack.unmount role).2.serving.get role = none := by simp [serving_unmount]
  have installed : (rack.install role dummyName .dummy settings).2 =
      (rack.unmount role).2.mountDummy role settings := rfl
  rw [installed, serving_mountDummy]
  exact ⟨emptied.mountDummy role settings vacant, by simp⟩

/-- A new device is brought up once the one before it is gone; if it does not come up, it is left
alone. -/
theorem installed {after : Rack} {target : Instance} {role : Role} {driver : String}
    {device : Device} {settings : Settings} {result : Except Fault Unit}
    (inTurn : rack.InTurn (.awaiting target role))
    (installs : rack.Installs role driver (.external target device) settings result after) :
    after.InTurn .idle ∧ ∀ fault, result = .error fault → after.serving.get role = none := by
  have emptied := inTurn.unmount role (by simp)
  have vacant : (rack.unmount role).2.serving.get role = none := by simp [serving_unmount]
  have set (next : Option Instance) :
      rack.serving.set role next = (rack.unmount role).2.serving.set role next := by
    rw [serving_unmount, PerRole.set_set]
  cases installs with
  | dummy after isDummy => cases isDummy
  | comesUp after call mounted request succeeds mounts journal =>
    cases mounted
    have up := (serving_set mounts).trans (set _)
    refine ⟨emptied.called journal ?_, by simp⟩
    rw [up]
    -- The mounts say already what the journal says only now.
    exact .activated role call vacant ⟨settings, request⟩ succeeds
  | refuses after call cause mounted request fails mounts journal =>
    cases mounted
    -- The dummy takes the place of the new device, so nothing serves the role, as before.
    have down : after.serving = (rack.unmount role).2.serving :=
      (serving_set mounts).trans (rack.serving_unmount role).symm
    refine ⟨emptied.called journal ?_, fun _ _ => down ▸ vacant⟩
    rw [down]
    exact .refused role call ⟨settings, request⟩ ⟨cause, fails⟩

theorem engage (inTurn : rack.InTurn .idle) (name : RoleName) (settings : Settings) :
    (rack.engage name settings).2.InTurn .idle ∧
      ∀ fault, (rack.engage name settings).1 = .error fault →
        (rack.engage name settings).2.serving.get name.role = none := by
  have noted :=
    inTurn.withHub (rack.hub.note (.activatingBackend name.role (settings.driver name.role)))
  simp only [Rack.engage]
  split
  -- Only a registered driver makes a device; whatever else is chosen ends with the dummy.
  next registration _ => exact (noted.make registration name.role).installed (installs ..)
  next =>
    obtain ⟨after, vacant⟩ := noted.installDummy name.role settings
    exact ⟨after, fun _ _ => vacant⟩
  next =>
    obtain ⟨after, vacant⟩ := (noted.withHub _).installDummy name.role settings
    exact ⟨after, fun _ _ => vacant⟩
  next =>
    obtain ⟨after, vacant⟩ := (noted.withHub _).installDummy name.role settings
    exact ⟨after, fun _ _ => vacant⟩

theorem vacate (inTurn : rack.InTurn .idle) (name : RoleName) :
    (rack.vacate name).2.InTurn .idle ∧
      (rack.vacate name).2.serving = rack.serving.set name.role none := by
  have emptied := inTurn.unmount name.role (by simp)
  exact ⟨emptied.withHub _, rack.serving_unmount name.role⟩

theorem served {role : Role} {mount : Mount} {request : Request} {outcome : Outcome} {after : Rack}
    (inTurn : rack.InTurn .idle) (mounted : rack.mounts.get role = some mount)
    (known : rack.call role mount.backend request = (outcome, after))
    (serves : ∀ call : Call, call.request = request → call.outcome = outcome → call.Serves) :
    after.InTurn .idle ∧ after.serving = rack.serving := by
  have kept := serving_congr (rack.mounts_call role mount.backend request)
  have asked := rack.asked_call role mount.backend request
  rw [known] at kept asked
  refine ⟨?_, kept⟩
  cases asked with
  | dummy _ _ journal => exact inTurn.kept journal kept
  | external call target same result journal =>
    have up : rack.serving.get role = some call.target := by
      rw [serving_get, mounted]
      exact target
    refine inTurn.called journal ?_
    rw [kept]
    exact .served role call up (serves call same result)

theorem faulted {role : Role} {mount : Mount} {settings : Settings} {cause : DeviceError}
    {after : Rack} (inTurn : rack.InTurn .idle) (mounted : rack.mounts.get role = some mount)
    (known : rack.call role mount.backend (.adjust settings) = (.error cause, after)) :
    ∃ target, after.InTurn (.failing target role) := by
  have kept := serving_congr (rack.mounts_call role mount.backend (.adjust settings))
  have asked := rack.asked_call role mount.backend (.adjust settings)
  rw [known] at kept asked
  cases asked with
  | dummy _ succeeds => cases succeeds
  | external call target same result journal =>
    have up : rack.serving.get role = some call.target := by
      rw [serving_get, mounted]
      exact target
    refine ⟨call.target, inTurn.called journal ?_⟩
    rw [kept]
    exact .failed role call up ⟨⟨settings, same⟩, cause, result⟩

theorem adjust (inTurn : rack.InTurn .idle) (name : RoleName) (settings : Settings) :
    (rack.adjust name settings).2.InTurn .idle ∧
      ∀ fault, (rack.adjust name settings).1 = .error fault →
        (rack.adjust name settings).2.serving.get name.role = none := by
  simp only [Rack.adjust]
  split
  next =>
    -- Another driver: the role is vacated first, then engaged as if for the first time.
    have noted :=
      inTurn.withHub (rack.hub.note (.switchingDriver name.role (settings.driver name.role)))
    have emptied := (noted.vacate name.role).1
    obtain ⟨after, vacant⟩ := (emptied.withHub _).engage name.role settings
    rw [Role.role_name] at vacant
    exact ⟨after, vacant⟩
  next mount found =>
    obtain ⟨mounted, -⟩ := Option.filter_eq_some_iff.mp found
    rcases known : rack.call name.role mount.backend (.adjust settings) with ⟨outcome, after⟩
    cases outcome with
    | ok =>
      refine ⟨(inTurn.served mounted known ?_).1, by simp⟩
      rintro call asked succeeds
      simp [Call.Serves, asked, succeeds]
    | error cause =>
      -- The device that failed goes down before anything else is asked of anyone.
      obtain ⟨target, failing⟩ := inTurn.faulted mounted known
      have emptied := (failing.withHub (after.hub.note (.adjustmentFailed name.role cause))).dismiss
      simp only [serving_mountDummy, PerRole.get_set_self, implies_true, and_true]
      refine emptied.mountDummy name.role settings ?_
      rw [serving_unmount, PerRole.get_set_self]

theorem pass (inTurn : rack.InTurn .idle) (name : RoleName) (request : Request)
    (plain : request.IsPlain) :
    (rack.pass name request).2.InTurn .idle ∧
      (rack.pass name request).2.serving = rack.serving := by
  simp only [Rack.pass]
  split
  next => exact ⟨inTurn, rfl⟩
  next mount mounted =>
    rcases known : rack.call name.role mount.backend request with ⟨outcome, after⟩
    have after := inTurn.served mounted known (fun call asked _ => by
      cases request <;> simp_all [Call.Serves, Request.IsPlain])
    cases outcome <;> exact after

theorem apply (inTurn : rack.InTurn .idle) (command : Command) :
    (rack.apply command).2.InTurn .idle := by
  cases command with
  | engage name settings => exact (inTurn.engage name settings).1
  | adjust name settings => exact (inTurn.adjust name settings).1
  | vacate name => exact (inTurn.vacate name).1
  | playbackStarted name => exact (inTurn.pass name .playbackStarted trivial).1
  | playbackStopped name => exact (inTurn.pass name .playbackStopped trivial).1
  | silence name => exact (inTurn.pass name .silence trivial).1
  | perform action => exact inTurn.withHub _
  | waitSignal => exact inTurn.withHub _

theorem run (inTurn : rack.InTurn .idle) (commands : List Command) :
    (rack.run commands).InTurn .idle := by
  induction commands generalizing rack with
  | nil => exact inTurn
  | cons command rest ih => exact ih (inTurn.apply command)

theorem quiet (inTurn : rack.InTurn .idle) {role : Role} (vacant : rack.serving.get role = none) :
    rack.journal.Quiet role := by
  intro target active
  rw [inTurn.orderly.serving_of_active active] at vacant
  cases vacant

end InTurn

theorem inTurn_new (catalog : Catalog) : InTurn { catalog } .idle where
  orderly := .empty
  numbered := by
    intro target role member
    cases Array.not_mem_empty _ member

theorem forBoth_snd (rack : Rack) (operation : Rack → Role → Except Fault Unit × Rack) :
    (rack.forBoth operation).2 = (operation (operation rack .audio).2 .midi).2 := by
  simp only [forBoth]
  split <;> rfl

theorem InTurn.close {rack : Rack} (inTurn : rack.InTurn .idle) :
    rack.close.InTurn .idle ∧ ∀ role, rack.close.serving.get role = none := by
  simp only [Rack.close, forBoth_snd, serving_unmount]
  refine ⟨(inTurn.unmount .audio (by simp)).unmount .midi (by simp), ?_⟩
  intro role
  cases role <;> rfl

theorem InTurn.vacateBoth {rack : Rack} (inTurn : rack.InTurn .idle) :
    (rack.forBoth fun rack role => rack.vacate role).2.InTurn .idle ∧
      ∀ role, (rack.forBoth fun rack role => rack.vacate role).2.serving.get role = none := by
  obtain ⟨audio, first⟩ := inTurn.vacate .audio
  obtain ⟨midi, second⟩ := audio.vacate .midi
  rw [first] at second
  rw [forBoth_snd]
  refine ⟨midi, ?_⟩
  intro role
  rw [Role.name, Role.name, second]
  cases role <;> rfl

end Rack

end AudioHost
