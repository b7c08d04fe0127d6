import AudioHost.Proofs.RackTurns
import AudioHost.Proofs.SessionSteps

/-!
# Devices of a host live in order

A session does nothing to devices but through its rack, and has none mounted while it is at rest. So
what a rack promises about its devices holds in every run of a session too.
-/

set_option autoImplicit false

namespace AudioHost

namespace Session

structure InTurn (session : Session) : Prop where
  devices : session.rack.InTurn .idle
  rest : session.settings = none → ∀ role, session.rack.serving.get role = none

namespace InTurn

variable {session : Session}

theorem withRack {rack : Rack} (inTurn : session.InTurn) (devices : rack.InTurn .idle)
    (serving : rack.serving = session.rack.serving) : InTurn { session with rack } where
  devices := devices
  rest := by
    intro atRest role
    rw [serving]
    exact inTurn.rest atRest role

theorem withStation (inTurn : session.InTurn) (station : Station) :
    (session.withStation station).InTurn :=
  ⟨inTurn.devices.withHub _, inTurn.rest⟩

theorem pass (inTurn : session.InTurn) (name : RoleName) (request : Request)
    (plain : request.IsPlain) : (session.pass name request).2.InTurn := by
  obtain ⟨devices, serving⟩ := inTurn.devices.pass name request plain
  exact inTurn.withRack devices serving

theorem passBoth (inTurn : session.InTurn) (request : Request) (plain : request.IsPlain) :
    (session.passBoth request).2.InTurn := by
  obtain ⟨audio, first⟩ := inTurn.devices.pass .audio request plain
  obtain ⟨midi, second⟩ := audio.pass .midi request plain
  simp only [Session.passBoth, Rack.forBoth_snd]
  exact inTurn.withRack midi (second.trans first)

end InTurn

theorem vacant_deactivate {session : Session} (devices : session.rack.InTurn .idle) :
    session.deactivate.2.rack.InTurn .idle ∧
      ∀ role, session.deactivate.2.rack.serving.get role = none := by
  obtain ⟨emptied, vacant⟩ := (devices.withHub session.station.clear.hub).vacateBoth
  simp only [deactivate]
  split
  · exact ⟨emptied, vacant⟩
  · exact ⟨emptied.withHub _, vacant⟩

theorem inTurn_deactivate {session : Session} (devices : session.rack.InTurn .idle) :
    session.deactivate.2.InTurn :=
  ⟨(vacant_deactivate devices).1, fun _ => (vacant_deactivate devices).2⟩

theorem BringsUp.inTurn {session after : Session} {settings : Settings}
    {result : Except Fault Unit} (brought : session.BringsUp settings result after)
    (devices : session.rack.InTurn .idle) : after.rack.InTurn .idle := by
  have audio := (devices.engage .audio settings).1
  have midi := (audio.engage .midi settings).1
  cases brought with
  | audioFails fault rack failed => simpa only [failed] using audio
  | midiFails fault first rack up failed => simpa only [up, failed] using midi
  | relayFails reason first rack up also => simpa only [up, also] using midi
  | comesUp first rack up also =>
    simp only [up, also] at midi
    exact midi.withHub _

/-- A session that could not be made active has nothing mounted, unless it was active before. -/
theorem Activates.inTurn {session after : Session} {settings : Settings}
    {result : Except Fault Unit} (activates : session.Activates settings result after)
    (inTurn : session.InTurn) :
    after.InTurn ∧ ∀ fault, result = .error fault →
      (session.settings.isSome ∧ fault = .alreadyActive ∧ after = session) ∨
        ∀ role, after.rack.serving.get role = none := by
  have prepared : (session.prepared settings).rack.InTurn .idle := inTurn.devices.withHub _
  cases activates with
  | alreadyActive active =>
    refine ⟨inTurn, ?_⟩
    rintro fault ⟨⟩
    exact .inl ⟨active, rfl, rfl⟩
  | invalid cause atRest => exact ⟨inTurn, fun _ _ => .inr (inTurn.rest atRest)⟩
  | fails fault after atRest checked brought =>
    -- However far it came before a failure, deactivation vacates both roles.
    have noted : (after.note (.sessionFailed fault)).rack.InTurn .idle :=
      (brought.inTurn prepared).withHub _
    exact ⟨inTurn_deactivate noted, fun _ _ => .inr (vacant_deactivate noted).2⟩
  | succeeds after atRest checked brought =>
    exact ⟨⟨brought.inTurn prepared, by simp⟩, by simp⟩

theorem inTurn_adjust {session : Session} (inTurn : session.InTurn) (settings : Settings) :
    (session.adjust settings).2.InTurn := by
  simp only [adjust]
  split
  · exact ((session.activates settings).inTurn inTurn).1
  split
  · exact inTurn
  · have audio := (inTurn.devices.adjust .audio settings).1
    have midi := (audio.adjust .midi settings).1
    refine ⟨?_, by simp⟩
    rw [Rack.forBoth_snd]
    exact midi

theorem inTurn_apply {session : Session} (inTurn : session.InTurn) (command : Command) :
    (session.apply command).2.2.InTurn := by
  cases command with
  | activate settings => exact ((session.activates settings).inTurn inTurn).1
  | adjust settings => exact inTurn_adjust inTurn settings
  | deactivate => exact inTurn_deactivate inTurn.devices
  | playbackStarted => exact inTurn.passBoth .playbackStarted trivial
  | playbackStopped => exact inTurn.passBoth .playbackStopped trivial
  | silence name => exact inTurn.pass name .silence trivial
  | perform action => exact ⟨inTurn.devices.withHub _, inTurn.rest⟩
  | collect => exact ⟨inTurn.devices, inTurn.rest⟩
  | subscribe => exact ⟨inTurn.devices, inTurn.rest⟩
  | receive receiver =>
    simp only [apply]
    split
    · exact inTurn
    · exact ⟨inTurn.devices, inTurn.rest⟩
  | lapse => exact inTurn.withStation _
  | refuse refusal => exact ⟨inTurn.devices, inTurn.rest⟩

theorem inTurn_run {session : Session} (inTurn : session.InTurn) (commands : List Command) :
    (session.run commands).InTurn := by
  induction commands generalizing session with
  | nil => exact inTurn
  | cons command rest ih => exact ih ((inTurn_apply inTurn command).withStation _)

end Session

structure Rack.LivesInOrder (rack : Rack) : Prop where
  inOrder : rack.journal.InOrder
  vacated : ∀ name, (rack.vacate name).2.journal.Quiet name.role
  notEngaged : ∀ name settings fault, (rack.engage name settings).1 = .error fault →
    (rack.engage name settings).2.journal.Quiet name.role
  notAdjusted : ∀ name settings fault, (rack.adjust name settings).1 = .error fault →
    (rack.adjust name settings).2.journal.Quiet name.role
  closed : rack.close.journal.InOrder ∧ ∀ role, rack.close.journal.Quiet role

structure Session.LivesInOrder (session : Session) : Prop where
  inOrder : session.rack.journal.InOrder
  resting : session.settings = none → ∀ role, session.rack.journal.Quiet role
  deactivated : ∀ role, session.deactivate.2.rack.journal.Quiet role
  notActivated : ∀ settings fault, (session.activate settings).1 = .error fault →
    (session.settings.isSome ∧ fault = .alreadyActive ∧
      (session.activate settings).2 = session) ∨
      ∀ role, (session.activate settings).2.rack.journal.Quiet role
  closed : session.close.rack.journal.InOrder ∧ ∀ role, session.close.rack.journal.Quiet role

theorem Rack.InTurn.livesInOrder {rack : Rack} (inTurn : rack.InTurn .idle) :
    rack.LivesInOrder where
  inOrder := inTurn.orderly.inOrder
  vacated := by
    intro name
    obtain ⟨after, emptied⟩ := inTurn.vacate name
    exact after.quiet (by simp [emptied])
  notEngaged := by
    intro name settings fault failed
    obtain ⟨after, vacant⟩ := inTurn.engage name settings
    exact after.quiet (vacant fault failed)
  notAdjusted := by
    intro name settings fault failed
    obtain ⟨after, vacant⟩ := inTurn.adjust name settings
    exact after.quiet (vacant fault failed)
  closed := by
    obtain ⟨after, vacant⟩ := inTurn.close
    exact ⟨after.orderly.inOrder, fun role => after.quiet (vacant role)⟩

theorem Session.InTurn.livesInOrder {session : Session} (inTurn : session.InTurn) :
    session.LivesInOrder where
  inOrder := inTurn.devices.orderly.inOrder
  resting := by
    intro atRest role
    exact inTurn.devices.quiet (inTurn.rest atRest role)
  deactivated := by
    intro role
    obtain ⟨after, vacant⟩ := vacant_deactivate inTurn.devices
    exact after.quiet (vacant role)
  notActivated := by
    intro settings fault failed
    obtain ⟨after, ending⟩ := (session.activates settings).inTurn inTurn
    rcases ending fault failed with refused | vacant
    · exact .inl refused
    · exact .inr fun role => after.devices.quiet (vacant role)
  closed := (vacant_deactivate inTurn.devices).1.livesInOrder.closed

/-- Whatever the drivers of a catalog do and wherever they fail, every device comes up at most once
and before anything else, serves, and goes down at most once and last, and the devices of one role
take turns. This holds for every run of a rack and for every run of a session. -/
theorem devices_live_in_order (catalog : Catalog) :
    (∀ commands, (Rack.run { catalog } commands).LivesInOrder) ∧
      ∀ commands, ((Session.ofCatalog catalog).run commands).LivesInOrder := by
  constructor
  · intro commands
    exact ((Rack.inTurn_new catalog).run commands).livesInOrder
  · intro commands
    have fresh : (Session.ofCatalog catalog).InTurn := ⟨Rack.inTurn_new catalog, fun _ role => by
      cases role <;> rfl⟩
    exact (Session.inTurn_run fresh commands).livesInOrder

end AudioHost
