import AudioHost.Proofs.Adjustments

/-!
# Settings and the drivers that are mounted

An active session applies settings to both roles, and afterwards each has either the driver it was
to have or the dummy. Success is reported just when no role had to make do with the dummy.
-/

set_option autoImplicit false

namespace AudioHost

theorem Mailboxes.lanes_afresh (mail : Mailboxes) (role other : Role) (size : MailboxSize) :
    ((mail.clear role).renew role size).lanes.get other =
      if other = role then ((mail.lanes.get role).replace .closed).replace (.make size)
      else mail.lanes.get other := by
  simp only [renew, clear, Role.role_name, PerRole.get_set_self, PerRole.set_set, PerRole.get_set]

namespace Rack.Adjusted

variable {rack : Rack} {role : Role} {settings : Settings} {former mount : Mount}
  {records : List Record}

theorem lanes (adjusted : rack.Adjusted role settings former mount records)
    (mounted : rack.mounts.get role = some former)
    (spared : ∀ record ∈ records, record.SparesMail) :
    (rack.adjust role settings).2.hub.mail.lanes.get role =
      if rack.driver role = settings.driver role then rack.hub.mail.lanes.get role
      else ((rack.hub.mail.lanes.get role).replace .closed).replace
        (.make (settings.mailboxSize role)) := by
  rw [driver_mounted mounted, mail_adjust mounted adjusted.journal spared]
  split
  · rfl
  · rw [Mailboxes.lanes_afresh, if_pos rfl]

theorem lanes_other (adjusted : rack.Adjusted role settings former mount records)
    (mounted : rack.mounts.get role = some former)
    (spared : ∀ record ∈ records, record.SparesMail) (other : Role) (different : other ≠ role) :
    (rack.adjust role settings).2.hub.mail.lanes.get other = rack.hub.mail.lanes.get other := by
  rw [mail_adjust mounted adjusted.journal spared]
  split
  · rfl
  · rw [Mailboxes.lanes_afresh, if_neg different]

theorem provides (adjusted : rack.Adjusted role settings former mount records)
    (proper : rack.Proper) : mount.Provides settings role (rack.adjust role settings).1 := by
  obtain ⟨other, mounts, provides⟩ := adjust_provides proper role settings
  have same := congrArg (PerRole.get · role) (adjusted.mounts.symm.trans mounts)
  obtain rfl : mount = other := by simpa using same
  exact provides

end Rack.Adjusted

namespace Rack

/-- Adjust both roles, audio first, whatever comes of it. -/
def adjustBoth (rack : Rack) (settings : Settings) : PerRole (Except Fault Unit) × Rack :=
  let (audio, rack) := rack.adjust Role.audio settings
  let (midi, rack) := rack.adjust Role.midi settings
  (⟨audio, midi⟩, rack)

/-- Who served each role before and who does after it, and what drivers and devices were asked for
each. -/
structure AdjustedBoth (rack : Rack) (settings : Settings) (former mount : PerRole Mount)
    (records : PerRole (List Record)) : Prop where
  mounted : ∀ role, rack.mounts.get role = some (former.get role)
  audio : rack.Adjusted .audio settings former.audio mount.audio records.audio
  midi : (rack.adjust Role.audio settings).2.Adjusted .midi settings former.midi mount.midi
    records.midi

theorem adjustedBoth {rack : Rack} (mounted : ∀ role, (rack.mounts.get role).isSome)
    (settings : Settings) :
    ∃ former mount records, rack.AdjustedBoth settings former mount records := by
  obtain ⟨audio, audioMounted⟩ := Option.isSome_iff_exists.mp (mounted .audio)
  obtain ⟨midi, midiMounted⟩ := Option.isSome_iff_exists.mp (mounted .midi)
  obtain ⟨audioMount, audioRecords, first⟩ := adjusted audioMounted settings
  have still : (rack.adjust Role.audio settings).2.mounts.get .midi = some midi := by
    rw [first.mounts]
    exact midiMounted
  obtain ⟨midiMount, midiRecords, second⟩ := adjusted still settings
  refine ⟨⟨audio, midi⟩, ⟨audioMount, midiMount⟩, ⟨audioRecords, midiRecords⟩, ?_, first, second⟩
  intro role
  cases role with
  | audio => exact audioMounted
  | midi => exact midiMounted

/-- The dummy that takes the place of a driver that failed comes up. -/
theorem heard_adjustBoth {rack : Rack} {settings : Settings} {role : Role} {fault : Fault}
    (failed : (rack.adjustBoth settings).1.get role = .error fault) :
    (rack.adjustBoth settings).2.Heard (rack.hub.notices.toList ++ [.dummyActivated role]) := by
  have heard : rack.Heard rack.hub.notices.toList := .refl _
  cases role with
  | audio =>
    have first : (rack.adjust Role.audio settings).1 = .error fault := failed
    exact Heard.adjust (heard.adjust_error first) .midi settings
  | midi =>
    have second : ((rack.adjust Role.audio settings).2.adjust Role.midi settings).1 =
      .error fault := failed
    exact Heard.adjust_error (heard.adjust .audio settings) second

namespace AdjustedBoth

variable {rack : Rack} {settings : Settings} {former mount : PerRole Mount}
  {records : PerRole (List Record)}

theorem between (both : rack.AdjustedBoth settings former mount records) :
    (rack.adjust Role.audio settings).2.mounts.get .midi = some former.midi := by
  rw [both.audio.mounts]
  exact both.mounted .midi

theorem mounts (both : rack.AdjustedBoth settings former mount records) (role : Role) :
    (rack.adjustBoth settings).2.mounts.get role = some (mount.get role) := by
  have last : (rack.adjustBoth settings).2.mounts =
      (rack.adjust Role.audio settings).2.mounts.set .midi (some mount.midi) := both.midi.mounts
  rw [last, both.audio.mounts]
  cases role <;> rfl

theorem adjustment (both : rack.AdjustedBoth settings former mount records) (role : Role) :
    Adjustment rack.catalog settings role (former.get role)
      ((rack.adjustBoth settings).1.get role) (records.get role) (mount.get role) := by
  have catalog : (rack.adjust Role.audio settings).2.catalog = rack.catalog :=
    (steady_catalog _).adjust .audio settings (fun _ same => same) (fun _ same => same) rfl
  cases role with
  | audio => exact both.audio.adjustment
  | midi => exact catalog ▸ both.midi.adjustment

theorem journal (both : rack.AdjustedBoth settings former mount records) :
    (rack.adjustBoth settings).2.journal.toList =
      rack.journal.toList ++ records.audio ++ records.midi :=
  both.midi.journal.trans (congrArg (· ++ records.midi) both.audio.journal)

theorem provides (both : rack.AdjustedBoth settings former mount records) (proper : rack.Proper)
    (role : Role) :
    (mount.get role).Provides settings role ((rack.adjustBoth settings).1.get role) := by
  cases role with
  | audio => exact both.audio.provides proper
  | midi => exact both.midi.provides (proper.adjust .audio settings)

theorem lanes (both : rack.AdjustedBoth settings former mount records)
    (spared : ∀ role, ∀ record ∈ records.get role, record.SparesMail) (role : Role) :
    (rack.adjustBoth settings).2.hub.mail.lanes.get role =
      if rack.driver role = settings.driver role then rack.hub.mail.lanes.get role
      else ((rack.hub.mail.lanes.get role).replace .closed).replace
        (.make (settings.mailboxSize role)) := by
  -- Each of the two adjustments leaves the mail of the other role alone.
  cases role with
  | audio =>
    have still := both.midi.lanes_other both.between (spared .midi) .audio (by decide)
    exact still.trans (both.audio.lanes (both.mounted .audio) (spared .audio))
  | midi =>
    have still := both.audio.lanes_other (both.mounted .audio) (spared .audio) .midi (by decide)
    have driver : (rack.adjust Role.audio settings).2.driver Role.midi = rack.driver Role.midi :=
      (driver_mounted both.between).trans (driver_mounted (both.mounted .midi)).symm
    have after := both.midi.lanes both.between (spared .midi)
    simp only [driver, still] at after
    exact after

end AdjustedBoth

end Rack

namespace Session

/-- The fault that is reported when audio is served before MIDI. -/
def reported (results : PerRole (Except Fault Unit)) : Except Fault Unit :=
  match results.audio with
  | .error fault => .error fault
  | .ok _ => results.midi

theorem reported_eq_ok_iff (results : PerRole (Except Fault Unit)) :
    reported results = .ok () ↔ ∀ role, results.get role = .ok () := by
  have both : (∀ role, results.get role = .ok ()) ↔
      results.audio = .ok () ∧ results.midi = .ok () :=
    ⟨fun all => ⟨all .audio, all .midi⟩, fun ⟨audio, midi⟩ role => by cases role <;> assumption⟩
  rw [both, reported]
  cases results.audio with
  | error fault => simp
  | ok done => simp

/-- What an active session makes of settings, with what came of each role and what drivers and
devices were asked for it. -/
structure Applies (session : Session) (settings : Settings)
    (results : PerRole (Except Fault Unit)) (records : PerRole (List Record)) : Prop where
  /-- Each role is adjusted, whatever comes of the other. -/
  adjusts : ∀ role, ∃ former mount, session.rack.mounts.get role = some former ∧
    (session.adjust settings).2.rack.mounts.get role = some mount ∧
    Adjustment session.rack.catalog settings role former (results.get role) (records.get role) mount
  audioFirst : (session.adjust settings).2.rack.journal.toList =
    session.rack.journal.toList ++ records.audio ++ records.midi
  /-- Mail outlasts new settings, but not another driver. -/
  mail : (∀ role, ∀ record ∈ records.get role, record.SparesMail) →
    ∀ role, (session.adjust settings).2.rack.hub.mail.lanes.get role =
      if session.rack.driver role = settings.driver role then session.rack.hub.mail.lanes.get role
      else ((session.rack.hub.mail.lanes.get role).replace .closed).replace
        (.make (settings.mailboxSize role))
  gets : ∀ role, results.get role = .ok () ↔
    (session.adjust settings).2.rack.driver role = settings.driver role
  fallsBack : ∀ role fault, results.get role = .error fault →
    (session.adjust settings).2.rack.mounts.get role = some .dummy ∧
      (session.adjust settings).2.rack.Heard
        (session.rack.hub.notices.toList ++ [.dummyActivated role])
  inForce : (session.adjust settings).2.settings = some settings
  result : (session.adjust settings).1 = reported results
  succeeds : (session.adjust settings).1 = .ok () ↔
    ∀ role : Role, (session.adjust settings).2.rack.driver role = settings.driver role

theorem adjust_active {session : Session} {settings : Settings}
    (active : session.settings.isSome = true) (sound : settings.check = .ok ()) :
    session.adjust settings = (reported (session.rack.adjustBoth settings).1,
      { session with
        rack := (session.rack.adjustBoth settings).2
        settings := some settings }) := by
  have running : session.settings.isNone = false := by simpa using active
  simp only [adjust, running, Bool.false_eq_true, if_false, sound, Rack.forBoth_snd]
  congr 1
  simp only [Rack.forBoth, Rack.adjustBoth, reported, Role.name]
  cases (session.rack.adjust .audio settings).1 <;> rfl

theorem applies {session : Session} {settings : Settings} (phased : session.Phased)
    (proper : session.rack.Proper) (active : session.settings.isSome = true)
    (sound : settings.check = .ok ()) :
    ∃ results records, session.Applies settings results records := by
  obtain ⟨former, mount, records, both⟩ := Rack.adjustedBoth (phased.active active).2 settings
  have gets (role : Role) : (session.rack.adjustBoth settings).1.get role = .ok () ↔
      (session.rack.adjustBoth settings).2.driver role = settings.driver role := by
    rw [Rack.driver_mounted (both.mounts role)]
    exact (both.provides proper role).ok_iff
  refine ⟨(session.rack.adjustBoth settings).1, records, ?_⟩
  constructor <;> rw [adjust_active active sound]
  case adjusts =>
    exact fun role => ⟨_, _, both.mounted role, both.mounts role, both.adjustment role⟩
  case audioFirst => exact both.journal
  case mail => exact both.lanes
  case gets => exact gets
  case fallsBack =>
    intro role fault failed
    refine ⟨(both.mounts role).trans (congrArg some ?_), Rack.heard_adjustBoth failed⟩
    exact (both.provides proper role).fails fault failed
  case succeeds => exact (reported_eq_ok_iff _).trans (forall_congr' gets)

end Session

/-- However a session came to be active and however its drivers fail, settings that are sound are
applied to both roles. A driver that stays is asked once to adjust and keeps its mail; another one
is chosen afresh, with new mail. A role whose driver fails is served by the dummy, and the first
such fault is reported. -/
theorem settings_applied (catalog : Catalog) (moves : List Session.Move) (settings : Settings)
    (active : ((Session.ofCatalog catalog).moveAll moves).settings.isSome = true)
    (sound : settings.check = .ok ()) :
    ∃ results records,
      ((Session.ofCatalog catalog).moveAll moves).Applies settings results records :=
  Session.applies (Session.phased_moveAll catalog moves) (Session.proper_moveAll catalog moves)
    active sound

/-- A driver whose device comes up, but cannot be adjusted. -/
def Script.spindle : Script where
  label := "Spindle"
  failures := [(.adjust, ⟨.failed "jammed", none⟩)]

def Catalog.spindle : Catalog :=
  ({} : Catalog).add .audio "spindle" fun _ _ => Script.spindle.device

def spindleMoves : List Session.Move := [.operate (.activate { audioDriver := "spindle" })]

theorem settings_applied_spindle :
    ((Session.ofCatalog .spindle).moveAll spindleMoves).settings.isSome = true ∧
      ({ audioDriver := "spindle", midiDriver := "nowhere" } : Settings).check = .ok () ∧
      ∃ results records, ((Session.ofCatalog .spindle).moveAll spindleMoves).Applies
        { audioDriver := "spindle", midiDriver := "nowhere" } results records := by
  have active : ((Session.ofCatalog .spindle).moveAll spindleMoves).settings.isSome = true := by
    decide +kernel
  have sound : ({ audioDriver := "spindle", midiDriver := "nowhere" } : Settings).check =
      .ok () := by decide +kernel
  exact ⟨active, sound, settings_applied .spindle spindleMoves _ active sound⟩

-- Audio cannot be adjusted and there is no such MIDI driver; the fault is that of audio.
example :
    let session := (Session.ofCatalog .spindle).moveAll spindleMoves
    let settings : Settings := { audioDriver := "spindle", midiDriver := "nowhere" }
    (session.adjust settings).1 = .error (.backend .audio (.failed "jammed")) ∧
      (session.adjust settings).2.rack.driver .audio = dummyName ∧
      (session.adjust settings).2.rack.driver .midi = dummyName := by decide +kernel

end AudioHost
