import AudioHost.Proofs.Comparisons
import AudioHost.Proofs.SessionSteps

/-!
# Sound settings

What is asked of settings, in the order in which it is looked at, and what a check makes of it. The
check refuses a sample rate that lies below or above its range. A rate that is not a number does
neither, so it passes, and a session may run with it.
-/

set_option autoImplicit false

namespace AudioHost

/-- The sample rates that settings are meant to have, in Hz. -/
def InRange (rate : Float) : Prop := 8000 ≤ rate ∧ rate ≤ 384000

/-- The sample rates that pass: those in range, and those that are not numbers. -/
def Passes (rate : Float) : Prop := InRange rate ∨ rate.isNaN = true

theorem passes_iff (rate : Float) : Passes rate ↔ ¬ (rate < 8000 ∨ rate > 384000) := by
  have low : (8000 : Float).isNaN = false := by decide +kernel
  have high : (384000 : Float).isNaN = false := by decide +kernel
  rw [not_or, not_lt_iff_le_or_isNaN, not_lt_iff_le_or_isNaN, low, high, Passes, InRange]
  simp only [Bool.false_eq_true, or_false, false_or]
  exact and_or_right

theorem inRange_iff_passes {rate : Float} (number : rate.isNaN = false) :
    InRange rate ↔ Passes rate := by
  rw [Passes, number]
  simp

theorem not_inRange_of_isNaN {rate : Float} (other : rate.isNaN = true) : ¬ InRange rate := by
  rintro ⟨low, -⟩
  have ordered : (((8000 : Float).toModel.unpack.compare rate.toModel.unpack).any
      Ordering.isLE) = true := decide_eq_true_iff.mp low
  rw [(compare_eq_none_iff _ _).mpr (.inr other)] at ordered
  cases ordered

/-- What is asked of settings. -/
inductive Demand where
  | sampleRate
  | periodFrames
  | wakeInterval
  | inboxSize
  | driverName (role : Role)
deriving DecidableEq

namespace Demand

/-- The order in which settings are looked at. -/
def all : List Demand :=
  [.sampleRate, .periodFrames, .wakeInterval, .inboxSize, .driverName .audio, .driverName .midi]

theorem mem_all (demand : Demand) : demand ∈ all := by
  cases demand with
  | driverName role => cases role <;> decide
  | _ => decide

/-- Settings meet a demand, if `rates` are the sample rates that will do. -/
def Met (rates : Float → Prop) (settings : Settings) : Demand → Prop
  | .sampleRate => rates settings.sampleRate
  | .periodFrames => settings.periodFrames ≠ 0
  | .wakeInterval => settings.wakeInterval ≠ 0
  | .inboxSize => settings.inboxSize ≠ 0
  | .driverName role => ∃ c ∈ (settings.driver role).toList, isBlankChar c = false

theorem met_inRange_iff {settings : Settings} (number : settings.sampleRate.isNaN = false)
    (demand : Demand) : demand.Met InRange settings ↔ demand.Met Passes settings := by
  cases demand with
  | sampleRate => exact inRange_iff_passes number
  | _ => exact Iff.rfl

def error (settings : Settings) : Demand → SettingsError
  | .sampleRate => .sampleRate settings.sampleRate
  | .periodFrames => .periodFrames
  | .wakeInterval => .wakeInterval
  | .inboxSize => .inboxSize
  | .driverName role => .driverName role

/-- The first demand that settings do not meet. -/
def FirstUnmet (rates : Float → Prop) (settings : Settings) (demand : Demand) : Prop :=
  ∃ before after, all = before ++ demand :: after ∧
    (∀ earlier ∈ before, earlier.Met rates settings) ∧ ¬ demand.Met rates settings

end Demand

namespace Settings

/-- Settings pass their check if all demands are met, and are refused for the first that is not. -/
structure CheckedFor (rates : Float → Prop) (settings : Settings) : Prop where
  accepted : settings.check = .ok () ↔ ∀ demand : Demand, demand.Met rates settings
  refused : ∀ error, settings.check = .error error ↔
    ∃ demand : Demand, demand.FirstUnmet rates settings ∧ error = demand.error settings

theorem map_find?_cons {α β : Type} (holds : α → Prop) [DecidablePred holds] (value : α → β)
    (first : α) (rest : List α) :
    ((first :: rest).find? fun item => decide (holds item)).map value =
      if holds first then some (value first)
      else (rest.find? fun item => decide (holds item)).map value := by
  by_cases here : holds first <;> simp [here]

open Classical in
theorem violation?_eq_find? (settings : Settings) :
    settings.violation? = (Demand.all.find? fun (demand : Demand) =>
      ¬ demand.Met Passes settings).map (Demand.error settings) := by
  have rate : (settings.sampleRate < 8000 ∨ settings.sampleRate > 384000) ↔
      ¬ Demand.sampleRate.Met Passes settings := by
    rw [Demand.Met, passes_iff, not_not]
  have frames : settings.periodFrames = 0 ↔ ¬ Demand.periodFrames.Met Passes settings :=
    not_not.symm
  have interval : settings.wakeInterval = 0 ↔ ¬ Demand.wakeInterval.Met Passes settings :=
    not_not.symm
  have size : settings.inboxSize = 0 ↔ ¬ Demand.inboxSize.Met Passes settings := not_not.symm
  have blank (role : Role) : isBlank (settings.driver role) =
      decide (¬ (Demand.driverName role).Met Passes settings) := by
    rw [Bool.eq_iff_iff]
    simp [isBlank, Demand.Met]
  -- Both sides put the same questions one by one.
  simp only [violation?, Bool.or_eq_true, decide_eq_true_eq, rate, frames, interval, size, blank,
    Role.all, Demand.all, map_find?_cons, List.find?_nil, Option.map_none]
  rfl

theorem violation?_eq_some_iff (settings : Settings) (error : SettingsError) :
    settings.violation? = some error ↔
      ∃ demand : Demand, demand.FirstUnmet Passes settings ∧ error = demand.error settings := by
  rw [violation?_eq_find?, Option.map_eq_some_iff]
  refine exists_congr fun demand => and_congr ?_ eq_comm
  simp only [List.find?_eq_some_iff_append, Demand.FirstUnmet, decide_eq_true_eq,
    Bool.not_eq_true', decide_eq_false_iff_not, not_not]
  constructor
  · rintro ⟨unmet, before, after, order, earlier⟩
    exact ⟨before, after, order, earlier, unmet⟩
  · rintro ⟨before, after, order, earlier, unmet⟩
    exact ⟨unmet, before, after, order, earlier⟩

theorem violation?_eq_none_iff (settings : Settings) :
    settings.violation? = none ↔ ∀ demand : Demand, demand.Met Passes settings := by
  rw [violation?_eq_find?, Option.map_eq_none_iff, List.find?_eq_none]
  simp [Demand.mem_all]

theorem check_eq_ok_iff (settings : Settings) :
    settings.check = .ok () ↔ settings.violation? = none := by
  simp only [check]
  split
  next sound => simp [sound]
  next violation found => simp [found]

theorem check_eq_error_iff (settings : Settings) (error : SettingsError) :
    settings.check = .error error ↔ settings.violation? = some error := by
  simp only [check]
  split
  next sound => simp [sound]
  next violation found => simp [found]

theorem checkedFor_passes (settings : Settings) : settings.CheckedFor Passes where
  accepted := settings.check_eq_ok_iff.trans settings.violation?_eq_none_iff
  refused error := (settings.check_eq_error_iff error).trans (settings.violation?_eq_some_iff error)

/-- The check is one for sample rates in range, but for a rate that is not a number. -/
theorem checkedFor_inRange_iff (settings : Settings) :
    settings.CheckedFor InRange ↔ settings.sampleRate.isNaN = false := by
  have passes := settings.checkedFor_passes
  constructor
  · intro checked
    by_contra other
    have nan := Bool.eq_true_of_not_eq_false other
    -- The rate would be refused before all else, and it is not.
    have refused : settings.check = .error (.sampleRate settings.sampleRate) :=
      (checked.refused _).mpr
        ⟨.sampleRate, ⟨[], _, rfl, by simp, not_inRange_of_isNaN nan⟩, rfl⟩
    obtain ⟨demand, ⟨_, _, _, _, unmet⟩, same⟩ := (passes.refused _).mp refused
    cases demand with
    | sampleRate => exact unmet (.inr nan)
    | _ => cases same
  · intro number
    have met := Demand.met_inRange_iff number
    refine ⟨?_, fun error => ?_⟩
    · simp only [met]
      exact passes.accepted
    · simp only [Demand.FirstUnmet, met]
      exact passes.refused error

end Settings

namespace Session

/-- The settings of a session, if it has any, have passed their check. -/
def Checked (session : Session) : Prop :=
  ∀ settings, session.settings = some settings → settings.check = .ok ()

variable {session after : Session}

theorem Checked.kept (checked : session.Checked) (same : after.settings = session.settings) :
    after.Checked :=
  fun settings told => checked settings (same.symm.trans told)

theorem checked_given {settings : Settings} (sound : settings.check = .ok ())
    (told : after.settings = some settings) : after.Checked := by
  intro other same
  rw [told] at same
  cases same
  exact sound

theorem Activates.checked {settings : Settings} {result : Except Fault Unit}
    (activates : session.Activates settings result after) (checked : session.Checked) :
    after.Checked := by
  cases activates with
  | alreadyActive => exact checked
  | invalid => exact checked
  | fails => exact fun settings told => by simp [deactivate_snd] at told
  | succeeds _ _ sound => exact checked_given sound rfl

theorem Checked.adjust (checked : session.Checked) (settings : Settings) :
    (session.adjust settings).2.Checked := by
  simp only [Session.adjust]
  split
  · exact (session.activates settings).checked checked
  split
  · exact checked
  next sound => exact checked_given sound rfl

theorem Checked.move (checked : session.Checked) (move : Move) :
    (session.move move).2.Checked := by
  cases move with
  | settle => exact checked.kept rfl
  | operate command =>
    cases command with
    | activate settings => exact (session.activates settings).checked checked
    | adjust settings => exact checked.adjust settings
    | deactivate =>
      intro settings told
      simp [Session.move, Session.apply, deactivate_snd] at told
    | receive receiver =>
      simp only [Session.move, Session.apply]
      split <;> exact checked.kept rfl
    | _ => exact checked.kept rfl

theorem checked_moveAll (catalog : Catalog) (moves : List Move) :
    ((ofCatalog catalog).moveAll moves).Checked :=
  moveAll_keeps Checked moves (fun _ move _ checked => checked.move move) nofun

/-- Whatever is asked of settings is true of those of a running session. -/
def RunsSoundly (rates : Float → Prop) (session : Session) : Prop :=
  ∀ settings, session.settings = some settings → ∀ demand : Demand, demand.Met rates settings

theorem runsSoundly_moveAll (catalog : Catalog) (moves : List Move) :
    ((ofCatalog catalog).moveAll moves).RunsSoundly Passes := by
  intro settings told
  have sound := checked_moveAll catalog moves settings told
  exact settings.checkedFor_passes.accepted.mp sound

theorem RunsSoundly.inRange_iff (runs : session.RunsSoundly Passes) :
    session.RunsSoundly InRange ↔
      ∀ settings, session.settings = some settings → settings.sampleRate.isNaN = false := by
  constructor
  · intro within settings told
    by_contra other
    have nan := Bool.eq_true_of_not_eq_false other
    exact not_inRange_of_isNaN nan (within settings told .sampleRate)
  · intro numbers settings told demand
    exact (Demand.met_inRange_iff (numbers settings told) demand).mpr (runs settings told demand)

end Session

/-- Settings whose sample rate is not a number pass, and a session runs with them. -/
theorem unordered_rate_passes :
    ¬ ({ sampleRate := .nan } : Settings).CheckedFor InRange ∧
      ¬ ((Session.ofCatalog {}).moveAll
        [.operate (.activate { sampleRate := .nan })]).RunsSoundly InRange := by
  have outside : ¬ InRange .nan := not_inRange_of_isNaN (by decide +kernel)
  have sound : ({ sampleRate := .nan } : Settings).check = .ok () := by decide +kernel
  have told : ((Session.ofCatalog {}).moveAll
      [.operate (.activate { sampleRate := .nan })]).settings = some { sampleRate := .nan } := by
    decide +kernel
  exact ⟨fun checked => outside (checked.accepted.mp sound .sampleRate),
    fun runs => outside (runs _ told .sampleRate)⟩

/-- Settings pass their check just when the sample rate is in range or not a number at all, no
number is zero and no driver name is blank; otherwise they are refused for the first of these that
fails, in this order. No session ever runs with other settings. So what passes and what runs has its
sample rate in range, unless that is not a number. -/
theorem settings_checked_in_order (settings : Settings) (catalog : Catalog)
    (moves : List Session.Move) :
    settings.CheckedFor Passes ∧
      (settings.CheckedFor InRange ↔ settings.sampleRate.isNaN = false) ∧
      ((Session.ofCatalog catalog).moveAll moves).RunsSoundly Passes ∧
      (((Session.ofCatalog catalog).moveAll moves).RunsSoundly InRange ↔
        ∀ held, ((Session.ofCatalog catalog).moveAll moves).settings = some held →
          held.sampleRate.isNaN = false) := by
  have runs := Session.runsSoundly_moveAll catalog moves
  exact ⟨settings.checkedFor_passes, settings.checkedFor_inRange_iff, runs, runs.inRange_iff⟩

end AudioHost
