import AudioHost.Driver.Device
import Mathlib.Data.List.Induction

/-!
# The life of a device

A device comes up once, serves, and goes down once. `Orderly` says record by record what may happen
next when at most one device serves each role; what it means for a single device, and for the
devices of one role at any moment, is read off a journal that is orderly.
-/

set_option autoImplicit false

namespace AudioHost

namespace Call

def Activates (call : Call) : Prop := ∃ settings, call.request = .activate settings

def Fails (call : Call) : Prop := ∃ cause, call.outcome = .error cause

def FailsToAdjust (call : Call) : Prop := (∃ settings, call.request = .adjust settings) ∧ call.Fails

/-- A request to a device that is up, after which the device stays up. -/
def Serves (call : Call) : Prop :=
  match call.request with
  | .activate _ | .release => False
  | .adjust _ => call.outcome = .ok ()
  | .playbackStarted | .playbackStopped | .silence => True

end Call

/-- The requests to a device that came up and has not been released. -/
inductive InService : List Call → Prop where
  | activated (call : Call) (activates : call.Activates) (succeeds : call.outcome = .ok ()) :
      InService [call]
  | served (calls : List Call) (call : Call) (before : InService calls) (serves : call.Serves) :
      InService (calls ++ [call])

/-- The requests to a device that is never asked for anything again. -/
inductive Retired : List Call → Prop where
  | refused (call : Call) (activates : call.Activates) (fails : call.Fails) : Retired [call]
  | released (calls : List Call) (last : Call) (before : InService calls)
      (releases : last.request = .release) : Retired (calls ++ [last])
  | dismissed (calls : List Call) (fault last : Call) (before : InService calls)
      (fails : fault.FailsToAdjust) (releases : last.request = .release) :
      Retired (calls ++ [fault, last])

namespace Journal

/-- A device of a role that came up and has not been released. -/
structure Active (records : List Record) (role : Role) (target : Instance) : Prop where
  made : .made target role ∈ records
  activated : ∃ call, .called call ∈ records ∧ call.target = target ∧ call.Activates ∧
    call.outcome = .ok ()
  unreleased : ∀ call, .called call ∈ records → call.target = target → call.request ≠ .release

structure InOrder (journal : Journal) : Prop where
  made_first : ∀ earlier call later, journal.toList = earlier ++ .called call :: later →
    ∃ role, .made call.target role ∈ earlier
  made_once : ∀ earlier target role later, journal.toList = earlier ++ .made target role :: later →
    ∀ other, .made target other ∉ earlier
  life : ∀ target role, .made target role ∈ journal →
    InService (journal.callsOf target) ∨ Retired (journal.callsOf target)
  released_at_once : ∀ earlier fault later, journal.toList = earlier ++ .called fault :: later →
    fault.FailsToAdjust →
      ∃ last rest, later = .called last :: rest ∧ last.target = fault.target ∧
        last.request = .release
  one_active : ∀ earlier, earlier <+: journal.toList → ∀ role first second,
    Active earlier role first → Active earlier role second → first = second

end Journal

/-- What has to be done before anything else. -/
inductive Turn where
  | idle
  | awaiting (target : Instance) (role : Role)
  | failing (target : Instance) (role : Role)
deriving DecidableEq

/-- What may come after some records, given the device that is up for each role and what is due.
The device of a role may be released while another one waits. -/
inductive Follows (records : List Record) (serving : PerRole (Option Instance)) :
    Turn → Record → PerRole (Option Instance) → Turn → Prop where
  | made (target : Instance) (role : Role) (new : ∀ other, .made target other ∉ records) :
      Follows records serving .idle (.made target role) serving (.awaiting target role)
  | activated (role : Role) (call : Call) (vacant : serving.get role = none)
      (activates : call.Activates) (succeeds : call.outcome = .ok ()) :
      Follows records serving (.awaiting call.target role) (.called call)
        (serving.set role (some call.target)) .idle
  | refused (role : Role) (call : Call) (activates : call.Activates) (fails : call.Fails) :
      Follows records serving (.awaiting call.target role) (.called call) serving .idle
  | served (role : Role) (call : Call) (up : serving.get role = some call.target)
      (serves : call.Serves) : Follows records serving .idle (.called call) serving .idle
  | failed (role : Role) (call : Call) (up : serving.get role = some call.target)
      (fails : call.FailsToAdjust) :
      Follows records serving .idle (.called call) serving (.failing call.target role)
  | released (role : Role) (call : Call) (turn : Turn)
      (patient : ∀ target role, turn ≠ .failing target role)
      (up : serving.get role = some call.target) (releases : call.request = .release) :
      Follows records serving turn (.called call) (serving.set role none) turn
  | dismissed (role : Role) (call : Call) (releases : call.request = .release) :
      Follows records serving (.failing call.target role) (.called call) (serving.set role none)
        .idle

inductive Orderly : List Record → PerRole (Option Instance) → Turn → Prop where
  | empty : Orderly [] (.both none) .idle
  | snoc (records : List Record) (serving : PerRole (Option Instance)) (turn : Turn)
      (record : Record) (serving' : PerRole (Option Instance)) (turn' : Turn)
      (before : Orderly records serving turn)
      (follows : Follows records serving turn record serving' turn') :
      Orderly (records ++ [record]) serving' turn'

namespace Journal

abbrev requests (records : List Record) (target : Instance) : List Call :=
  callsOf records.toArray target

theorem requests_made (records : List Record) (target other : Instance) (role : Role) :
    requests (records ++ [.made other role]) target = requests records target := by
  simp [requests, callsOf]

theorem requests_called (records : List Record) (target : Instance) (call : Call) :
    requests (records ++ [.called call]) target =
      requests records target ++ if call.target = target then [call] else [] := by
  by_cases same : call.target = target <;> simp [requests, callsOf, same]

theorem requests_of_unmade {records : List Record} {target : Instance}
    (unknown : ∀ call, .called call ∈ records → call.target ≠ target) :
    requests records target = [] := by
  simp only [requests, callsOf, List.filterMap_eq_nil_iff]
  intro record member
  cases record with
  | made => rfl
  | called call => simp [unknown call member]

end Journal

namespace Orderly

variable {records : List Record} {serving : PerRole (Option Instance)} {turn : Turn}

theorem last {record : Record} (orderly : Orderly (records ++ [record]) serving turn) :
    ∃ serving' turn', Orderly records serving' turn' ∧
      Follows records serving' turn' record serving turn := by
  generalize whole : records ++ [record] = all at orderly
  cases orderly with
  | empty => simp at whole
  | snoc before serving' turn' new _ _ orderly follows =>
    obtain ⟨rfl, same⟩ := List.append_inj' whole rfl
    cases same
    exact ⟨serving', turn', orderly, follows⟩

theorem of_append {earlier later : List Record}
    (orderly : Orderly (earlier ++ later) serving turn) :
    ∃ serving' turn', Orderly earlier serving' turn' := by
  induction later using List.reverseRecOn generalizing serving turn with
  | nil => exact ⟨serving, turn, by simpa using orderly⟩
  | append_singleton rest record ih =>
    rw [← List.append_assoc] at orderly
    obtain ⟨_, _, before, _⟩ := orderly.last
    exact ih before

end Orderly

/-- Every device that plays a part was made, for one role only. -/
structure Known (records : List Record) (serving : PerRole (Option Instance)) (turn : Turn) :
    Prop where
  up : ∀ role target, serving.get role = some target → .made target role ∈ records
  awaiting : ∀ target role, turn = .awaiting target role →
    .made target role ∈ records ∧ ∀ other, serving.get other ≠ some target
  failing : ∀ target role, turn = .failing target role → serving.get role = some target
  called : ∀ call, .called call ∈ records → ∃ role, .made call.target role ∈ records
  unique : ∀ target first second, .made target first ∈ records → .made target second ∈ records →
    first = second

theorem Known.more {records : List Record} {serving serving' : PerRole (Option Instance)}
    {turn turn' : Turn} {call : Call} (known : Known records serving turn)
    (made : ∃ role, .made call.target role ∈ records)
    (up : ∀ role target, serving'.get role = some target → .made target role ∈ records)
    (awaiting : ∀ target role, turn' = .awaiting target role →
      turn = .awaiting target role ∧ ∀ other, serving'.get other ≠ some target)
    (failing : ∀ target role, turn' = .failing target role → serving'.get role = some target) :
    Known (records ++ [.called call]) serving' turn' where
  up role target present := List.mem_append_left _ (up role target present)
  awaiting := by
    intro target role due
    obtain ⟨before, down⟩ := awaiting target role due
    exact ⟨List.mem_append_left _ (known.awaiting target role before).1, down⟩
  failing := failing
  called := by
    intro other member
    rcases List.mem_append.mp member with before | new
    · obtain ⟨role, present⟩ := known.called other before
      exact ⟨role, List.mem_append_left _ present⟩
    · cases List.mem_singleton.mp new
      obtain ⟨role, present⟩ := made
      exact ⟨role, List.mem_append_left _ present⟩
  unique := by
    intro target first second left right
    simp only [List.mem_append, List.mem_singleton, reduceCtorEq, or_false] at left right
    exact known.unique target first second left right

theorem Known.up_set {records : List Record} {serving : PerRole (Option Instance)} {turn : Turn}
    (known : Known records serving turn) {role : Role} {value : Option Instance}
    (made : ∀ target, value = some target → .made target role ∈ records) (other : Role)
    (target : Instance) (present : (serving.set role value).get other = some target) :
    .made target other ∈ records := by
  by_cases same : other = role
  · subst same
    rw [PerRole.get_set_self] at present
    exact made target present
  · rw [PerRole.get_set_of_ne _ _ same] at present
    exact known.up other target present

theorem Follows.known {records : List Record} {serving serving' : PerRole (Option Instance)}
    {turn turn' : Turn} {record : Record} (known : Known records serving turn)
    (follows : Follows records serving turn record serving' turn') :
    Known (records ++ [record]) serving' turn' := by
  cases follows with
  | made target role new =>
    refine ⟨?_, ?_, ?_, ?_, ?_⟩
    · intro other found present
      exact List.mem_append_left _ (known.up other found present)
    · rintro _ _ ⟨⟩
      refine ⟨by simp, ?_⟩
      -- The device is new, while one that is up was made before.
      intro other present
      exact new other (known.up other target present)
    · intro _ _ due
      cases due
    · intro call member
      simp only [List.mem_append, List.mem_singleton, reduceCtorEq, or_false] at member
      obtain ⟨other, present⟩ := known.called call member
      exact ⟨other, List.mem_append_left _ present⟩
    · intro other first second left right
      simp only [List.mem_append, List.mem_singleton, Record.made.injEq] at left right
      rcases left with left | ⟨rfl, rfl⟩
      · rcases right with right | ⟨rfl, rfl⟩
        · exact known.unique other first second left right
        · exact absurd left (new first)
      · rcases right with right | ⟨-, rfl⟩
        · exact absurd right (new second)
        · rfl
  | activated role call vacant activates succeeds =>
    have made := (known.awaiting _ _ rfl).1
    refine known.more ⟨role, made⟩ (known.up_set ?_) (by simp) (by simp)
    rintro _ ⟨⟩
    exact made
  | refused role call activates fails =>
    exact known.more ⟨role, (known.awaiting _ _ rfl).1⟩ known.up (by simp) (by simp)
  | served role call up serves =>
    exact known.more ⟨role, known.up _ _ up⟩ known.up (by simp) (by simp)
  | failed role call up fails =>
    refine known.more ⟨role, known.up _ _ up⟩ known.up (by simp) ?_
    rintro _ _ ⟨⟩
    exact up
  | released role call _ patient up releases =>
    refine known.more ⟨role, known.up _ _ up⟩ (known.up_set (by simp)) ?_ ?_
    · -- A device that waits was not up for any role, and a release brings none up.
      intro target place due
      refine ⟨due, ?_⟩
      intro other present
      have down := (known.awaiting target place due).2
      by_cases same : other = role
      · subst same
        simp at present
      · rw [PerRole.get_set_of_ne _ _ same] at present
        exact down other present
    · intro target other due
      exact absurd due (patient target other)
  | dismissed role call releases =>
    have up := known.failing _ _ rfl
    exact known.more ⟨role, known.up _ _ up⟩ (known.up_set (by simp)) (by simp) (by simp)

theorem Orderly.known {records : List Record} {serving : PerRole (Option Instance)} {turn : Turn}
    (orderly : Orderly records serving turn) : Known records serving turn := by
  induction orderly with
  | empty =>
    refine ⟨?_, ?_, ?_, ?_, ?_⟩ <;> simp
  | snoc _ _ _ _ _ _ _ follows ih => exact follows.known ih

end AudioHost
