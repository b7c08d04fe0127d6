import AudioHost.Proofs.DeviceLife

/-!
# The stages of a device

How far a device has come can be told from the device that is up for its role and from what is due,
and says what it has been asked for so far. So records that follow one another in turn keep every
device to its life.
-/

set_option autoImplicit false

namespace AudioHost

inductive Stage where
  | awaiting
  | serving
  | failing
  | retired

def Stage.Fits : Stage → List Call → Prop
  | .awaiting, calls => calls = []
  | .serving, calls => InService calls
  | .failing, calls =>
    ∃ before fault, InService before ∧ fault.FailsToAdjust ∧ calls = before ++ [fault]
  | .retired, calls => Retired calls

def stage (serving : PerRole (Option Instance)) (turn : Turn) (target : Instance) (role : Role) :
    Stage :=
  if turn = .awaiting target role then .awaiting
  else if turn = .failing target role then .failing
  else if serving.get role = some target then .serving
  else .retired

theorem stage_congr {serving serving' : PerRole (Option Instance)} {turn turn' : Turn}
    {target : Instance} {role : Role}
    (awaiting : turn' = .awaiting target role ↔ turn = .awaiting target role)
    (failing : turn' = .failing target role ↔ turn = .failing target role)
    (up : serving'.get role = some target ↔ serving.get role = some target) :
    stage serving' turn' target role = stage serving turn target role := by
  simp only [stage, awaiting, failing, up]

theorem get_set_other {serving : PerRole (Option Instance)} {role other : Role} {target : Instance}
    {value : Option Instance} (before : serving.get role ≠ some target)
    (after : value ≠ some target) :
    (serving.set role value).get other = some target ↔ serving.get other = some target := by
  by_cases same : other = role
  · subst same
    simp [before, after]
  · rw [PerRole.get_set_of_ne _ _ same]

theorem Follows.stage_other {records : List Record} {serving serving' : PerRole (Option Instance)}
    {turn turn' : Turn} {call : Call} {target : Instance} {role : Role}
    (known : Known records serving turn)
    (follows : Follows records serving turn (.called call) serving' turn')
    (other : call.target ≠ target) :
    stage serving' turn' target role = stage serving turn target role := by
  cases follows with
  | activated place call vacant activates succeeds =>
    exact stage_congr (by simp [other]) (by simp)
      (get_set_other (by simp [vacant]) (by simpa using other))
  | refused place call activates fails =>
    exact stage_congr (by simp [other]) (by simp) Iff.rfl
  | served place call up serves => exact stage_congr Iff.rfl Iff.rfl Iff.rfl
  | failed place call up fails => exact stage_congr (by simp) (by simp [other]) Iff.rfl
  | released place call _ patient up releases =>
    exact stage_congr Iff.rfl Iff.rfl (get_set_other (by simpa [up] using other) (by simp))
  | dismissed place call releases =>
    have up := known.failing _ _ rfl
    exact stage_congr (by simp) (by simp [other])
      (get_set_other (by simpa [up] using other) (by simp))

theorem Follows.stage_self {records : List Record} {serving serving' : PerRole (Option Instance)}
    {turn turn' : Turn} {call : Call} {role : Role} {calls : List Call}
    (known : Known records serving turn)
    (follows : Follows records serving turn (.called call) serving' turn')
    (made : .made call.target role ∈ records)
    (fits : (stage serving turn call.target role).Fits calls) :
    (stage serving' turn' call.target role).Fits (calls ++ [call]) := by
  cases follows with
  | activated place call vacant activates succeeds =>
    have here := known.unique _ _ _ made (known.awaiting _ _ rfl).1
    subst here
    have none : calls = [] := by simpa [stage, Stage.Fits] using fits
    subst none
    simpa [stage, Stage.Fits] using InService.activated call activates succeeds
  | refused place call activates fails =>
    obtain ⟨present, down⟩ := known.awaiting _ _ rfl
    have here := known.unique _ _ _ made present
    subst here
    have none : calls = [] := by simpa [stage, Stage.Fits] using fits
    subst none
    simpa [stage, Stage.Fits, down] using Retired.refused call activates fails
  | served place call up serves =>
    have here := known.unique _ _ _ made (known.up _ _ up)
    subst here
    have before : InService calls := by simpa [stage, Stage.Fits, up] using fits
    simpa [stage, Stage.Fits, up] using before.served calls call serves
  | failed place call up fails =>
    have here := known.unique _ _ _ made (known.up _ _ up)
    subst here
    have before : InService calls := by simpa [stage, Stage.Fits, up] using fits
    have after : Stage.failing.Fits (calls ++ [call]) := ⟨calls, call, before, fails, rfl⟩
    simpa [stage] using after
  | released place call _ patient up releases =>
    have here := known.unique _ _ _ made (known.up _ _ up)
    subst here
    have up' : turn ≠ .awaiting call.target role := by
      intro due
      exact (known.awaiting _ _ due).2 role up
    have before : InService calls := by simpa [stage, Stage.Fits, up, up', patient] using fits
    simpa [stage, Stage.Fits, up', patient] using Retired.released calls call before releases
  | dismissed place call releases =>
    have up := known.failing _ _ rfl
    have here := known.unique _ _ _ made (known.up _ _ up)
    subst here
    have before : ∃ before fault, InService before ∧ fault.FailsToAdjust ∧
        calls = before ++ [fault] := by simpa [stage, Stage.Fits] using fits
    obtain ⟨before, fault, served, fails, rfl⟩ := before
    simpa [stage, Stage.Fits] using Retired.dismissed before fault call served fails releases

theorem Follows.fits {records : List Record} {serving serving' : PerRole (Option Instance)}
    {turn turn' : Turn} {record : Record} (known : Known records serving turn)
    (follows : Follows records serving turn record serving' turn')
    (fits : ∀ target role, .made target role ∈ records →
      (stage serving turn target role).Fits (Journal.requests records target))
    (target : Instance) (role : Role) (made : .made target role ∈ records ++ [record]) :
    (stage serving' turn' target role).Fits (Journal.requests (records ++ [record]) target) := by
  cases record with
  | made newcomer place =>
    obtain ⟨_, _, new⟩ := follows
    rw [Journal.requests_made]
    by_cases same : target = newcomer
    · -- Nothing was asked of the new device so far, since only known devices are asked.
      subst same
      have here : role = place := by
        rcases List.mem_append.mp made with before | last
        · exact absurd before (new role)
        · cases List.mem_singleton.mp last
          rfl
      subst here
      have unasked : Journal.requests records target = [] := by
        apply Journal.requests_of_unmade
        intro call member
        obtain ⟨other, present⟩ := known.called call member
        rintro rfl
        exact new other present
      simpa [stage, Stage.Fits] using unasked
    · have before : .made target role ∈ records := by simpa [same] using made
      have unmoved : stage serving (.awaiting newcomer place) target role =
          stage serving .idle target role :=
        stage_congr (by simp [Ne.symm same]) (by simp) Iff.rfl
      rw [unmoved]
      exact fits target role before
  | called call =>
    have before : .made target role ∈ records := by simpa using made
    rw [Journal.requests_called]
    by_cases same : call.target = target
    · subst same
      simpa using follows.stage_self known before (fits _ role before)
    · simpa [same, follows.stage_other known same] using fits target role before

theorem Orderly.fits {records : List Record} {serving : PerRole (Option Instance)} {turn : Turn}
    (orderly : Orderly records serving turn) :
    ∀ target role, .made target role ∈ records →
      (stage serving turn target role).Fits (Journal.requests records target) := by
  induction orderly with
  | empty => simp
  | snoc _ _ _ _ _ _ before follows ih => exact follows.fits before.known ih

namespace Journal

theorem mem_requests {records : List Record} {target : Instance} {call : Call} :
    call ∈ requests records target ↔ .called call ∈ records ∧ call.target = target := by
  simp only [requests, callsOf, List.mem_filterMap]
  constructor
  · rintro ⟨record, member, known⟩
    cases record with
    | made => cases known
    | called other =>
      simp only [Option.ite_none_right_eq_some, Option.some.injEq] at known
      obtain ⟨same, rfl⟩ := known
      exact ⟨member, same⟩
  · rintro ⟨member, same⟩
    exact ⟨.called call, member, by simp [same]⟩

theorem Active.not_retired {records : List Record} {role : Role} {target : Instance}
    (active : Active records role target) : ¬ Retired (requests records target) := by
  intro retired
  have unreleased : ∀ call ∈ requests records target, call.request ≠ .release := by
    intro call member
    obtain ⟨known, same⟩ := mem_requests.mp member
    exact active.unreleased call known same
  generalize whole : requests records target = calls at retired unreleased
  cases retired with
  | refused call activates fails =>
    obtain ⟨first, known, same, -, succeeds⟩ := active.activated
    have member : first ∈ requests records target := mem_requests.mpr ⟨known, same⟩
    rw [whole, List.mem_singleton] at member
    obtain ⟨cause, failed⟩ := fails
    rw [member, failed] at succeeds
    cases succeeds
  | released calls last before releases => exact unreleased last (by simp) releases
  | dismissed calls fault last before fails releases => exact unreleased last (by simp) releases

end Journal

namespace Orderly

variable {records : List Record} {serving : PerRole (Option Instance)} {turn : Turn}

theorem serving_of_active (orderly : Orderly records serving turn) {role : Role} {target : Instance}
    (active : Journal.Active records role target) : serving.get role = some target := by
  have fits := orderly.fits target role active.made
  have known := orderly.known
  -- Otherwise it still waits to be brought up, or it is retired; an active device is neither.
  by_contra down
  by_cases awaiting : turn = .awaiting target role
  · have unasked : Journal.requests records target = [] := by
      simpa [stage, Stage.Fits, awaiting] using fits
    obtain ⟨call, present, same, -⟩ := active.activated
    have member := Journal.mem_requests.mpr ⟨present, same⟩
    rw [unasked] at member
    cases member
  · have failing : turn ≠ .failing target role := fun due => down (known.failing _ _ due)
    have retired : Retired (Journal.requests records target) := by
      simpa [stage, Stage.Fits, awaiting, failing, down] using fits
    exact active.not_retired retired

theorem failing_of_fault {fault : Call}
    (orderly : Orderly (records ++ [.called fault]) serving turn) (fails : fault.FailsToAdjust) :
    ∃ role, turn = .failing fault.target role := by
  obtain ⟨⟨settings, adjusts⟩, cause, error⟩ := fails
  obtain ⟨_, _, _, follows⟩ := orderly.last
  cases follows with
  | activated role call vacant activates succeeds => simp [error] at succeeds
  | refused role call activates fails => simp [Call.Activates, adjusts] at activates
  | served role call up serves => simp [Call.Serves, adjusts, error] at serves
  | failed role call up fails => exact ⟨role, rfl⟩
  | released role call _ patient up releases => simp [adjusts] at releases
  | dismissed role call releases => simp [adjusts] at releases

theorem released_at_once {later : List Record} {fault : Call}
    (orderly : Orderly (records ++ .called fault :: later) serving .idle)
    (fails : fault.FailsToAdjust) :
    ∃ last rest, later = .called last :: rest ∧ last.target = fault.target ∧
      last.request = .release := by
  cases later with
  | nil =>
    obtain ⟨role, due⟩ := orderly.failing_of_fault fails
    cases due
  | cons record rest =>
    have split : records ++ .called fault :: record :: rest =
        records ++ [.called fault] ++ [record] ++ rest := by simp
    rw [split] at orderly
    obtain ⟨_, _, next⟩ := orderly.of_append
    obtain ⟨_, _, before, follows⟩ := next.last
    -- Once a device has failed to adjust, only its release may come next.
    obtain ⟨role, due⟩ := before.failing_of_fault fails
    cases follows with
    | released place last _ patient up releases => exact absurd due (patient _ _)
    | dismissed place last releases =>
      injection due with same
      exact ⟨last, rest, rfl, same, releases⟩
    | _ => cases due

end Orderly

theorem Follows.made_first {records : List Record} {serving serving' : PerRole (Option Instance)}
    {turn turn' : Turn} {call : Call} (known : Known records serving turn)
    (follows : Follows records serving turn (.called call) serving' turn') :
    ∃ role, .made call.target role ∈ records := by
  cases follows with
  | activated role => exact ⟨role, (known.awaiting _ _ rfl).1⟩
  | refused role => exact ⟨role, (known.awaiting _ _ rfl).1⟩
  | served role _ up => exact ⟨role, known.up _ _ up⟩
  | failed role _ up => exact ⟨role, known.up _ _ up⟩
  | released role _ _ patient up => exact ⟨role, known.up _ _ up⟩
  | dismissed role => exact ⟨role, known.up _ _ (known.failing _ _ rfl)⟩

theorem Orderly.inOrder {journal : Journal} {serving : PerRole (Option Instance)}
    (orderly : Orderly journal.toList serving .idle) : journal.InOrder where
  made_first := by
    intro earlier call later whole
    rw [whole, List.append_cons] at orderly
    obtain ⟨_, _, through⟩ := orderly.of_append
    obtain ⟨_, _, before, follows⟩ := through.last
    exact follows.made_first before.known
  made_once := by
    intro earlier target role later whole
    rw [whole, List.append_cons] at orderly
    obtain ⟨_, _, through⟩ := orderly.of_append
    obtain ⟨_, _, before, follows⟩ := through.last
    cases follows with
    | made _ _ new => exact new
  life := by
    intro target role made
    have fits := orderly.fits target role made.val
    by_cases up : serving.get role = some target
    · left
      simpa [stage, Stage.Fits, up] using fits
    · right
      simpa [stage, Stage.Fits, up] using fits
  released_at_once := by
    intro earlier fault later whole fails
    rw [whole] at orderly
    exact orderly.released_at_once fails
  one_active := by
    rintro earlier ⟨later, whole⟩ role first second firstActive secondActive
    rw [← whole] at orderly
    obtain ⟨_, _, before⟩ := orderly.of_append
    have one := before.serving_of_active firstActive
    have two := before.serving_of_active secondActive
    rw [one] at two
    exact Option.some.inj two

end AudioHost
