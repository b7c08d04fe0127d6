import AudioHost.Proofs.Phases
import AudioHost.Proofs.SessionPairs
import AudioHost.Proofs.Spellings

/-!
# Sessions whose drivers spell names differently

Such sessions show the same in every operation, and stay the same but for the spelling of names in
their journals.
-/

set_option autoImplicit false

namespace AudioHost.Session

structure Alike (left right : Session) : Prop where
  rack : left.rack.Alike right.rack
  inboxes : left.inboxes = right.inboxes
  worker : left.worker = right.worker
  settings : left.settings = right.settings
  refusal : left.refusal = right.refusal

theorem alike_ofCatalog {left right : Catalog} (alike : left.Alike right) :
    (ofCatalog left).Alike (ofCatalog right) where
  rack := ⟨alike, rfl, fun role => by cases role <;> exact .none, rfl⟩
  inboxes := rfl
  worker := rfl
  settings := rfl
  refusal := rfl

/-- The same is shown, and the sessions stay alike. -/
def Together {α : Type} (left right : α × Session) : Prop :=
  left.1 = right.1 ∧ left.2.Alike right.2

namespace Alike

variable {left right : Session}

theorem withRacks (alike : left.Alike right) {one other : Rack} (racks : one.Alike other) :
    Alike { left with rack := one } { right with rack := other } :=
  { alike with rack := racks }

theorem note (alike : left.Alike right) (notice : Notice) :
    (left.note notice).Alike (right.note notice) :=
  alike.withRacks (Rack.paired_alike.note _ _ notice alike.rack)

theorem station (alike : left.Alike right) : left.station = right.station := by
  simp only [Session.station, alike.rack.hub, alike.inboxes, alike.worker]

theorem withStation (alike : left.Alike right) (station : Station) :
    (left.withStation station).Alike (right.withStation station) where
  rack := alike.rack.withHub station.hub
  inboxes := by simp only [Session.withStation, alike.inboxes]
  worker := rfl
  settings := alike.settings
  refusal := alike.refusal

theorem pass (alike : left.Alike right) (name : RoleName) (request : Request) :
    Together (left.pass name request) (right.pass name request) := by
  obtain ⟨answer, racks⟩ := Rack.paired_alike.pass name request alike.rack
  exact ⟨answer, alike.withRacks racks⟩

theorem passBoth (alike : left.Alike right) (request : Request) :
    Together (left.passBoth request) (right.passBoth request) := by
  obtain ⟨answer, racks⟩ := Rack.Together.forBoth (fun rack role => rack.pass role request)
    (fun _ _ role => Rack.paired_alike.pass role request) alike.rack
  exact ⟨answer, alike.withRacks racks⟩

theorem deactivate (alike : left.Alike right) : Together left.deactivate right.deactivate := by
  have stopped := alike.rack.withHub left.station.clear.hub
  obtain ⟨answer, racks⟩ := Rack.Together.forBoth (fun rack role => rack.vacate role)
    (fun _ _ role => Rack.paired_alike.vacate role) stopped
  rw [alike.station] at stopped
  refine ⟨?_, ?_⟩
  · rw [deactivate_fst, deactivate_fst, ← alike.station]
    exact answer
  · rw [deactivate_snd, deactivate_snd, vacated, vacated, ← alike.station, alike.settings]
    refine { alike with rack := ?_, worker := rfl, settings := rfl }
    dsimp only
    split
    · exact Rack.paired_alike.note _ _ .sessionEnded racks
    · exact racks

theorem prepared (alike : left.Alike right) (settings : Settings) :
    (left.prepared settings).Alike (right.prepared settings) where
  rack := by
    have noted := Rack.paired_alike.note _ _ (.activatingSession settings) alike.rack
    have audio := Rack.paired_alike.renew _ _ .audio (settings.mailboxSize .audio) noted
    exact Rack.paired_alike.renew _ _ .midi (settings.mailboxSize .midi) audio
  inboxes := congrArg (Inboxes.renew · settings.inboxSize) alike.inboxes
  worker := alike.worker
  settings := alike.settings
  refusal := alike.refusal

theorem activate (alike : left.Alike right) (settings : Settings) :
    Together (left.activate settings) (right.activate settings) := by
  cases atRest : right.settings with
  | some _ =>
    simp only [Session.activate, alike.settings, atRest, Option.isSome_some, if_true]
    exact ⟨rfl, alike⟩
  | none =>
    have also : left.settings = none := alike.settings.trans atRest
    cases checked : settings.check with
    | error cause =>
      simp only [Session.activate, also, atRest, checked, Option.isSome_none, Bool.false_eq_true,
        if_false]
      exact ⟨rfl, alike⟩
    | ok _ =>
      -- Devices act while both roles come up, so the racks are alike and no longer equal.
      have ready := alike.prepared settings
      rw [activate_eq also checked, activate_eq atRest checked]
      rcases Rack.paired_alike.bringUp ready.rack ready.refusal settings with
        ⟨fault, one, other, here, there, racks⟩ | ⟨one, other, here, there, racks⟩
      · rw [here, there]
        exact ⟨rfl, ((ready.withRacks racks).note (.sessionFailed fault)).deactivate.2⟩
      · have up := ready.withRacks racks
        let risen := Session.station { left.prepared settings with rack := one }
        have started := up.withStation (risen.start settings.wakeInterval)
        rw [here, there, relayed, relayed, ← up.station]
        exact ⟨rfl, { started with settings := rfl }⟩

theorem adjust (alike : left.Alike right) (settings : Settings) :
    Together (left.adjust settings) (right.adjust settings) := by
  cases atRest : right.settings with
  | none =>
    rw [adjust_resting atRest, adjust_resting (alike.settings.trans atRest)]
    exact alike.activate settings
  | some _ =>
    simp only [Session.adjust, alike.settings, atRest, Option.isNone_some, Bool.false_eq_true,
      if_false]
    cases settings.check with
    | error cause => exact ⟨rfl, alike⟩
    | ok _ =>
      obtain ⟨answer, racks⟩ := Rack.Together.forBoth (fun rack role => rack.adjust role settings)
        (fun _ _ role => Rack.paired_alike.adjust role settings) alike.rack
      exact ⟨answer, { alike with rack := racks, settings := rfl }⟩

theorem settle (alike : left.Alike right) : Together left.settle right.settle := by
  simp only [Session.settle, alike.station]
  exact ⟨rfl, alike.withStation _⟩

theorem apply (alike : left.Alike right) (command : Command) :
    (left.apply command).1 = (right.apply command).1 ∧
      Together (left.apply command).2 (right.apply command).2 := by
  have resulted {one other : Except Fault Unit × Session} (same : Together one other) :
      Reply.result one.1 = .result other.1 ∧
        Together (([] : List Attempt), one.2) ([], other.2) :=
    ⟨congrArg Reply.result same.1, rfl, same.2⟩
  cases command with
  | activate settings => exact resulted (alike.activate settings)
  | adjust settings => exact resulted (alike.adjust settings)
  | deactivate => exact resulted alike.deactivate
  | playbackStarted => exact resulted (alike.passBoth .playbackStarted)
  | playbackStopped => exact resulted (alike.passBoth .playbackStopped)
  | silence name => exact resulted (alike.pass name .silence)
  | perform action =>
    simp only [Session.apply, alike.rack.hub]
    exact ⟨trivial, rfl, alike.withRacks (alike.rack.withHub _)⟩
  | collect =>
    simp only [Session.apply, alike.inboxes]
    exact ⟨trivial, rfl, { alike with inboxes := rfl }⟩
  | subscribe =>
    simp only [Session.apply, alike.inboxes]
    exact ⟨trivial, rfl, { alike with inboxes := rfl }⟩
  | receive receiver =>
    simp only [Session.apply, alike.inboxes]
    split
    · exact ⟨rfl, rfl, alike⟩
    · exact ⟨rfl, rfl, { alike with inboxes := rfl }⟩
  | lapse =>
    simp only [Session.apply, alike.station]
    exact ⟨trivial, rfl, alike.withStation _⟩
  | refuse refusal => exact ⟨rfl, rfl, { alike with refusal := rfl }⟩

theorem use (alike : left.Alike right) (use : Use) : Together (left.use use) (right.use use) := by
  cases use with
  | operate command =>
    obtain ⟨reply, attempts, after⟩ := alike.apply command
    exact ⟨congrArg₂ Sight.reply reply attempts, after⟩
  | settle =>
    obtain ⟨attempts, after⟩ := alike.settle
    exact ⟨congrArg Sight.settled attempts, after⟩
  | backend name =>
    have same := alike.rack.backend name
    exact ⟨congrArg₂ Sight.backend same.name same.isDummy, alike⟩
  | driver name => exact ⟨congrArg Sight.driver (alike.rack.mounts.driver name), alike⟩

end Alike

end AudioHost.Session
