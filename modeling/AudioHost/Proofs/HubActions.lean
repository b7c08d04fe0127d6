import AudioHost.Proofs.RackSteps

/-!
# What devices do to a hub

Devices act on the hub of their rack, and the journal has every action they took. What those actions
keep, and with them the lines of the log and the marks of the clock, a rack keeps whatever is asked
of its devices.
-/

set_option autoImplicit false

namespace AudioHost

def Record.actions : Record → List Hub.Action
  | .made .. => []
  | .called call => call.exchanges.map Exchange.action

def Journal.actions (journal : Journal) : List Hub.Action := journal.toList.flatMap Record.actions

theorem Journal.mem_actions_push {journal : Journal} {record : Record} {action : Hub.Action} :
    action ∈ actions (journal.push record) ↔
      action ∈ journal.actions ∨ action ∈ record.actions := by
  simp [actions]

/-- Kept by all that is done to a hub, as long as no action is taken but those allowed. -/
structure Hub.Kept (allowed : Hub.Action → Prop) (property : Hub → Prop) : Prop where
  perform : ∀ hub action, allowed action → property hub → property (hub.perform action).2
  note : ∀ hub notice, property hub → property (hub.note notice)
  markDummy : ∀ hub name dummy, property hub → property (hub.markDummy name dummy)

namespace Hub.Kept

variable {allowed : Hub.Action → Prop} {property : Hub → Prop}

theorem conduct (kept : Kept allowed property) (conduct : Conduct) (hub : Hub)
    (within : ∀ exchange ∈ (conduct.run hub).1, allowed exchange.action) (holds : property hub) :
    property (conduct.run hub).2.2 := by
  induction conduct generalizing hub with
  | finish outcome => exact holds
  | act action next ih =>
    have first : allowed action := within _ List.mem_cons_self
    refine ih _ _ ?_ (kept.perform hub action first holds)
    intro exchange later
    exact within exchange (List.mem_cons_of_mem _ later)

theorem steady (kept : Kept allowed property) :
    Rack.Steady fun rack =>
      (∀ action ∈ rack.journal.actions, allowed action) → property rack.hub where
  note rack notice holds within := kept.note rack.hub notice (holds within)
  make rack registration role holds within :=
    holds fun action taken => within action (Journal.mem_actions_push.mpr (.inl taken))
  call rack role backend request holds := by
    cases backend with
    | dummy =>
      cases request with
      | activate settings => exact fun within => kept.note rack.hub _ (holds within)
      | _ => exact holds
    | external target device =>
      intro within
      have before : property rack.hub := holds fun action taken =>
        within action (Journal.mem_actions_push.mpr (.inl taken))
      refine kept.conduct (device.respond rack.journal target request) rack.hub ?_ before
      intro exchange taken
      exact within _ (Journal.mem_actions_push.mpr (.inr (List.mem_map_of_mem taken)))
  mount rack role driver backend holds within := kept.markDummy rack.hub role _ (holds within)
  dismount rack role holds within := kept.markDummy rack.hub role true (holds within)

end Hub.Kept

end AudioHost
