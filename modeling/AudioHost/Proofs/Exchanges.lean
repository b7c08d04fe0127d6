import AudioHost.Proofs.HubActions

/-!
# What devices and a hub exchange

A journal has every exchange that devices had with the hub of their rack, in order. What is said of
a hub along with the exchanges since some moment, a rack keeps as its journal grows.
-/

set_option autoImplicit false

namespace AudioHost

def Record.exchanges : Record → List Exchange
  | .made .. => []
  | .called call => call.exchanges

theorem Record.actions_eq (record : Record) :
    record.actions = record.exchanges.map Exchange.action := by
  cases record <;> rfl

theorem Record.mem_actions {records : List Record} {exchange : Exchange}
    (made : exchange ∈ records.flatMap exchanges) :
    ∃ record ∈ records, exchange.action ∈ record.actions := by
  obtain ⟨record, listed, within⟩ := List.mem_flatMap.mp made
  refine ⟨record, listed, ?_⟩
  rw [record.actions_eq]
  exact List.mem_map_of_mem within

/-- Kept by all that is done to a hub while a log is kept of what devices do to it. -/
structure Hub.Logged (property : List Exchange → Hub → Prop) : Prop where
  perform : ∀ log hub action, property log hub →
    property (log ++ [⟨hub.clock, action, (hub.perform action).1⟩]) (hub.perform action).2
  note : ∀ log hub notice, property log hub → property log (hub.note notice)
  markDummy : ∀ log hub name dummy, property log hub → property log (hub.markDummy name dummy)

/-- So it is of the hub and of what devices did to it since the journal had `start`. -/
def Rack.Since (start : List Record) (property : List Exchange → Hub → Prop) (rack : Rack) : Prop :=
  ∃ records, rack.journal.toList = start ++ records ∧
    property (records.flatMap Record.exchanges) rack.hub

namespace Hub.Logged

variable {property : List Exchange → Hub → Prop}

theorem conduct (logged : Logged property) (conduct : Conduct) {log : List Exchange} {hub : Hub}
    (holds : property log hub) :
    property (log ++ (conduct.run hub).1) (conduct.run hub).2.2 := by
  induction conduct generalizing log hub with
  | finish outcome =>
    simp only [Conduct.run, List.append_nil]
    exact holds
  | act action next ih =>
    have later := ih (hub.perform action).1 (logged.perform log hub action holds)
    rw [List.append_assoc] at later
    exact later

theorem steady (logged : Logged property) (start : List Record) :
    Rack.Steady (Rack.Since start property) where
  note rack notice holds := by
    obtain ⟨records, journal, holds⟩ := holds
    exact ⟨records, journal, logged.note _ _ notice holds⟩
  make rack registration role holds := by
    obtain ⟨records, journal, holds⟩ := holds
    refine ⟨records ++ [.made ⟨registration.number, rack.journal.madeBy registration.number⟩ role],
      ?_, ?_⟩
    · simp [Rack.make, journal]
    · simpa [Rack.make, Record.exchanges] using holds
  call rack role backend request holds := by
    obtain ⟨records, journal, holds⟩ := holds
    cases backend with
    | dummy =>
      cases request with
      | activate settings => exact ⟨records, journal, logged.note _ _ _ holds⟩
      | _ => exact ⟨records, journal, holds⟩
    | external target device =>
      have after := logged.conduct (device.respond rack.journal target request) holds
      refine ⟨_, by rw [Rack.call, Array.toList_push, journal, List.append_assoc], ?_⟩
      simpa [Rack.call, Record.exchanges] using after
  mount rack role driver backend holds := by
    obtain ⟨records, journal, holds⟩ := holds
    exact ⟨records, journal, logged.markDummy _ _ role _ holds⟩
  dismount rack role holds := by
    obtain ⟨records, journal, holds⟩ := holds
    exact ⟨records, journal, logged.markDummy _ _ role true holds⟩

end Hub.Logged

namespace Rack.Since

variable {start : List Record} {property : List Exchange → Hub → Prop} {rack : Rack}

theorem now (holds : property [] rack.hub) : rack.Since rack.journal.toList property :=
  ⟨[], by simp, holds⟩

theorem imp {after : Rack} {other : List Exchange → Hub → Prop} (since : rack.Since start property)
    (journal : after.journal = rack.journal)
    (kept : ∀ log, property log rack.hub → other log after.hub) : after.Since start other := by
  obtain ⟨records, grown, holds⟩ := since
  exact ⟨records, journal ▸ grown, kept _ holds⟩

/-- The journal alone says which records are new. -/
theorem holds (since : rack.Since start property) {records : List Record}
    (journal : rack.journal.toList = start ++ records) :
    property (records.flatMap Record.exchanges) rack.hub := by
  obtain ⟨others, same, holds⟩ := since
  obtain rfl : others = records := List.append_cancel_left (same.symm.trans journal)
  exact holds

end Rack.Since

end AudioHost
