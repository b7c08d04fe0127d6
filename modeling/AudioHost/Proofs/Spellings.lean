import AudioHost.Driver.Script
import AudioHost.Proofs.RackPairs
import AudioHost.Proofs.RoleNames
import Mathlib.Data.List.Forall2

/-!
# Devices that spell names differently

A device names roles too, in what it does to the hub. Two devices that do the same but for the
spelling of these names leave everything the same, but for how the journal spells it.
-/

set_option autoImplicit false

namespace AudioHost

def Exchange.resolved (exchange : Exchange) : Exchange :=
  { exchange with action := exchange.action.resolved }

def Call.resolved (call : Call) : Call :=
  { call with exchanges := call.exchanges.map Exchange.resolved }

def Record.resolved : Record → Record
  | .made target role => .made target role
  | .called call => .called call.resolved

def Journal.resolved (journal : Journal) : Journal := journal.map Record.resolved

namespace Journal

theorem resolved_push (journal : Journal) (record : Record) :
    resolved (journal.push record) = journal.resolved.push record.resolved :=
  Array.map_push

theorem madeBy_resolved (journal : Journal) (registration : Nat) :
    journal.resolved.madeBy registration = journal.madeBy registration := by
  simp only [madeBy, resolved, Array.toList_map, List.countP_map]
  refine List.countP_congr fun record _ => ?_
  cases record <;> rfl

theorem callsTo_resolved (journal : Journal) (registration : Nat) :
    journal.resolved.callsTo registration = (journal.callsTo registration).map Call.resolved := by
  simp only [callsTo, resolved, Array.toList_map, List.filterMap_map, List.map_filterMap]
  refine List.filterMap_congr fun record _ => ?_
  cases record with
  | made => rfl
  | called call =>
    simp only [Function.comp_apply, Record.resolved]
    split
    next same => simp [Call.resolved, show call.target.registration = registration from same]
    next other => simp [show call.target.registration ≠ registration from other]

end Journal

def Conduct.resolved : Conduct → Conduct
  | .finish outcome => .finish outcome
  | .act action next => .act action.resolved fun answer => (next answer).resolved

theorem Conduct.run_resolved (conduct : Conduct) (hub : Hub) :
    conduct.resolved.run hub =
      ((conduct.run hub).1.map Exchange.resolved, (conduct.run hub).2) := by
  induction conduct generalizing hub with
  | finish outcome => rfl
  | act action next ih =>
    simp only [resolved, run, Hub.perform_resolved, ih, List.map_cons, Exchange.resolved]

structure Device.Alike (left right : Device) : Prop where
  name : left.name = right.name
  isDummy : left.isDummy = right.isDummy
  /-- They do the same, and neither looks at how a name was spelled before. -/
  respond : ∀ journal other target request, Journal.resolved journal = Journal.resolved other →
    (left.respond journal target request).resolved = (right.respond other target request).resolved

structure Registration.Alike (left right : Registration) : Prop where
  number : left.number = right.number
  role : left.role = right.role
  name : left.name = right.name
  make : ∀ serial role, Device.Alike (left.make serial role) (right.make serial role)

def Catalog.Alike (left right : Catalog) : Prop :=
  List.Forall₂ Registration.Alike left.registrations right.registrations

namespace Catalog

variable {left right : Catalog}

theorem Alike.add (alike : left.Alike right) {name other : RoleName} (same : name.role = other.role)
    (driver : String) {make remake : Nat → Role → Device}
    (makes : ∀ serial role, Device.Alike (make serial role) (remake serial role)) :
    (left.add name driver make).Alike (right.add other driver remake) :=
  .cons ⟨alike.length_eq, same, rfl, makes⟩ alike

theorem Alike.find? (alike : left.Alike right) (name : RoleName) (driver : String) :
    Option.Rel Registration.Alike (left.find? name driver) (right.find? name driver) := by
  have entries : List.Forall₂ Registration.Alike left.registrations right.registrations := alike
  simp only [Catalog.find?]
  generalize left.registrations = these at entries ⊢
  generalize right.registrations = those at entries ⊢
  induction entries with
  | nil => exact .none
  | cons same rest ih =>
    simp only [List.find?_cons, same.role, same.name]
    split
    · exact .some same
    · exact ih

end Catalog

inductive Backend.Alike : Backend → Backend → Prop where
  | dummy : Alike .dummy .dummy
  | external (target : Instance) {left right : Device} (alike : left.Alike right) :
      Alike (.external target left) (.external target right)

theorem Backend.Alike.isDummy {left right : Backend} (alike : left.Alike right) :
    left.isDummy = right.isDummy := by
  cases alike with
  | dummy => rfl
  | external target alike => exact alike.isDummy

theorem Backend.Alike.name {left right : Backend} (alike : left.Alike right) :
    left.name = right.name := by
  cases alike with
  | dummy => rfl
  | external target alike => exact alike.name

namespace Rack

/-- The same racks, but for how their devices spell the names of roles. -/
structure Alike (left right : Rack) : Prop where
  catalog : left.catalog.Alike right.catalog
  hub : left.hub = right.hub
  mounts : SameMounts Backend.Alike left.mounts right.mounts
  journal : left.journal.resolved = right.journal.resolved

namespace Alike

variable {left right : Rack}

theorem withHub (alike : left.Alike right) (hub : Hub) :
    Alike { left with hub } { right with hub } :=
  { alike with hub := rfl }

theorem backend (alike : left.Alike right) (name : RoleName) :
    Backend.Alike (left.backend name) (right.backend name) :=
  alike.mounts.backend .dummy name

theorem mountedDummies (alike : left.Alike right) : left.mountedDummies = right.mountedDummies := by
  simp only [Rack.mountedDummies, (alike.backend _).isDummy]

theorem make (alike : left.Alike right) (role : Role) {one other : Registration}
    (same : one.Alike other) :
    Backend.Alike (left.make one role).1 (right.make other role).1 ∧
      Alike (left.make one role).2 (right.make other role).2 := by
  have serial : left.journal.madeBy one.number = right.journal.madeBy one.number := by
    rw [← Journal.madeBy_resolved, alike.journal, Journal.madeBy_resolved]
  simp only [Rack.make, ← same.number, serial]
  refine ⟨.external _ (same.make _ role), { alike with journal := ?_ }⟩
  rw [Journal.resolved_push, Journal.resolved_push, alike.journal]

theorem choose (alike : left.Alike right) (role : Role) (driver : String) :
    SameChoice Backend.Alike Alike left right role (left.catalog.choose role driver)
      (right.catalog.choose role driver) := by
  have found := alike.catalog.find? role driver
  simp only [Catalog.choose]
  split
  · exact .dummy
  generalize left.catalog.find? role driver = one at found ⊢
  generalize right.catalog.find? role driver = other at found ⊢
  cases found with
  | none =>
    dsimp only
    split
    · exact .leftOut
    · exact .unknown
  | some same =>
    obtain ⟨backend, made⟩ := alike.make role same
    exact .registered _ _ backend made

theorem call (alike : left.Alike right) (role : Role) {one other : Backend}
    (same : one.Alike other) (request : Request) :
    Together Alike (left.call role one request) (right.call role other request) := by
  cases same with
  | dummy =>
    have noted (notice : Notice) : (left.note notice).Alike (right.note notice) :=
      { alike with hub := congrArg (Hub.note · notice) alike.hub }
    cases request with
    | activate settings => exact ⟨rfl, noted (.dummyActivated role)⟩
    | _ => exact ⟨rfl, alike⟩
  | @external target one other same =>
    have responds := same.respond left.journal right.journal target request alike.journal
    -- What both do is read off one conduct, in which every name is resolved.
    have here := (one.respond left.journal target request).run_resolved left.hub
    have there := (other.respond right.journal target request).run_resolved left.hub
    rw [responds, there] at here
    obtain ⟨exchanges, ends⟩ := Prod.mk.inj here
    simp only [Rack.call, ← alike.hub, ends]
    refine ⟨rfl, { alike with hub := rfl, journal := ?_ }⟩
    rw [Journal.resolved_push, Journal.resolved_push, alike.journal, alike.mountedDummies]
    simp only [Record.resolved, Call.resolved, exchanges]

end Alike

theorem paired_alike : Paired Backend.Alike Alike where
  dummy := .dummy
  mounts _ _ role alike := alike.mounts role
  choose _ _ role driver alike := alike.choose role driver
  note _ _ notice alike := { alike with hub := congrArg (Hub.note · notice) alike.hub }
  call _ _ role _ _ request alike same := alike.call role same request
  mount _ _ role _ _ _ alike same :=
    { alike with
      hub := congrArg₂ (Hub.markDummy · role ·) alike.hub same.isDummy
      mounts := alike.mounts.set role (.some ⟨rfl, same⟩) }
  dismount _ _ role alike :=
    { alike with
      hub := congrArg (Hub.markDummy · role true) alike.hub
      mounts := alike.mounts.set role .none }
  clear _ _ role alike := { alike with hub := congrArg (Hub.clear · role) alike.hub }
  renew _ _ role capacity alike :=
    { alike with hub := congrArg (Hub.renew · role capacity) alike.hub }

section

variable {left right : Rack}

theorem Together.result {left right : Except Fault Unit × Rack} (same : Together Alike left right) :
    Together Alike (left.map Reply.result id) (right.map Reply.result id) :=
  ⟨congrArg Reply.result same.1, same.2⟩

theorem Alike.apply (alike : left.Alike right) (command : Command) :
    Together Alike (left.apply command) (right.apply command) := by
  cases command with
  | engage name settings => exact (paired_alike.engage name settings alike).result
  | adjust name settings => exact (paired_alike.adjust name settings alike).result
  | vacate name => exact (paired_alike.vacate name alike).result
  | playbackStarted name => exact (paired_alike.pass name .playbackStarted alike).result
  | playbackStopped name => exact (paired_alike.pass name .playbackStopped alike).result
  | silence name => exact (paired_alike.pass name .silence alike).result
  | perform action =>
    simp only [Rack.apply, alike.hub]
    exact ⟨rfl, alike.withHub _⟩
  | waitSignal =>
    simp only [Rack.apply, alike.hub]
    exact ⟨rfl, alike.withHub _⟩

theorem Alike.use (alike : left.Alike right) (use : Use) :
    Together Alike (left.use use) (right.use use) := by
  cases use with
  | command command =>
    obtain ⟨reply, after⟩ := alike.apply command
    exact ⟨congrArg Sight.reply reply, after⟩
  | backend name =>
    have same := alike.backend name
    exact ⟨congrArg₂ Sight.backend same.name same.isDummy, alike⟩
  | driver name => exact ⟨congrArg Sight.driver (alike.mounts.driver name), alike⟩
  | isMounted name => exact ⟨congrArg Sight.isMounted (alike.mounts.isMounted name), alike⟩

end

end Rack

namespace Script

/-- The same script, with the names of roles resolved. -/
def resolved (script : Script) : Script :=
  { script with actions := script.actions.map fun (kind, actions) =>
      (kind, actions.map Hub.Action.resolved) }

theorem resolved_ofActions (actions : List Hub.Action) (outcome : Outcome) :
    (Conduct.ofActions actions outcome).resolved =
      .ofActions (actions.map Hub.Action.resolved) outcome := by
  induction actions with
  | nil => rfl
  | cons action rest ih =>
    simp only [Conduct.ofActions, List.foldr_cons, List.map_cons, Conduct.resolved] at ih ⊢
    rw [ih]

theorem lookup_resolved (script : Script) (kind : RequestKind) :
    (script.resolved.actions.lookup kind).getD [] =
      ((script.actions.lookup kind).getD []).map Hub.Action.resolved := by
  simp only [resolved]
  induction script.actions with
  | nil => rfl
  | cons entry rest ih =>
    -- Kinds of requests are left as they are, so both lookups stop at the same entry.
    obtain ⟨other, actions⟩ := entry
    simp only [List.map_cons, List.lookup_cons]
    cases kind == other with
    | true => rfl
    | false => exact ih

theorem alike {left right : Script} (same : left.resolved = right.resolved) :
    left.device.Alike right.device where
  name := by
    have labels : left.resolved.label = right.resolved.label := by rw [same]
    exact labels
  isDummy := by
    have flags : left.resolved.isDummy = right.resolved.isDummy := by rw [same]
    exact flags
  respond journal other target request calls := by
    -- A script only counts earlier calls of a kind, and spelling leaves their number.
    have earlier (journal : Journal) :
        (journal.callsTo target.registration).countP (fun call => call.request.kind == request.kind)
          = (journal.resolved.callsTo target.registration).countP
            fun call => call.request.kind == request.kind := by
      rw [Journal.callsTo_resolved, List.countP_map]
      rfl
    have fails (script : Script) (kind : RequestKind) (count : Nat) :
        script.outcome kind count = script.resolved.outcome kind count := rfl
    simp only [device, respond, resolved_ofActions, ← lookup_resolved]
    rw [earlier journal, earlier other, calls, fails left, fails right, same]

end Script

end AudioHost
