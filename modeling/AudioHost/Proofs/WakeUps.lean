import AudioHost.Driver.Script
import AudioHost.Proofs.Delivery
import AudioHost.Proofs.Phases
import Mathlib.Logic.Relation

/-!
# No wake-up is lost

The signal is raised whenever something calls for another cycle of the relay: an event that waits
for it, or a position that it has not seen.
-/

set_option autoImplicit false

namespace AudioHost

theorem Mailbox.inputs_use (mailbox : Mailbox) {use : Command}
    (silent : ∀ event, use ≠ .deliver event) (waits : (mailbox.apply use).2.inputs ≠ []) :
    mailbox.inputs ≠ [] := by
  by_cases leaves : use = .collect
  · subst leaves
    simp only [apply] at waits
    cases known : mailbox.collect? with
    | none => simpa [known] using waits
    | some taken => simp [inputs_collect?_some known]
  · have refused : use.accepted (mailbox.apply use).1 = [] := by
      cases use with
      | deliver event => exact absurd rfl (silent event)
      | _ => simp [Command.accepted, Command.offers]
    rwa [inputs_apply _ _ leaves, refused, List.append_nil] at waits

theorem Mailboxes.inputs_silent (mail : Mailboxes) {command : Command} {role : Role}
    (silent : command.deliversTo role = false)
    (waits : ((mail.apply command).2.mailbox role).inputs ≠ []) :
    (mail.mailbox role).inputs ≠ [] := by
  have becomes := mail.becomes command role
  generalize (mail.apply command).2.mailbox role = mailbox at becomes waits
  cases becomes with
  | renewed capacity => exact absurd (Mailbox.inputs_make capacity) waits
  | cleared => exact absurd rfl waits
  | kept => exact waits
  | used use delivers =>
    refine Mailbox.inputs_use _ ?_ waits
    intro event delivered
    simp [delivers event delivered] at silent

/-- Input for the relay that is put straight into a mailbox, past the hub and its signal. -/
def Hub.Action.isSilentInput : Action → Bool
  | .onMailboxes command => command.deliversTo .midi
  | _ => false

namespace Station

/-- The signal is up while an event waits or the clock is at another position than the one that the
relay remembers, which is the one it saw last or one equal to that. -/
structure Alert (station : Station) : Prop where
  input : (station.hub.mail.mailbox .midi).inputs ≠ [] → station.hub.signal.raised = true
  moved : ∀ relay, station.worker = .waiting relay → station.hub.time.isNaN = false →
    (station.hub.time != relay.toldTime) = true → station.hub.signal.raised = true

def NothingPends (station : Station) : Prop :=
  (station.hub.mail.mailbox .midi).inputs = [] ∧
    ∀ relay, station.worker = .waiting relay → station.hub.time.isNaN = false →
      (station.hub.time == relay.toldTime) = true

/-- Something that happens at a station between two of its operations, or halfway through one: each
action of a device or of the application, a line of the log, a mark of the clock, any use of the
channel, and a cycle of the relay. -/
inductive Happens (station : Station) : Station → Prop where
  | acted (action : Hub.Action) (signals : action.isSilentInput = false) :
      Happens station { station with hub := (station.hub.perform action).2 }
  | noted (notice : Notice) : Happens station { station with hub := station.hub.note notice }
  | marked (name : RoleName) (dummy : Bool) :
      Happens station { station with hub := station.hub.markDummy name dummy }
  | used (channel : Channel) : Happens station { station with channel }
  | cycled (relay : Relay) (waiting : station.worker = .waiting relay) :
      Happens station (station.cycle relay).2

variable {station : Station}

theorem Alert.ofRaised (raised : station.hub.signal.raised = true) : station.Alert :=
  ⟨fun _ => raised, fun _ _ _ _ => raised⟩

theorem Alert.quiet (alert : station.Alert) (quiet : station.hub.signal.raised = false) :
    station.NothingPends := by
  have lowered : ¬ station.hub.signal.raised = true := by simp [quiet]
  refine ⟨?_, ?_⟩
  · by_contra waits
    exact lowered (alert.input waits)
  · intro relay waiting number
    by_contra differs
    exact lowered (alert.moved relay waiting number (by simpa [bne] using differs))

/-- A report that does not move the clock leaves it at a position that is equal to the last one, so
to any other position they compare alike. -/
theorem Alert.report (alert : station.Alert) (source : ClockSource) (time : Position) :
    Alert { station with hub := (station.hub.report source time).2 } := by
  cases authorized : station.hub.clock.authorizes source with
  | false =>
    simp only [Hub.report, Clock.report_refused time authorized]
    exact alert
  | true =>
    cases pending : station.hub.clock.jumpPending.get with
    | true =>
      simp only [Hub.report, Clock.report_swallowed time authorized pending]
      exact ⟨alert.input, alert.moved⟩
    | false =>
      simp only [Hub.report, Clock.report_taken time authorized pending]
      cases moved : station.hub.clock.time.get != time with
      | true => exact .ofRaised rfl
      | false =>
        have equal : (station.hub.time == time) = true := by
          simpa [bne, Hub.time] using moved
        refine ⟨alert.input, ?_⟩
        intro relay waiting _ differs
        refine alert.moved relay waiting (Position.isNaN_of_beq equal) ?_
        rwa [bne, BEq.congr_left equal]

theorem Alert.perform (alert : station.Alert) {action : Hub.Action}
    (signals : action.isSilentInput = false) :
    Alert { station with hub := (station.hub.perform action).2 } := by
  cases action with
  | report source time => exact alert.report source time
  | jump time => exact .ofRaised rfl
  | time => exact alert
  | deliver name port buffer =>
    simp only [Hub.perform, Answer.attempt, Hub.deliver?]
    cases station.hub.mail.deliver? name port buffer with
    | none => exact alert
    | some mail => exact .ofRaised rfl
  | onMailboxes command =>
    have signal : (station.hub.perform (.onMailboxes command)).2.signal = station.hub.signal := by
      cases command <;> rfl
    have clock : (station.hub.perform (.onMailboxes command)).2.clock = station.hub.clock := by
      cases command <;> rfl
    have mail : (station.hub.perform (.onMailboxes command)).2.mail =
        (station.hub.mail.apply command).2 := station.hub.mail_perform (.onMailboxes command)
    refine ⟨?_, ?_⟩
    · simp only [signal, mail]
      exact fun waits => alert.input (station.hub.mail.inputs_silent signals waits)
    · simp only [signal, Hub.time, clock]
      exact alert.moved
  | describe => exact alert

theorem toldTime_cycle {relay next : Relay}
    (waiting : (station.cycle relay).2.worker = .waiting next) :
    next.toldTime = (relay.told station.hub.time).toldTime := by
  cases waiting
  exact Relay.toldTime_observeAll _ _

theorem alert_cycle (station : Station) (relay : Relay) : (station.cycle relay).2.Alert where
  input waits := by
    have emptied : ((station.cycle relay).2.hub.mail.mailbox .midi).inputs = [] := by
      have taken := (station.hub.mail.mailbox .midi).collectAll_all.2
      simpa [cycle, Mailboxes.collectAll] using taken
    exact absurd emptied waits
  moved := by
    intro next waiting number differs
    have now : station.hub.time.isNaN = false := number
    have seen : (station.hub.time != next.toldTime) = true := differs
    rw [toldTime_cycle waiting, relay.bne_told, Position.bne_self now] at seen
    cases seen

theorem Happens.alert {after : Station} (happens : station.Happens after) (alert : station.Alert) :
    after.Alert := by
  cases happens with
  | acted action signals => exact alert.perform signals
  | noted notice => exact ⟨alert.input, alert.moved⟩
  | marked name dummy => exact ⟨alert.input, alert.moved⟩
  | used channel => exact ⟨alert.input, alert.moved⟩
  | cycled relay waiting => exact station.alert_cycle relay

theorem alert_later {after : Station} (later : Relation.ReflTransGen Happens station after)
    (alert : station.Alert) : after.Alert := by
  induction later with
  | refl => exact alert
  | tail _ happens ih => exact happens.alert ih

theorem Alert.start (alert : station.Alert) (absent : station.worker = .absent) (interval : Nat) :
    (station.start interval).Alert := by
  have still : station.clear = station := by
    simp only [clear, stop, absent]
    rw [← absent]
  simp only [Station.start, still]
  refine ⟨alert.input, ?_⟩
  rintro relay ⟨⟩ number differs
  have now : station.hub.time.isNaN = false := number
  have seen : (station.hub.time != station.hub.time) = true := differs
  rw [Position.bne_self now] at seen
  cases seen

theorem kept_later (origin : Station) :
    Hub.Kept (fun action => action.isSilentInput = false) fun hub =>
      origin.Alert ∧ Relation.ReflTransGen Happens origin { origin with hub } where
  perform := by
    rintro hub action signals ⟨alert, path⟩
    exact ⟨alert, path.tail (.acted action signals)⟩
  note := by
    rintro hub notice ⟨alert, path⟩
    exact ⟨alert, path.tail (.noted notice)⟩
  markDummy := by
    rintro hub name dummy ⟨alert, path⟩
    exact ⟨alert, path.tail (.marked name dummy)⟩

end Station

/-- No device has put input for the relay where nothing is told of it. -/
def Journal.Signals (journal : Journal) : Prop :=
  ∀ action ∈ journal.actions, action.isSilentInput = false

namespace Rack

/-- All that has become of the hub of a station is what happens at one. -/
def Continues (rack : Rack) (origin : Station) : Prop :=
  rack.journal.Signals → origin.Alert ∧
    Relation.ReflTransGen Station.Happens origin { origin with hub := rack.hub }

theorem steady_continues (origin : Station) : Steady (Continues · origin) :=
  (Station.kept_later origin).steady

theorem Continues.adjust {rack : Rack} {origin : Station} (continues : rack.Continues origin)
    (name : RoleName) (settings : Settings) : (rack.adjust name settings).2.Continues origin := by
  refine (steady_continues origin).adjust name settings ?_ ?_ continues
  · intro rack continues signals
    obtain ⟨alert, path⟩ := continues signals
    exact ⟨alert, path.tail (.acted (.onMailboxes (.clear name.role)) rfl)⟩
  · intro rack continues signals
    obtain ⟨alert, path⟩ := continues signals
    exact ⟨alert, path.tail (.acted (.onMailboxes (.renew name.role _)) rfl)⟩

theorem Continues.pass {rack : Rack} {origin : Station} (continues : rack.Continues origin)
    (name : RoleName) (request : Request) : (rack.pass name request).2.Continues origin :=
  (steady_continues origin).pass name request continues

theorem Continues.alert {rack : Rack} {origin : Station} (continues : rack.Continues origin)
    (signals : rack.journal.Signals) : Station.Alert { origin with hub := rack.hub } := by
  obtain ⟨alert, path⟩ := continues signals
  exact Station.alert_later path alert

end Rack

namespace Session

def Alert (session : Session) : Prop := session.rack.journal.Signals → session.station.Alert

theorem Alert.continues {session : Session} (alert : session.Alert) :
    session.rack.Continues session.station :=
  fun signals => ⟨alert signals, .refl⟩

theorem alert_deactivate (session : Session) : session.deactivate.2.Alert := by
  have closed : session.vacated.hub.mail.mailbox .midi = .closed := by
    simp only [vacated, Rack.forBoth_snd]
    exact (Mailboxes.mailbox_clear ..).trans (if_pos rfl)
  intro _
  rw [deactivate_snd]
  refine ⟨fun waits => absurd ?_ waits, by rintro relay ⟨⟩⟩
  simp only [station]
  split
  · exact congrArg Mailbox.inputs closed
  · exact congrArg Mailbox.inputs closed

/-- A new MIDI mailbox is empty, and from then on nothing lowers the signal until the relay starts,
so it is told of whatever the devices have sent by then. -/
theorem Activates.alert {session after : Session} {settings : Settings}
    {result : Except Fault Unit} (activates : session.Activates settings result after)
    (alert : session.Alert) (phased : session.Phased) : after.Alert := by
  cases activates with
  | alreadyActive => exact alert
  | invalid => exact alert
  | fails fault after atRest checked brought => exact alert_deactivate _
  | succeeds after atRest checked brought =>
    have absent : (session.prepared settings).worker = .absent := (phased.rest atRest).1
    have fresh : ((session.prepared settings).rack.hub.mail.mailbox .midi).inputs = [] := by
      have renewed : (session.prepared settings).rack.hub.mail.mailbox .midi =
          .make (settings.mailboxSize .midi) := (Mailboxes.mailbox_renew ..).trans (if_pos rfl)
      rw [renewed, Mailbox.inputs_make]
    have prepared : (session.prepared settings).Alert := by
      refine fun _ => ⟨fun waits => absurd fresh waits, ?_⟩
      intro relay waiting
      cases absent.symm.trans waiting
    obtain ⟨rack, continues, ⟨⟨_, failed⟩, -⟩ | ⟨-, rfl⟩⟩ :=
      brought.steady (Rack.steady_continues _) prepared.continues
    · cases failed
    · exact fun signals => (continues.alert signals).start absent settings.wakeInterval

theorem Alert.adjust {session : Session} (alert : session.Alert) (phased : session.Phased)
    (settings : Settings) : (session.adjust settings).2.Alert := by
  simp only [Session.adjust]
  split
  · exact (session.activates settings).alert alert phased
  split
  · exact alert
  · rw [Rack.forBoth_snd]
    exact ((alert.continues.adjust .audio settings).adjust .midi settings).alert

theorem Alert.pass {session : Session} (alert : session.Alert) (name : RoleName)
    (request : Request) : (session.pass name request).2.Alert :=
  (alert.continues.pass name request).alert

theorem Alert.passBoth {session : Session} (alert : session.Alert) (request : Request) :
    (session.passBoth request).2.Alert := by
  simp only [Session.passBoth, Rack.forBoth_snd]
  exact ((alert.continues.pass .audio request).pass .midi request).alert

theorem Alert.happens {session : Session} {after : Station} (alert : session.Alert)
    (happens : session.station.Happens after) : (session.withStation after).Alert :=
  fun signals => happens.alert (alert signals)

theorem Alert.runs {session : Session} {result : List Attempt × Station} (alert : session.Alert)
    (runs : session.station.Runs result) : (session.withStation result.2).Alert := by
  cases runs with
  | still => exact alert
  | cycle relay waiting => exact alert.happens (.cycled relay waiting)

theorem Alert.apply {session : Session} (alert : session.Alert) (phased : session.Phased)
    (command : Command)
    (signals : ∀ action, command = .perform action → action.isSilentInput = false) :
    (session.apply command).2.2.Alert := by
  cases command with
  | activate settings => exact (session.activates settings).alert alert phased
  | adjust settings => exact alert.adjust phased settings
  | deactivate => exact session.alert_deactivate
  | playbackStarted => exact alert.passBoth .playbackStarted
  | playbackStopped => exact alert.passBoth .playbackStopped
  | silence name => exact alert.pass name .silence
  | perform action => exact alert.happens (.acted action (signals action rfl))
  | collect => exact alert.happens (.used _)
  | subscribe => exact alert.happens (.used _)
  | receive receiver =>
    simp only [Session.apply]
    split
    next => exact alert
    next channel _ =>
      -- The receiver may be one of a channel that is closed by now.
      simp only [Inboxes.setChannel]
      split
      · exact alert.happens (.used _)
      · exact alert
  | lapse => exact alert.runs session.station.runs_lapse
  | refuse refusal => exact alert

theorem Alert.move {session : Session} (alert : session.Alert) (phased : session.Phased)
    (move : Move) (signals : ∀ action ∈ move.action?, action.isSilentInput = false) :
    (session.move move).2.Alert := by
  cases move with
  | operate command =>
    refine alert.apply phased command ?_
    rintro action rfl
    exact signals action rfl
  | settle => exact alert.runs session.station.runs_settle

end Session

/-- As long as all input for the relay goes through the hub, the signal is raised while an event
waits for it or the clock is at a position, other than one that is not a number, that it has not
seen: between any two operations of a session, and however devices, the application and the relay
go on from there, in whatever order. While the signal is down nothing pends. -/
theorem no_wakeUp_lost (catalog : Catalog) (moves : List Session.Move) (station : Station)
    (signals : ∀ action ∈ (Session.ofCatalog catalog).actions moves, action.isSilentInput = false)
    (later : Relation.ReflTransGen Station.Happens
      ((Session.ofCatalog catalog).moveAll moves).station station) :
    station.Alert ∧ (station.hub.signal.raised = false → station.NothingPends) := by
  have fresh : (Session.ofCatalog catalog).Alert := by
    intro _
    refine ⟨fun waits => absurd rfl waits, ?_⟩
    intro relay waiting
    cases waiting
  obtain ⟨-, alert⟩ := Session.moveAll_within catalog moves fresh
    (fun alert phased move signals => alert.move phased move signals) signals
  have alert : station.Alert := Station.alert_later later <|
    alert fun action taken => signals action (List.mem_append_right _ taken)
  exact ⟨alert, alert.quiet⟩

def awaiting : Session :=
  (Session.ofCatalog .stubborn).moveAll [.operate (.activate { audioDriver := "stubborn" })]

/-- The event that a driver has sent as it came up still waits when the clock jumps. -/
theorem no_wakeUp_lost_stubborn :
    (∀ action ∈ (Session.ofCatalog .stubborn).actions
        [.operate (.activate { audioDriver := "stubborn" })], action.isSilentInput = false) ∧
      (awaiting.rack.hub.mail.mailbox .midi).inputs ≠ [] ∧ awaiting.isRelaying = true ∧
      Station.Alert { awaiting.station with hub := awaiting.rack.hub.jump 3 } := by
  have signals : ∀ action ∈ (Session.ofCatalog .stubborn).actions
      [.operate (.activate { audioDriver := "stubborn" })], action.isSilentInput = false := by
    decide +kernel
  have jumps : awaiting.station.Happens
      { awaiting.station with hub := awaiting.rack.hub.jump 3 } := .acted (.jump 3) rfl
  have alert := (no_wakeUp_lost .stubborn _ _ signals (.single jumps)).1
  exact ⟨signals, by decide +kernel, by decide +kernel, alert⟩

end AudioHost
