import AudioHost.Proofs.RackCounterparts
import AudioHost.Proofs.Rollback
import AudioHost.Proofs.SessionChannels
import AudioHost.Proofs.SessionPairs
import AudioHost.Proofs.WakeUps

/-!
# Sessions start afresh

What a session with forgetful devices does after an activation does not depend on what was done
before.
-/

set_option autoImplicit false

namespace AudioHost

/-- The same worker, but for the position that its relay told: that is the one at the start. -/
inductive Worker.Counterpart (first second : Position) : Worker → Worker → Prop where
  | absent : Counterpart first second .absent .absent
  | waiting (overflowing : Bool) (interval : Nat) : Counterpart first second
      (.waiting ⟨first, overflowing, interval⟩) (.waiting ⟨second, overflowing, interval⟩)

theorem Worker.Counterpart.relay {first second : Position} (relay : Relay)
    (told : relay.toldTime = first) :
    Counterpart first second (.waiting relay) (.waiting { relay with toldTime := second }) := by
  subst told
  exact .waiting relay.overflowing relay.interval

namespace Session

/-- How many mailboxes and channels come before the next ones. -/
structure Counts where
  mail : PerRole Nat
  inboxes : Nat

def counts (session : Session) : Counts :=
  ⟨session.rack.hub.mail.counts, session.inboxes.generation + 1⟩

def Command.usesTime : Command → Bool
  | .perform action => action.usesTime
  | _ => false

def Command.after (before : Counts) : Command → Command
  | .perform action => .perform (action.after before.mail)
  | .receive number => .receive (before.inboxes + number)
  | command => command

def Reply.after (before : Counts) : Reply → Reply
  | .receiver number => .receiver (before.inboxes + number)
  | reply => reply

/-- Two sessions are the same from a start on: all mailboxes and channels since then with what they
hold, what is mounted, and all that was asked of devices. -/
structure Counterparts (first second left right : Session) : Prop where
  rack : Rack.Counterparts first.rack second.rack (left.isRelaying = true) left.rack right.rack
  inboxes : Inboxes.Counterparts first.counts.inboxes second.counts.inboxes
    left.inboxes right.inboxes
  worker : Worker.Counterpart first.rack.hub.time second.rack.hub.time left.worker right.worker
  settings : left.settings = right.settings
  refusal : left.refusal = right.refusal

section

variable {first second left right : Session}

theorem Counterparts.withRacks (same : Counterparts first second left right) {one other : Rack}
    (racks : Rack.Counterparts first.rack second.rack (left.isRelaying = true) one other) :
    Counterparts first second { left with rack := one } { right with rack := other } :=
  { same with rack := racks }

theorem Counterparts.paired (_ : Counterparts first second left right) :
    Rack.Paired (Backend.Counterpart first.rack.journal second.rack.journal)
      (Rack.Counterparts first.rack second.rack (left.isRelaying = true)) :=
  Rack.paired_counterparts _ _ _

theorem Counterparts.pass (same : Counterparts first second left right) (name : RoleName)
    (request : Request) :
    (left.pass name request).1 = (right.pass name request).1 ∧
      Counterparts first second (left.pass name request).2 (right.pass name request).2 := by
  obtain ⟨answer, racks⟩ := same.paired.pass name request same.rack
  exact ⟨answer, same.withRacks racks⟩

theorem Counterparts.passBoth (same : Counterparts first second left right) (request : Request) :
    (left.passBoth request).1 = (right.passBoth request).1 ∧
      Counterparts first second (left.passBoth request).2 (right.passBoth request).2 := by
  obtain ⟨answer, racks⟩ := Rack.Together.forBoth (fun rack role => rack.pass role request)
    (fun _ _ role => same.paired.pass role request) same.rack
  exact ⟨answer, same.withRacks racks⟩

end

end Session

theorem Mailboxes.withMailbox_self (mail : Mailboxes) (name : RoleName) :
    mail.withMailbox name (mail.mailbox name) = mail :=
  congrArg Mailboxes.mk (mail.lanes.set_get_self name.role)

/-- A relay that looks at a clock that stands where it did tells of input only. -/
theorem Station.cycle_still (station : Station) (relay : Relay)
    (still : (station.hub.time != relay.toldTime) = false) :
    station.cycle relay =
      let collected := station.hub.mail.collectAll .midi
      let posted := station.channel.postAll (collected.1.map .input)
      let observed := relay.observeAll (posted.1.map Attempt.outcome)
      let warning := Notice.droppingMessages station.channel.capacity
      let notices := station.hub.notices ++ List.replicate observed.1 warning
      (posted.1, ⟨{ station.hub with signal := ⟨false⟩, mail := collected.2, notices }, posted.2,
        .waiting observed.2⟩) := by
  have now (signal : Signal) : ({ station.hub with signal } : Hub).time = station.hub.time := rfl
  simp only [cycle, now, Relay.messages, Relay.told, still, Bool.false_eq_true, if_false,
    List.append_nil]
  rfl

theorem Station.cycle_idle {station : Station} {relay : Relay}
    (waiting : station.worker = .waiting relay)
    (still : (station.hub.time != relay.toldTime) = false)
    (empty : (station.hub.mail.mailbox .midi).incomingLength = 0) :
    station.cycle relay = ([], { station with hub := { station.hub with signal := ⟨false⟩ } }) := by
  have left : (station.hub.mail.mailbox .midi).collectAll =
      ([], station.hub.mail.mailbox .midi) := by
    simp only [Mailbox.collectAll, empty, Mailbox.collectUpTo]
  have nothing : station.hub.mail.collectAll .midi = ([], station.hub.mail) := by
    simp only [Mailboxes.collectAll, left, Mailboxes.withMailbox_self]
  simp [cycle_still _ _ still, nothing, Channel.postAll, Relay.observeAll, waiting]

theorem Station.settle_idle (station : Station) {relay : Relay}
    (waiting : station.worker = .waiting relay)
    (still : (station.hub.time != relay.toldTime) = false)
    (empty : (station.hub.mail.mailbox .midi).incomingLength = 0) :
    station.settle = ([], { station with hub := { station.hub with signal := ⟨false⟩ } }) := by
  rw [settle_waiting waiting]
  split
  · exact cycle_idle waiting still empty
  next lowered =>
    have down : station.hub.signal.raised = false := by simpa using lowered
    have same : station.hub.signal = ⟨false⟩ := congrArg Signal.mk down
    rw [← same]

theorem Relay.observeAll_toldTime (relay : Relay) (time : Position) (outcomes : List PostOutcome) :
    observeAll { relay with toldTime := time } outcomes =
      ((relay.observeAll outcomes).1, { (relay.observeAll outcomes).2 with toldTime := time }) := by
  induction outcomes generalizing relay with
  | nil => rfl
  | cons outcome rest ih =>
    have first : observe { relay with toldTime := time } outcome =
        ((relay.observe outcome).1, { (relay.observe outcome).2 with toldTime := time }) := by
      cases outcome <;> rfl
    simp only [observeAll, first, ih]

namespace Session

section

variable {first second left right : Session}

/-- The positions at the start are numbers. -/
structure Numbers (first second : Session) : Prop where
  left : (first.rack.hub.time != first.rack.hub.time) = false
  right : (second.rack.hub.time != second.rack.hub.time) = false

theorem Counterparts.still_left (same : Counterparts first second left right)
    (numbers : Numbers first second) :
    (left.station.hub.time != first.rack.hub.time) = false := by
  rw [← numbers.left]
  exact congrArg (· != _) same.rack.times.1

theorem Counterparts.still_right (same : Counterparts first second left right)
    (numbers : Numbers first second) :
    (right.station.hub.time != second.rack.hub.time) = false := by
  rw [← numbers.right]
  exact congrArg (· != _) same.rack.times.2

theorem Counterparts.cycle (same : Counterparts first second left right)
    (numbers : Numbers first second) (overflowing : Bool) (interval : Nat) :
    let one := left.station.cycle ⟨first.rack.hub.time, overflowing, interval⟩
    let other := right.station.cycle ⟨second.rack.hub.time, overflowing, interval⟩
    one.1 = other.1 ∧
      Counterparts first second (left.withStation one.2) (right.withStation other.2) ∧
      (left.withStation one.2).rack.hub.signal = (right.withStation other.2).rack.hub.signal := by
  intro one other
  -- Neither clock has moved since its relay started, so both tell of input and of no position.
  obtain ⟨events, mail⟩ := same.rack.mail.collectAll .midi
  let posted := left.inboxes.current.postAll ((left.rack.hub.mail.collectAll .midi).1.map .input)
  let relay : Relay := ⟨first.rack.hub.time, overflowing, interval⟩
  let outcomes := posted.1.map Attempt.outcome
  have ranLeft := left.station.cycle_still relay (same.still_left numbers)
  have ranRight := right.station.cycle_still { relay with toldTime := second.rack.hub.time }
    (same.still_right numbers)
  have channel : right.station.channel = left.inboxes.current := same.inboxes.current_eq.symm
  have input : (right.station.hub.mail.collectAll .midi).1 =
    (left.rack.hub.mail.collectAll .midi).1 := events.symm
  simp only [channel, input] at ranRight
  rw [relay.observeAll_toldTime] at ranRight
  have kept : (relay.observeAll outcomes).2.toldTime = first.rack.hub.time :=
    relay.toldTime_observeAll outcomes
  simp only [one, other]
  rw [ranLeft, ranRight]
  refine ⟨rfl, ⟨?_, ?_, ?_, same.settings, same.refusal⟩, rfl⟩
  · exact { same.rack with mail, signals := fun _ => .inl rfl }
  · exact same.inboxes.withCurrent posted.2
  · exact Worker.Counterpart.relay _ kept

/-- What two sessions agree on once the relay has had its chance to run. -/
structure InStep (first second left right : Session) : Prop
    extends Counterparts first second left right where
  lowered : left.isRelaying = true → left.rack.hub.signal = right.rack.hub.signal

theorem Counterparts.lapse (same : Counterparts first second left right)
    (numbers : Numbers first second) :
    (left.apply .lapse).2.1 = (right.apply .lapse).2.1 ∧
      Counterparts first second (left.apply .lapse).2.2 (right.apply .lapse).2.2 := by
  have workers := same.worker
  generalize here : left.worker = one at workers
  generalize there : right.worker = other at workers
  cases workers with
  | absent =>
    have still (session : Session) (absent : session.worker = .absent) :
        session.apply .lapse = (.done, [], session) := by
      have kept : session.station.lapse = ([], session.station) :=
        Station.lapse_still (congrArg Worker.relay? absent)
      simp only [Session.apply, kept]
      rfl
    rw [still left here, still right there]
    exact ⟨rfl, same⟩
  | waiting overflowing interval =>
    have runLeft : left.station.lapse = _ := Station.lapse_waiting here
    have runRight : right.station.lapse = _ := Station.lapse_waiting there
    simp only [Session.apply, runLeft, runRight]
    obtain ⟨attempts, after, -⟩ := same.cycle numbers overflowing interval
    exact ⟨attempts, after⟩

theorem settle_absent {session : Session} (absent : session.worker = .absent) :
    session.settle = ([], session) := by
  have kept : session.station.settle = ([], session.station) :=
    Station.settle_still (congrArg Worker.relay? absent)
  simp only [Session.settle, kept]
  rfl

theorem Counterparts.settle (same : Counterparts first second left right)
    (numbers : Numbers first second) :
    left.settle.1 = right.settle.1 ∧ InStep first second left.settle.2 right.settle.2 := by
  have workers := same.worker
  generalize here : left.worker = one at workers
  generalize there : right.worker = other at workers
  cases workers with
  | absent =>
    rw [settle_absent here, settle_absent there]
    exact ⟨rfl, same, fun relaying => by simp [isRelaying, here, Worker.relay?] at relaying⟩
  | waiting overflowing interval =>
    have relaying : left.isRelaying = true := by simp [isRelaying, here, Worker.relay?]
    -- Where the signals differ, one relay wakes for nothing, and both signals end lowered.
    rcases same.rack.signals relaying with equal | empty
    · have runLeft : left.station.settle = _ := Station.settle_waiting here
      have runRight : right.station.settle = _ := Station.settle_waiting there
      have also : right.station.hub.signal = left.station.hub.signal := equal.symm
      rw [also] at runRight
      simp only [Session.settle, runLeft, runRight]
      split
      · obtain ⟨attempts, after, lowered⟩ := same.cycle numbers overflowing interval
        exact ⟨attempts, after, fun _ => lowered⟩
      · exact ⟨rfl, same, fun _ => equal⟩
    · have emptyRight : (right.rack.hub.mail.mailbox .midi).incomingLength = 0 := by
        rw [← same.rack.mail.mailbox_eq]
        exact empty
      have runLeft := left.station.settle_idle here (same.still_left numbers) empty
      have runRight := right.station.settle_idle there (same.still_right numbers) emptyRight
      simp only [Session.settle, runLeft, runRight, true_and]
      exact ⟨{ same with rack := { same.rack with signals := fun _ => .inl rfl } }, fun _ => rfl⟩

theorem counterparts_absent
    (rack : Rack.Counterparts first.rack second.rack False left.rack right.rack)
    (inboxes : Inboxes.Counterparts first.counts.inboxes second.counts.inboxes
      left.inboxes right.inboxes)
    (here : left.worker = .absent) (there : right.worker = .absent)
    (settings : left.settings = right.settings) (refusal : left.refusal = right.refusal) :
    Counterparts first second left right where
  rack := by
    refine { rack with signals := fun relaying => ?_ }
    simp [isRelaying, here, Worker.relay?] at relaying
  inboxes := inboxes
  worker := by
    rw [here, there]
    exact .absent
  settings := settings
  refusal := refusal

theorem clear_eq (session : Session) :
    session.station.clear.hub.mail = session.rack.hub.mail ∧
      session.station.clear.hub.clock = session.rack.hub.clock :=
  ⟨Station.mail_clear _, Station.clock_clear _⟩

theorem Counterparts.deactivate (same : Counterparts first second left right) :
    left.deactivate.1 = right.deactivate.1 ∧
      Counterparts first second left.deactivate.2 right.deactivate.2 := by
  -- The relay is gone before the drivers are, so from here on the signals do not matter.
  have stopped : Rack.Counterparts first.rack second.rack False
      { left.rack with hub := left.station.clear.hub }
      { right.rack with hub := right.station.clear.hub } := by
    refine ⟨same.rack.catalog, same.rack.forgetful, same.rack.mounts, ?_, ?_, ?_,
      same.rack.journal, False.elim⟩
    · simpa only [left.clear_eq.2, right.clear_eq.2] using same.rack.dummies
    · simpa only [Hub.time, left.clear_eq.2, right.clear_eq.2] using same.rack.times
    · simpa only [left.clear_eq.1, right.clear_eq.1] using same.rack.mail
  have paired := Rack.paired_counterparts first.rack second.rack False
  obtain ⟨answer, racks⟩ := Rack.Together.forBoth (fun rack role => rack.vacate role)
    (fun _ _ role => paired.vacate role) stopped
  rw [deactivate_fst, deactivate_fst, deactivate_snd, deactivate_snd, same.settings]
  refine ⟨answer, counterparts_absent ?_ same.inboxes rfl rfl rfl same.refusal⟩
  dsimp only
  split
  · exact paired.note _ _ _ racks
  · exact racks

/-- Two sessions at rest are as far as the activation of both with the same settings. -/
structure Ready (first second left right : Session) (settings : Settings) : Prop where
  atRest : left.settings = none ∧ right.settings = none
  absent : left.worker = .absent ∧ right.worker = .absent
  refusal : left.refusal = right.refusal
  rack : Rack.Counterparts first.rack second.rack True (left.prepared settings).rack
    (right.prepared settings).rack
  inboxes : Inboxes.Counterparts first.counts.inboxes second.counts.inboxes
    (left.prepared settings).inboxes (right.prepared settings).inboxes

theorem relayed_absent {session : Session} (absent : session.worker = .absent)
    (settings : Settings) :
    session.relayed settings = { session.note (.relayStarted settings.wakeInterval) with
      worker := .waiting ⟨session.rack.hub.time, false, settings.wakeInterval⟩ } := by
  have known : session.station.worker = .absent := absent
  simp only [relayed, Station.start, Station.clear, Station.stop, known]
  rfl

theorem Ready.activate {settings : Settings} (ready : Ready first second left right settings)
    (checked : settings.check = .ok ()) :
    (left.activate settings).1 = (right.activate settings).1 ∧
      Counterparts first second (left.activate settings).2 (right.activate settings).2 := by
  rw [activate_eq ready.atRest.1 checked, activate_eq ready.atRest.2 checked]
  have paired := Rack.paired_counterparts first.rack second.rack True
  rcases paired.bringUp ready.rack ready.refusal settings with
    ⟨fault, one, other, here, there, racks⟩ | ⟨one, other, here, there, racks⟩
  -- Both fail at the same driver or relay, and both take down what is up.
  · have failed : Counterparts first second
        (note { left.prepared settings with rack := one } (.sessionFailed fault))
        (note { right.prepared settings with rack := other } (.sessionFailed fault)) :=
      counterparts_absent ((paired.note _ _ _ racks).weaken False.elim) ready.inboxes
        ready.absent.1 ready.absent.2 (ready.atRest.1.trans ready.atRest.2.symm) ready.refusal
    rw [here, there]
    exact ⟨rfl, failed.deactivate.2⟩
  · have absent (session : Session) (rack : Rack) (known : session.worker = .absent) :
        worker { session.prepared settings with rack } = .absent := known
    rw [here, there, relayed_absent (absent left one ready.absent.1),
      relayed_absent (absent right other ready.absent.2)]
    refine ⟨rfl, ?_, ready.inboxes, ?_, rfl, ready.refusal⟩
    · exact (paired.note _ _ _ racks).weaken fun _ => trivial
    · dsimp only [note]
      rw [racks.times.1, racks.times.2]
      exact .waiting false settings.wakeInterval

theorem empty_prepared (session : Session) (settings : Settings) :
    ((session.prepared settings).rack.hub.mail.mailbox .midi).incomingLength = 0 := by
  have made : (session.prepared settings).rack.hub.mail.mailbox .midi =
      .make (settings.mailboxSize .midi) := by
    simp only [prepared, renewMail, Hub.renew, Mailboxes.mailbox_renew]
    rfl
  rw [made]
  exact (Mailbox.make_holds _).incomingLength_eq

theorem Counterparts.ready (same : Counterparts first second left right)
    (atRest : left.settings = none) (absent : left.worker = .absent) (settings : Settings) :
    Ready first second left right settings where
  atRest := ⟨atRest, same.settings.symm.trans atRest⟩
  absent := by
    have workers := same.worker
    rw [absent] at workers
    generalize right.worker = other at workers ⊢
    cases workers with
    | absent => exact ⟨absent, rfl⟩
  refusal := same.refusal
  rack := by
    have noted := same.paired.note _ _ (.activatingSession settings) same.rack
    have audio := same.paired.renew _ _ .audio (settings.mailboxSize .audio) noted
    have midi := same.paired.renew _ _ .midi (settings.mailboxSize .midi) audio
    exact { midi with signals := fun _ => .inr (left.empty_prepared settings) }
  inboxes := same.inboxes.renew settings.inboxSize

theorem Counterparts.activate (same : Counterparts first second left right)
    (phased : left.Phased) (settings : Settings) :
    (left.activate settings).1 = (right.activate settings).1 ∧
      Counterparts first second (left.activate settings).2 (right.activate settings).2 := by
  cases atRest : left.settings with
  | some _ =>
    have also : right.settings = some _ := same.settings.symm.trans atRest
    simp only [Session.activate, atRest, also, Option.isSome_some, if_true, true_and]
    exact same
  | none =>
    cases checked : settings.check with
    | ok _ => exact (same.ready atRest (phased.rest atRest).1 settings).activate checked
    | error cause =>
      have also : right.settings = none := same.settings.symm.trans atRest
      simp only [Session.activate, atRest, also, checked, Option.isSome_none,
        Bool.false_eq_true, if_false, true_and]
      exact same

theorem Counterparts.adjust (same : Counterparts first second left right)
    (phased : left.Phased) (settings : Settings) :
    (left.adjust settings).1 = (right.adjust settings).1 ∧
      Counterparts first second (left.adjust settings).2 (right.adjust settings).2 := by
  cases atRest : left.settings with
  | none =>
    rw [adjust_resting atRest, adjust_resting (same.settings.symm.trans atRest)]
    exact same.activate phased settings
  | some _ =>
    have also : right.settings = some _ := same.settings.symm.trans atRest
    simp only [Session.adjust, atRest, also, Option.isNone_some, Bool.false_eq_true, if_false]
    cases settings.check with
    | error cause => exact ⟨rfl, same⟩
    | ok _ =>
      obtain ⟨answer, racks⟩ := Rack.Together.forBoth (fun rack role => rack.adjust role settings)
        (fun _ _ role => same.paired.adjust role settings) same.rack
      exact ⟨answer, { same with rack := racks, settings := rfl }⟩

/-- What two sessions do alike in one step. -/
structure StepsAlike (first second : Session) (one other : Reply × List Attempt × Session) :
    Prop where
  reply : ∃ reply : Reply, one.1 = reply.after first.counts ∧ other.1 = reply.after second.counts
  attempts : one.2.1 = other.2.1
  after : Counterparts first second one.2.2 other.2.2

theorem stepsAlike_result {one other : Except Fault Unit × Session}
    (same : one.1 = other.1 ∧ Counterparts first second one.2 other.2) :
    StepsAlike first second (.result one.1, [], one.2) (.result other.1, [], other.2) where
  reply := ⟨.result one.1, rfl, congrArg Reply.result same.1.symm⟩
  attempts := rfl
  after := same.2

theorem Counterparts.perform (same : Counterparts first second left right)
    (lowered : left.isRelaying = true → left.rack.hub.signal = right.rack.hub.signal)
    {action : Hub.Action} (timeless : action.usesTime = false) :
    StepsAlike first second (left.apply (.perform (action.after first.counts.mail)))
      (right.apply (.perform (action.after second.counts.mail))) := by
  obtain ⟨answer, racks⟩ := same.rack.perform lowered timeless
  exact ⟨⟨.answer _, rfl, congrArg Reply.answer answer.symm⟩, rfl, same.withRacks racks⟩

theorem Counterparts.receive (same : Counterparts first second left right) (number : Nat) :
    StepsAlike first second (left.apply (.receive (first.counts.inboxes + number)))
      (right.apply (.receive (second.counts.inboxes + number))) := by
  have found := same.inboxes.channel number
  simp only [Session.apply]
  cases known : left.inboxes.channel? (first.counts.inboxes + number) with
  | none =>
    rw [known] at found
    rw [← found]
    exact ⟨⟨.received none, rfl, rfl⟩, rfl, same⟩
  | some channel =>
    rw [known] at found
    rw [← found]
    exact ⟨⟨.received channel.receive.1, rfl, rfl⟩, rfl,
      { same with inboxes := same.inboxes.setChannel known _ }⟩

theorem Counterparts.collect (same : Counterparts first second left right) :
    StepsAlike first second (left.apply .collect) (right.apply .collect) := by
  have current := same.inboxes.current_eq
  simp only [Session.apply, ← current]
  exact ⟨⟨.messages left.inboxes.current.messages, rfl, rfl⟩, rfl,
    { same with inboxes := same.inboxes.withCurrent _ }⟩

theorem Counterparts.subscribe (same : Counterparts first second left right) :
    StepsAlike first second (left.apply .subscribe) (right.apply .subscribe) := by
  obtain ⟨number, here, there⟩ := same.inboxes.generation
  have current := same.inboxes.current_eq
  simp only [Session.apply, here, there, ← current]
  exact ⟨⟨.receiver number, rfl, rfl⟩, rfl, { same with inboxes := same.inboxes.withCurrent _ }⟩

theorem InStep.apply (same : InStep first second left right) (numbers : Numbers first second)
    (phased : left.Phased) {command : Command} (timeless : command.usesTime = false) :
    StepsAlike first second (left.apply (command.after first.counts))
      (right.apply (command.after second.counts)) := by
  have plain := same.toCounterparts
  cases command with
  | activate settings => exact stepsAlike_result (plain.activate phased settings)
  | adjust settings => exact stepsAlike_result (plain.adjust phased settings)
  | deactivate => exact stepsAlike_result plain.deactivate
  | playbackStarted => exact stepsAlike_result (plain.passBoth .playbackStarted)
  | playbackStopped => exact stepsAlike_result (plain.passBoth .playbackStopped)
  | silence name => exact stepsAlike_result (plain.pass name .silence)
  | perform action => exact plain.perform same.lowered timeless
  | collect => exact plain.collect
  | subscribe => exact plain.subscribe
  | receive number => exact plain.receive number
  | lapse =>
    obtain ⟨attempts, after⟩ := plain.lapse numbers
    exact ⟨⟨.done, rfl, rfl⟩, attempts, after⟩
  | refuse refusal => exact ⟨⟨.done, rfl, rfl⟩, rfl, { plain with refusal := rfl }⟩

theorem StepsAlike.settle {one other : Reply × List Attempt × Session}
    (alike : StepsAlike first second one other) (numbers : Numbers first second) :
    one.2.1 ++ one.2.2.settle.1 = other.2.1 ++ other.2.2.settle.1 ∧
      InStep first second one.2.2.settle.2 other.2.2.settle.2 := by
  obtain ⟨later, after⟩ := alike.after.settle numbers
  exact ⟨by rw [alike.attempts, later], after⟩

end

/-- What is seen of a run: the reply to every operation, and what the relay tried to post. -/
def replies (session : Session) : List Command → List (Reply × List Attempt)
  | [] => []
  | command :: rest =>
    ((session.step command).1, (session.step command).2.1) ::
      (session.step command).2.2.replies rest

/-- The same operations have the same replies in two sessions, and leave them the same. -/
structure ActsLike (first second left right : Session) (commands : List Command) : Prop where
  replies : List.Forall₂
    (fun one other => (∃ reply : Reply, one.1 = reply.after first.counts ∧
      other.1 = reply.after second.counts) ∧ one.2 = other.2)
    (left.replies (commands.map (Command.after first.counts)))
    (right.replies (commands.map (Command.after second.counts)))
  ends : Counterparts first second (left.run (commands.map (Command.after first.counts)))
    (right.run (commands.map (Command.after second.counts)))

section

variable {first second left right : Session}

theorem StepsAlike.actsLike {command : Command} {rest : List Command}
    (alike : StepsAlike first second (left.apply (command.after first.counts))
      (right.apply (command.after second.counts)))
    (numbers : Numbers first second)
    (later : InStep first second (left.step (command.after first.counts)).2.2
        (right.step (command.after second.counts)).2.2 →
      ActsLike first second (left.step (command.after first.counts)).2.2
        (right.step (command.after second.counts)).2.2 rest) :
    ActsLike first second left right (command :: rest) := by
  obtain ⟨attempts, after⟩ := alike.settle numbers
  obtain ⟨replies, ends⟩ := later after
  exact ⟨.cons ⟨alike.reply, attempts⟩ replies, ends⟩

theorem InStep.actsLike (same : InStep first second left right) (numbers : Numbers first second)
    (phased : left.Phased) (commands : List Command)
    (timeless : ∀ command ∈ commands, command.usesTime = false) :
    ActsLike first second left right commands := by
  -- The relay settles after every command, which brings the signals in step for the next one.
  induction commands generalizing left right with
  | nil => exact ⟨.nil, same.toCounterparts⟩
  | cons command rest ih =>
    have alike := same.apply numbers phased (timeless command List.mem_cons_self)
    refine alike.actsLike numbers fun after => ih after ?_ ?_
    · exact (phased.move (.operate (command.after first.counts))).move .settle
    · exact fun later member => timeless later (List.mem_cons_of_mem command member)

theorem Phased.dummies {session : Session} (phased : session.Phased)
    (atRest : session.settings = none) :
    session.rack.hub.clock.dummies = .both true := by
  have vacant := (phased.rest atRest).2
  rw [phased.noted.now]
  ext role
  rw [Rack.mountedDummies_get, vacant, PerRole.get_both]
  rfl

theorem ready_of_rest (phased : first.Phased ∧ second.Phased)
    (atRest : first.settings = none ∧ second.settings = none)
    (catalog : first.rack.catalog = second.rack.catalog)
    (forgetful : first.rack.catalog.IsForgetful) (refusal : first.refusal = second.refusal)
    (settings : Settings) : Ready first second first second settings where
  atRest := atRest
  absent := ⟨(phased.1.rest atRest.1).1, (phased.2.rest atRest.2).1⟩
  refusal := refusal
  rack := by
    -- At rest no role is mounted, and of the mail only what is new counts.
    refine ⟨catalog, forgetful, ?_, ?_, ⟨rfl, rfl⟩, ?_, Journal.counterparts_refl _ _, ?_⟩
    · intro role
      have here : (first.prepared settings).rack.mounts.get role = none :=
        (phased.1.rest atRest.1).2 role
      have there : (second.prepared settings).rack.mounts.get role = none :=
        (phased.2.rest atRest.2).2 role
      rw [here, there]
      exact .none
    · exact (phased.1.dummies atRest.1).trans (phased.2.dummies atRest.2).symm
    · exact Mailboxes.counterparts_replaced _ _ _ _
    · exact fun _ => .inr (first.empty_prepared settings)
  inboxes := Inboxes.counterparts_renewed _ _ settings.inboxSize

theorem actsLike_of_rest (phased : first.Phased ∧ second.Phased)
    (atRest : first.settings = none ∧ second.settings = none)
    (catalog : first.rack.catalog = second.rack.catalog)
    (forgetful : first.rack.catalog.IsForgetful) (refusal : first.refusal = second.refusal)
    (numbers : Numbers first second) {settings : Settings} (checked : settings.check = .ok ())
    (commands : List Command) (timeless : ∀ command ∈ commands, command.usesTime = false) :
    ActsLike first second first second (.activate settings :: commands) := by
  have ready := ready_of_rest phased atRest catalog forgetful refusal settings
  have alike : StepsAlike first second (first.apply (.activate settings))
      (second.apply (.activate settings)) := stepsAlike_result (ready.activate checked)
  refine alike.actsLike numbers fun after => after.actsLike numbers ?_ commands timeless
  exact (phased.1.move (.operate (.activate settings))).move .settle

end

end Session

/-- What the application takes in one session was posted in that session. With forgetful devices a
session that is activated has the same replies as one that was never used before, and mail, mounts,
channels and calls of devices stay the same in both. -/
theorem sessions_start_afresh (catalog : Catalog) (moves : List Session.Move) :
    let past := (Session.ofCatalog catalog).moveAll moves
    (∀ number, Inboxes.among number ((Session.ofCatalog catalog).takings moves) <+:
      Inboxes.among number ((Session.ofCatalog catalog).postings moves)) ∧
    (catalog.IsForgetful → past.settings = none → past.rack.hub.time.isNaN = false →
      ∀ settings commands, settings.check = .ok () →
        (∀ command ∈ commands, Session.Command.usesTime command = false) →
        let fresh := { Session.ofCatalog catalog with refusal := past.refusal }
        Session.ActsLike past fresh past fresh (.activate settings :: commands)) := by
  intro past
  refine ⟨Session.takings_prefix catalog moves, ?_⟩
  intro forgetful atRest number settings commands checked timeless fresh
  have kept : past.rack.catalog = catalog := by
    refine Session.moveAll_keeps (fun session => session.rack.catalog = catalog) moves ?_ rfl
    have lasting := (Rack.steady_catalog catalog).lasting fun _ _ same => same
    exact fun session move _ same => lasting.move move (fun _ _ _ same => same) same
  have new := Session.phased_new catalog
  have unused : fresh.Phased := ⟨new.active, new.rest, new.noted⟩
  have zero : fresh.rack.hub.time.isNaN = false := by
    have isZero : (0 : Position).isNaN = false := by decide +kernel
    exact isZero
  exact Session.actsLike_of_rest ⟨Session.phased_moveAll catalog moves, unused⟩ ⟨atRest, rfl⟩
    kept (kept.symm ▸ forgetful) rfl ⟨Position.bne_self number, Position.bne_self zero⟩ checked
    commands timeless

/-- A driver whose devices cannot be released. -/
def Script.clinging : Script where
  label := "clinging"
  failures := [(.release, ⟨.failed "busy", none⟩)]

def Catalog.clinging : Catalog :=
  ({} : Catalog).add .midi "clinging" fun _ _ => Script.clinging.device

theorem Catalog.forgetful_clinging : Catalog.clinging.IsForgetful := by
  intro registration member
  obtain rfl := List.mem_singleton.mp member
  refine ⟨fun _ => Script.clinging.device, fun _ _ => ⟨rfl, ?_⟩⟩
  refine ⟨fun request => Script.clinging.outcome request.kind 0, ?_⟩
  intro journal target request
  cases request <;> rfl

/-- A session leaves an event and a position behind that nobody took, and its device fails to be
released. -/
def leavingMoves : List Session.Move :=
  [.operate (.activate { midiDriver := "clinging", inboxSize := 4 }),
    .operate (.perform (.report .audio 1)), .settle, .operate .subscribe,
    .operate (.perform (.deliver .midi 0 [0x90, 60, 1])), .operate .deactivate,
    .operate (.perform (.jump 2))]

/-- The next one has room for one message, and its first receiver takes it. -/
def enteringCommands : List Session.Command :=
  [.perform (.deliver .midi 0 [0x90, 61, 1]), .perform (.deliver .midi 0 [0x90, 62, 1]), .subscribe,
    .receive 0, .perform (.onMailboxes (.through ⟨.midi, 0⟩ .collect)), .deactivate]

theorem sessions_start_afresh_clinging :
    let past := (Session.ofCatalog .clinging).moveAll leavingMoves
    let fresh := { Session.ofCatalog .clinging with refusal := past.refusal }
    Catalog.clinging.IsForgetful ∧ past.settings = none ∧ past.rack.hub.time.isNaN = false ∧
      (∀ command ∈ enteringCommands, command.usesTime = false) ∧
      Session.ActsLike past fresh past fresh
        (.activate { midiDriver := "clinging", inboxSize := 1 } :: enteringCommands) := by
  intro past fresh
  have atRest : past.settings = none := by decide +kernel
  have number : past.rack.hub.time.isNaN = false := by decide +kernel
  have timeless : ∀ command ∈ enteringCommands, command.usesTime = false := by decide
  refine ⟨Catalog.forgetful_clinging, atRest, number, timeless, ?_⟩
  exact (sessions_start_afresh .clinging leavingMoves).2 Catalog.forgetful_clinging atRest number
    { midiDriver := "clinging", inboxSize := 1 } enteringCommands (by decide +kernel) timeless

end AudioHost
