import AudioHost.Proofs.Postings
import AudioHost.Proofs.WaitingEvents
import AudioHost.Relay.Station

/-!
# The steps of a station

A step of a station is an operation and after it at most one cycle of the relay, so what the two of
them do can be told apart.
-/

set_option autoImplicit false

namespace AudioHost.Station

variable {station : Station} {command : Command}

/-- The station as an operation leaves it, before the relay may run. -/
def before (station : Station) : Command → Station
  | .lapse => station
  | command => (station.apply command).2.2

/-- The relay that runs in a step: its time is up, or the signal is raised while it waits. -/
def woken? (station : Station) (command : Command) : Option Relay :=
  if command = .lapse ∨ (station.before command).hub.signal.raised then
    (station.before command).worker.relay?
  else none

theorem settle_cycle (station : Station) (relay : Relay) :
    (station.cycle relay).2.settle = ([], (station.cycle relay).2) := rfl

theorem waiting_of_relay? {worker : Worker} {relay : Relay} (known : worker.relay? = some relay) :
    worker = .waiting relay := by
  cases worker with
  | waiting other => exact congrArg Worker.waiting (Option.some.inj known)
  | absent => cases known
  | stopped => cases known

theorem waiting_of_woken {relay : Relay} (woken : station.woken? command = some relay) :
    (station.before command).worker = .waiting relay := by
  simp only [woken?] at woken
  split at woken
  · exact waiting_of_relay? woken
  · cases woken

theorem settle_waiting {relay : Relay} (waiting : station.worker = .waiting relay) :
    station.settle = if station.hub.signal.raised then station.cycle relay else ([], station) := by
  simp only [settle, waiting]

theorem settle_still (still : station.worker.relay? = none) : station.settle = ([], station) := by
  simp only [settle]
  split
  next waiting => simp [waiting, Worker.relay?] at still
  next => rfl

theorem lapse_waiting {relay : Relay} (waiting : station.worker = .waiting relay) :
    station.lapse = station.cycle relay := by
  simp only [lapse, waiting]

theorem lapse_still (still : station.worker.relay? = none) : station.lapse = ([], station) := by
  simp only [lapse]
  split
  next waiting => simp [waiting, Worker.relay?] at still
  next => rfl

theorem step_before (ordinary : command ≠ .lapse) :
    station.step command = ((station.apply command).1, (station.before command).settle) := by
  cases command with
  | lapse => exact absurd rfl ordinary
  | _ => rfl

theorem step_asleep (asleep : station.woken? command = none) :
    station.step command = ((station.apply command).1, [], station.before command) := by
  by_cases lapses : command = .lapse
  · subst lapses
    have still : station.worker.relay? = none := by simpa [woken?, before] using asleep
    simp only [step, apply, lapse_still still, settle_still still, before, List.append_nil]
  · rw [step_before lapses]
    cases known : (station.before command).worker.relay? with
    | none => rw [settle_still known]
    | some relay =>
      have down : (station.before command).hub.signal.raised = false := by
        simpa [woken?, lapses, known] using asleep
      rw [settle_waiting (waiting_of_relay? known), down]
      rfl

theorem step_woken {relay : Relay} (woken : station.woken? command = some relay) :
    station.step command = ((station.apply command).1, (station.before command).cycle relay) := by
  by_cases lapses : command = .lapse
  · subst lapses
    have waiting : station.worker.relay? = some relay := by simpa [woken?, before] using woken
    have ran := lapse_waiting (waiting_of_relay? waiting)
    -- The cycle has lowered the signal, so nothing calls for another one.
    simp only [step, apply, ran, settle_cycle, before, List.append_nil]
  · rw [step_before lapses]
    have raised : (station.before command).hub.signal.raised ∧
        (station.before command).worker.relay? = some relay := by
      simpa [woken?, lapses] using woken
    rw [settle_waiting (waiting_of_relay? raised.2), raised.1]
    rfl

/-- A relay that waits has not been called. -/
def Settled (station : Station) : Prop :=
  station.worker.relay?.isSome → station.hub.signal.raised = false

theorem settled_step (station : Station) (command : Command) :
    (station.step command).2.2.Settled := by
  cases woken : station.woken? command with
  | none =>
    rw [step_asleep woken]
    intro waiting
    -- A raised signal would have woken the relay that waits.
    by_contra up
    have raised : (station.before command).hub.signal.raised = true := by simpa using up
    have none : (station.before command).worker.relay? = none := by
      simpa [woken?, raised] using woken
    simp [none] at waiting
  | some relay =>
    rw [step_woken woken]
    exact fun _ => rfl

theorem settled_run (settled : station.Settled) (commands : List Command) :
    (station.run commands).Settled := by
  induction commands generalizing station with
  | nil => exact settled
  | cons command rest ih => exact ih (station.settled_step command)

@[simp] theorem channel_stop (station : Station) : station.stop.channel = station.channel := by
  simp only [stop]
  split <;> rfl

theorem worker_stop (station : Station) (relay : Relay) : station.stop.worker ≠ .waiting relay := by
  simp only [stop]
  split
  next => simp
  next other => exact fun waiting => other relay waiting

@[simp] theorem channel_clear (station : Station) : station.clear.channel = station.channel :=
  station.channel_stop

@[simp] theorem time_clear (station : Station) : station.clear.hub.time = station.hub.time := by
  simp only [clear, stop]
  split <;> rfl

theorem receivers_cycle (station : Station) (relay : Relay) :
    (station.cycle relay).2.channel.receivers = station.channel.receivers :=
  station.channel.receivers_postAll _

theorem listening_before (listening : 0 < (station.before command).channel.receivers) :
    0 < station.channel.receivers := by
  cases command with
  | start => simpa [before, apply, start] using listening
  | stop => simpa [before, apply] using listening
  | clear => simpa [before, apply] using listening
  | receive =>
    simp only [before, apply, Channel.receive] at listening
    split at listening <;> exact listening
  | openReceiver =>
    simp only [before, apply, Channel.openReceiver] at listening
    split at listening
    · exact listening
    next some => exact Nat.pos_of_ne_zero some
  | closeReceiver =>
    simp only [before, apply, Channel.closeReceiver] at listening
    split at listening
    · cases listening
    · exact Nat.lt_of_lt_of_le listening (Nat.sub_le _ 1)
  | _ => exact listening

theorem listening_step (listening : 0 < (station.step command).2.2.channel.receivers) :
    0 < (station.before command).channel.receivers := by
  cases woken : station.woken? command with
  | none =>
    rw [step_asleep woken] at listening
    exact listening
  | some relay =>
    rw [step_woken woken] at listening
    exact (receivers_cycle _ relay) ▸ listening

theorem listening_run {commands : List Command}
    (listening : 0 < (station.run commands).channel.receivers) : 0 < station.channel.receivers := by
  induction commands generalizing station with
  | nil => exact listening
  | cons command rest ih => exact listening_before (listening_step (ih listening))

def Reply.taken : Reply → List Bulletin
  | .received message => message.toList
  | .messages all => all
  | .done | .answer _ => []

def Command.CollectsFrom (role : Role) : Command → Prop
  | .onMailboxes command => command.CollectsFrom role
  | _ => False

def accepted (station : Station) : Command → List (Handle × InputEvent)
  | .onMailboxes command => station.hub.mail.accepted command
  | _ => []

@[simp] theorem mail_stop (station : Station) : station.stop.hub.mail = station.hub.mail := by
  simp only [stop]
  split <;> rfl

@[simp] theorem mail_clear (station : Station) : station.clear.hub.mail = station.hub.mail :=
  station.mail_stop

theorem waiting_before {mailbox : Handle} (leaves : ¬ command.CollectsFrom mailbox.role) :
    (station.before command).hub.mail.waiting mailbox =
      station.hub.mail.waiting mailbox ++ mailbox.select (station.accepted command) := by
  have quiet : mailbox.select [] = [] := rfl
  cases command with
  | onMailboxes command =>
    -- A renewal is carried out by the hub, which writes it to the log; the mail is the same.
    have operated := station.hub.mail.waiting_apply command mailbox leaves
    cases command <;> exact operated
  | report source time =>
    simp only [before, apply, Hub.report, accepted, quiet, List.append_nil]
    split <;> rfl
  | start interval => simp [before, apply, start, accepted, quiet, Hub.note]
  | stop => simp [before, apply, accepted, quiet]
  | clear => simp [before, apply, accepted, quiet]
  | _ => exact (List.append_nil _).symm

end AudioHost.Station
