import AudioHost.Proofs.HubActions
import AudioHost.Proofs.RoleNames

/-!
# The roles that events name

An event that a mailbox takes by the name of a role is kept with that role, never with an alias.
What is shown of events was kept before, so an alias can only come from an event that was handed in
with one.
-/

set_option autoImplicit false

namespace AudioHost

def Answer.event? : Answer → Option InputEvent
  | .event shown => shown
  | _ => .none

namespace Mailbox

theorem mem_inputs_apply (mailbox : Mailbox) (command : Command) {event : InputEvent}
    (waits : event ∈ (mailbox.apply command).2.inputs) :
    event ∈ mailbox.inputs ∨ command = .deliver event := by
  by_cases collects : command = .collect
  · left
    subst collects
    simp only [apply] at waits
    cases known : mailbox.collect? with
    | none => simpa [known] using waits
    | some taken =>
      obtain ⟨first, rest⟩ := taken
      rw [inputs_collect?_some known]
      exact List.mem_cons_of_mem first (by simpa [known] using waits)
  · rw [mailbox.inputs_apply command collects] at waits
    rcases List.mem_append.mp waits with before | offered
    · exact .inl before
    · simp only [Command.accepted] at offered
      split at offered
      · cases command with
        | deliver => exact .inr (congrArg Command.deliver (List.mem_singleton.mp offered).symm)
        | send | fetch | collect | describe => cases offered
      · cases offered

theorem mem_inputs_of_answer (mailbox : Mailbox) (command : Command) {event : InputEvent}
    (shown : (mailbox.apply command).1.event? = some event) : event ∈ mailbox.inputs := by
  cases command with
  | collect =>
    simp only [apply] at shown
    cases known : mailbox.collect? with
    | none => simp [known, Answer.event?] at shown
    | some taken =>
      obtain ⟨first, rest⟩ := taken
      obtain rfl : first = event := by simpa [known, Answer.event?] using shown
      rw [inputs_collect?_some known]
      exact List.mem_cons_self
  | fetch position =>
    simp only [apply] at shown
    split at shown <;> cases shown
  | send | deliver | describe => cases shown

end Mailbox

namespace Mailboxes

def Sight.event? : Sight → Option InputEvent
  | .inside (.answer answer) => answer.event?
  | _ => none

theorem mem_waiting_use (mail : Mailboxes) (use : Use) {handle : Handle} {event : InputEvent}
    (waits : event ∈ (mail.use use).2.waiting handle) :
    event ∈ mail.waiting handle ∨
      mail.aim? use = some (handle, .command (.deliver event)) := by
  cases mail.effect use with
  | aimed place there aims effect =>
    rw [aims]
    simp only [waiting, effect.held] at waits
    split at waits
    next here =>
      subst here
      cases present : mail.held? handle with
      | none => simp [present] at waits
      | some mailbox =>
        simp only [present, Option.map_some, Option.getD_some] at waits
        simp only [waiting, present, Option.map_some, Option.getD_some]
        cases there with
        | command command =>
          refine (mailbox.mem_inputs_apply command waits).imp_right fun delivers => ?_
          rw [delivers]
        | outgoingLength => exact .inl waits
        | incomingLength => exact .inl waits
    next => exact .inl waits
  | replaced role mailbox aimless replaces effect =>
    -- Nothing waits yet in the mailbox that comes in force.
    obtain ⟨size, rfl⟩ := made_of_replacement replaces
    rw [effect, replace, waiting_replace mail role (Mailbox.inputs_make size)] at waits
    exact .inl waits
  | idle aimless keeps effect =>
    rw [effect] at waits
    exact .inl waits

theorem mem_waiting_of_sight (mail : Mailboxes) (use : Use) {event : InputEvent}
    (shown : (mail.use use).1.event? = some event) : ∃ handle, event ∈ mail.waiting handle := by
  cases mail.effect use with
  | aimed handle there aims effect =>
    rw [effect.sight] at shown
    cases present : mail.held? handle with
    | none => simp [present, nothing, Sight.event?, Answer.event?] at shown
    | some mailbox =>
      simp only [present, Option.map_some, Option.getD_some] at shown
      cases there with
      | command command =>
        refine ⟨handle, ?_⟩
        simp only [waiting, present, Option.map_some, Option.getD_some]
        exact mailbox.mem_inputs_of_answer command shown
      | outgoingLength | incomingLength => cases shown
  | replaced role mailbox aimless replaces effect =>
    rw [effect] at shown
    cases shown
  | idle aimless keeps effect =>
    rw [effect] at shown
    cases use <;> cases shown

/-- An event that is put in a mailbox as it is. -/
def Command.handsIn? : Command → Option InputEvent
  | .through _ (.deliver event) => some event
  | _ => none

theorem delivered {mail : Mailboxes} {command : Command} {handle : Handle} {event : InputEvent}
    (aims : mail.aim? (.command command) = some (handle, .command (.deliver event))) :
    (∃ role : Role, event.role = role.name) ∨ command.handsIn? = some event := by
  cases command with
  | deliver name port buffer =>
    obtain ⟨data, -, same⟩ := Option.map_eq_some_iff.mp aims
    cases same
    exact .inl ⟨name.role, rfl⟩
  | send name port buffer =>
    obtain ⟨message, -, same⟩ := Option.map_eq_some_iff.mp aims
    cases same
  | through => cases aims; exact .inr rfl
  | renew | clear | fetch | collect => cases aims

/-- All events that wait, in whatever mailbox. -/
def Within (proper : InputEvent → Prop) (mail : Mailboxes) : Prop :=
  ∀ handle, ∀ event ∈ mail.waiting handle, proper event

section

variable {proper : InputEvent → Prop} {mail : Mailboxes}

theorem Within.apply (within : mail.Within proper)
    (roles : ∀ event (role : Role), event.role = role.name → proper event) (command : Command)
    (admissible : ∀ event ∈ command.handsIn?, proper event) :
    (mail.apply command).2.Within proper := by
  intro handle event waits
  rcases mail.mem_waiting_use (.command command) waits with before | aims
  · exact within handle event before
  · rcases delivered aims with ⟨role, named⟩ | handed
    · exact roles event role named
    · exact admissible event handed

theorem Within.use (within : mail.Within proper)
    (roles : ∀ event (role : Role), event.role = role.name → proper event) (use : Use)
    (admissible : ∀ command, use = .command command → ∀ event ∈ command.handsIn?, proper event) :
    (∀ event ∈ (mail.use use).1.event?, proper event) ∧ (mail.use use).2.Within proper := by
  refine ⟨?_, ?_⟩
  · intro event shown
    obtain ⟨handle, waits⟩ := mail.mem_waiting_of_sight use shown
    exact within handle event waits
  · cases use with
    | command command => exact within.apply roles command (admissible command rfl)
    | hold => exact within
    | outgoingLength | incomingLength =>
      simp only [Mailboxes.use]
      split <;> exact within

theorem Within.collectAll (within : mail.Within proper) (name : RoleName) :
    (mail.collectAll name).2.Within proper := by
  intro handle event waits
  rw [(mail.waiting_collectAll name).2] at waits
  split at waits
  · cases waits
  · exact within handle event waits

end

end Mailboxes

def Hub.Action.handsIn? (action : Action) : Option InputEvent :=
  action.onMail?.bind Mailboxes.Command.handsIn?

/-- Nothing improper is handed in. -/
def Hub.Action.Admissible (proper : InputEvent → Prop) (action : Action) : Prop :=
  ∀ event ∈ action.handsIn?, proper event

def Journal.Admissible (proper : InputEvent → Prop) (journal : Journal) : Prop :=
  ∀ action ∈ journal.actions, action.Admissible proper

def Record.answers : Record → List Answer
  | .made .. => []
  | .called call => call.exchanges.map Exchange.answer

/-- What devices were shown. -/
def Journal.answers (journal : Journal) : List Answer := journal.toList.flatMap Record.answers

theorem Journal.mem_answers_push {journal : Journal} {record : Record} {answer : Answer} :
    answer ∈ answers (journal.push record) ↔
      answer ∈ journal.answers ∨ answer ∈ record.answers := by
  simp [answers]

namespace Hub

variable {proper : InputEvent → Prop} {hub : Hub}

theorem kept_within (roles : ∀ event (role : Role), event.role = role.name → proper event) :
    Kept (Action.Admissible proper) fun hub => hub.mail.Within proper where
  perform hub action admissible within := by
    rw [mail_perform]
    cases known : action.onMail? with
    | none => exact within
    | some command =>
      refine within.apply roles command fun event handed => admissible event ?_
      rw [Action.handsIn?, known]
      exact handed
  note _ _ within := within
  markDummy _ _ _ within := within

theorem proper_of_answer (within : hub.mail.Within proper) (action : Action) {event : InputEvent}
    (shown : (hub.perform action).1.event? = some event) : proper event := by
  cases action with
  | onMailboxes command =>
    have same : (hub.perform (.onMailboxes command)).1 = (hub.mail.apply command).1 := by
      cases command <;> rfl
    rw [same] at shown
    obtain ⟨handle, waits⟩ := hub.mail.mem_waiting_of_sight (.command command) shown
    exact within handle event waits
  | report | jump | time | deliver | describe => cases shown

theorem proper_of_exchange (roles : ∀ event (role : Role), event.role = role.name → proper event)
    (conduct : Conduct) (within : hub.mail.Within proper)
    (admissible : ∀ exchange ∈ (conduct.run hub).1, exchange.action.Admissible proper) :
    ∀ exchange ∈ (conduct.run hub).1, ∀ event ∈ exchange.answer.event?, proper event := by
  -- What waits stays proper from one action to the next, and answers show what waits.
  induction conduct generalizing hub with
  | finish outcome => simp [Conduct.run]
  | act action next ih =>
    have first := admissible _ List.mem_cons_self
    have after := (kept_within roles).perform hub action first within
    intro exchange member
    rcases List.mem_cons.mp member with rfl | later
    · exact fun event shown => proper_of_answer within action shown
    · exact ih _ after (fun other taken => admissible other (List.mem_cons_of_mem _ taken))
        exchange later

end Hub

namespace Rack

variable {proper : InputEvent → Prop}

/-- All that waits and all that devices were shown, as long as devices hand in nothing improper. -/
def Keeps (proper : InputEvent → Prop) (rack : Rack) : Prop :=
  rack.journal.Admissible proper → rack.hub.mail.Within proper ∧
    ∀ answer ∈ rack.journal.answers, ∀ event ∈ answer.event?, proper event

theorem lasting_keeps (roles : ∀ event (role : Role), event.role = role.name → proper event) :
    Lasting (Keeps proper) := by
  have kept := Hub.kept_within roles
  have acted (rack : Rack) (command : Mailboxes.Command) (plain : command.handsIn? = none)
      (keeps : rack.Keeps proper) :
      Keeps proper { rack with hub := (rack.hub.perform (.onMailboxes command)).2 } := by
    intro admissible
    obtain ⟨within, shown⟩ := keeps admissible
    refine ⟨kept.perform rack.hub (.onMailboxes command) ?_ within, shown⟩
    intro event handed
    simp [Hub.Action.handsIn?, Hub.Action.onMail?, plain] at handed
  refine { note := ?_, make := ?_, call := ?_, mount := ?_, dismount := ?_, clear := ?_,
           renew := ?_, collect := ?_, sameMail := ?_ }
  · exact fun _ _ keeps => keeps
  · intro rack registration role keeps admissible
    have before : rack.journal.Admissible proper := fun action taken =>
      admissible action (Journal.mem_actions_push.mpr (.inl taken))
    obtain ⟨within, shown⟩ := keeps before
    refine ⟨within, fun answer listed => ?_⟩
    rcases Journal.mem_answers_push.mp listed with old | new
    · exact shown answer old
    · cases new
  · intro rack role backend request keeps
    -- Only a call adds actions and answers, those of one device.
    cases backend with
    | dummy => cases request <;> exact keeps
    | external target device =>
      intro admissible
      have before : rack.journal.Admissible proper := fun action taken =>
        admissible action (Journal.mem_actions_push.mpr (.inl taken))
      obtain ⟨within, shown⟩ := keeps before
      have taken : ∀ exchange ∈ ((device.respond rack.journal target request).run rack.hub).1,
          exchange.action.Admissible proper := fun exchange member =>
        admissible _ (Journal.mem_actions_push.mpr (.inr (List.mem_map_of_mem member)))
      refine ⟨kept.conduct _ rack.hub taken within, fun answer listed => ?_⟩
      rcases Journal.mem_answers_push.mp listed with old | new
      · exact shown answer old
      · obtain ⟨exchange, member, rfl⟩ := List.mem_map.mp new
        exact Hub.proper_of_exchange roles _ within taken exchange member
  · exact fun _ _ _ _ keeps => keeps
  · exact fun _ _ keeps => keeps
  · exact fun rack name keeps => acted rack (.clear name) rfl keeps
  · exact fun rack name capacity keeps => acted rack (.renew name capacity) rfl keeps
  · exact fun rack keeps admissible =>
      (keeps admissible).imp_left fun within => within.collectAll .midi
  · exact fun rack hub same keeps admissible =>
      (keeps admissible).imp_left fun within => same ▸ within

theorem Keeps.perform {rack : Rack} (keeps : rack.Keeps proper)
    (roles : ∀ event (role : Role), event.role = role.name → proper event) {action : Hub.Action}
    (admissible : action.Admissible proper) :
    Keeps proper { rack with hub := (rack.hub.perform action).2 } := fun devices =>
  (keeps devices).imp_left ((Hub.kept_within roles).perform rack.hub action admissible)

theorem steady_taken (action : Hub.Action) : Steady fun rack => action ∈ rack.journal.actions where
  note _ _ taken := taken
  make _ _ _ taken := Journal.mem_actions_push.mpr (.inl taken)
  call rack role backend request taken := by
    cases backend with
    | dummy => cases request <;> exact taken
    | external => exact Journal.mem_actions_push.mpr (.inl taken)
  mount _ _ _ _ taken := taken
  dismount _ _ taken := taken

def Use.action? : Use → Option Hub.Action
  | .command operation => operation.action?
  | .backend _ | .driver _ | .isMounted _ => none

def Sight.events : Sight → List InputEvent
  | .reply (.answer answer) => answer.event?.toList
  | _ => []

/-- What is done to the hub in a run, by whomever. -/
def actions (rack : Rack) (uses : List Use) : List Hub.Action :=
  uses.filterMap Use.action? ++ (Step.run Rack.use rack uses).2.journal.actions

theorem admissible_before (rack : Rack) (use : Use)
    (admissible : (rack.use use).2.journal.Admissible proper) :
    rack.journal.Admissible proper := by
  intro action taken
  refine admissible action ?_
  cases use with
  | command command =>
    exact ((steady_taken action).lasting fun _ _ taken => taken).apply command
      (fun _ _ _ taken => taken) taken
  | backend | driver | isMounted => exact taken

theorem Keeps.use {rack : Rack} (keeps : rack.Keeps proper)
    (roles : ∀ event (role : Role), event.role = role.name → proper event) (use : Use)
    (admissible : ∀ action ∈ use.action?, action.Admissible proper) :
    (rack.use use).2.Keeps proper := by
  cases use with
  | command command =>
    exact (lasting_keeps roles).apply command
      (fun action taken _ keeps => keeps.perform roles (admissible action taken)) keeps
  | backend | driver | isMounted => exact keeps

theorem Keeps.events {rack : Rack} (keeps : rack.Keeps proper)
    (admissible : rack.journal.Admissible proper) (use : Use) :
    ∀ event ∈ (rack.use use).1.events, proper event := by
  intro event shown
  cases use with
  | command command =>
    cases command with
    | perform action =>
      exact Hub.proper_of_answer (keeps admissible).1 action (Option.mem_toList.mp shown)
    | waitSignal => cases shown
    | engage | adjust | vacate | playbackStarted | playbackStopped | silence => cases shown
  | backend | driver | isMounted => cases shown

end Rack

end AudioHost
