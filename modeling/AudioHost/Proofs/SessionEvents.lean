import AudioHost.Proofs.EventRoles
import AudioHost.Proofs.SessionChannels

/-!
# The events of a session

Events go from the mail of a session to its channels and from there to the application, and none
comes from anywhere else.
-/

set_option autoImplicit false

namespace AudioHost

def Bulletin.event? : Bulletin → Option InputEvent
  | .input event => some event
  | .position _ => none

def Bulletin.events (messages : List Bulletin) : List InputEvent :=
  messages.filterMap Bulletin.event?

def Attempt.events (attempts : List Attempt) : List InputEvent :=
  Bulletin.events (attempts.map Attempt.message)

theorem Bulletin.mem_events {messages : List Bulletin} {event : InputEvent} :
    event ∈ events messages ↔ .input event ∈ messages := by
  simp only [events, List.mem_filterMap]
  constructor
  · rintro ⟨message, listed, same⟩
    cases message with
    | input other =>
      cases same
      exact listed
    | position => cases same
  · exact fun listed => ⟨.input event, listed, rfl⟩

theorem Relay.events_messages (relay : Relay) (events : List InputEvent) (time : Position) :
    Bulletin.events (relay.messages events time) = events := by
  have still : (if time != relay.toldTime then [Bulletin.position time] else []).filterMap
      Bulletin.event? = [] := by
    split <;> rfl
  rw [Bulletin.events, messages, List.filterMap_append, still, List.append_nil, List.filterMap_map]
  exact List.filterMap_some

/-- A cycle tries to post just the events that it takes out of the mail. -/
theorem Station.events_cycle (station : Station) (relay : Relay) :
    Attempt.events (station.cycle relay).1 = (station.hub.mail.collectAll .midi).1 := by
  have told : (station.cycle relay).1.map Attempt.message =
      relay.messages (station.hub.mail.collectAll .midi).1 station.hub.time :=
    station.channel.map_message_postAll _
  rw [Attempt.events, told, relay.events_messages]

theorem Station.Runs.events {station : Station} {result : List Attempt × Station}
    (runs : station.Runs result) {event : InputEvent} (tried : event ∈ Attempt.events result.1) :
    event ∈ station.hub.mail.waiting (station.hub.mail.hold .midi) := by
  cases runs with
  | still => cases tried
  | cycle relay waiting =>
    rw [← (station.hub.mail.waiting_collectAll .midi).1, ← station.events_cycle relay]
    exact tried

namespace Inboxes

theorem Trades.mem_waiting {inboxes after : Inboxes} {posted taken : List (Nat × Bulletin)}
    {number : Nat} {message : Bulletin} (trades : inboxes.Trades posted taken after)
    (waits : message ∈ after.waiting number) :
    message ∈ inboxes.waiting number ∨ (number, message) ∈ posted := by
  cases trades with
  | kept => exact .inl waits
  | renewed capacity =>
    left
    rw [waiting_renew] at waits
    split at waits
    · cases waits
    split at waits
    next last =>
      -- A channel that is closed may lose what waits and gets nothing.
      obtain ⟨dropped, messages⟩ := inboxes.current.closeSender.messages_closeReceiver
      have before : message ∈ inboxes.current.closeSender.messages := by
        rw [← messages]
        exact List.mem_append_left _ waits
      rw [last, waiting_generation]
      exact before
    next => exact waits
  | traded place before after newly out present balance latest =>
    rw [waiting_setChannel present] at waits
    split at waits
    next here =>
      subst here
      have listed : message ∈ before.messages ++ newly := by
        rw [← balance]
        exact List.mem_append_right _ waits
      rcases List.mem_append.mp listed with old | new
      · exact .inl (by simpa [waiting, present] using old)
      · exact .inr (List.mem_map_of_mem new)
    next => exact .inl waits

/-- All events that wait in a channel. -/
def Within (proper : InputEvent → Prop) (inboxes : Inboxes) : Prop :=
  ∀ number, ∀ event ∈ Bulletin.events (inboxes.waiting number), proper event

end Inboxes

namespace Session

def Reply.events : Reply → List InputEvent
  | .answer given => given.event?.toList
  | .messages all => Bulletin.events all
  | .received first => Bulletin.events first.toList
  | .done | .result _ | .receiver _ => []

def Sight.events : Sight → List InputEvent
  | .reply answer attempts => answer.events ++ Attempt.events attempts
  | .settled attempts => Attempt.events attempts
  | .backend .. | .driver _ => []

def Use.move? : Use → Option Move
  | .operate command => some (.operate command)
  | .settle => some .settle
  | .backend _ | .driver _ => none

/-- What is done to the hub in a run, by whomever. -/
def actionsOf (session : Session) (uses : List Use) : List Hub.Action :=
  (uses.filterMap Use.move?).filterMap Move.action? ++
    (Step.run Session.use session uses).2.rack.journal.actions

section

variable {proper : InputEvent → Prop} {session : Session}

/-- All events in mail and channels and all that devices were shown, as long as devices hand in
nothing improper. -/
structure Keeps (proper : InputEvent → Prop) (session : Session) : Prop where
  rack : session.rack.Keeps proper
  inboxes : session.rack.journal.Admissible proper → session.inboxes.Within proper

theorem taken_move {session : Session} {action : Hub.Action}
    (taken : action ∈ session.rack.journal.actions) (move : Move) :
    action ∈ (session.move move).2.rack.journal.actions :=
  ((Rack.steady_taken action).lasting fun _ _ taken => taken).move move
    (fun _ _ _ taken => taken) taken

theorem admissible_before (session : Session) (move : Move)
    (admissible : (session.move move).2.rack.journal.Admissible proper) :
    session.rack.journal.Admissible proper :=
  fun action taken => admissible action (taken_move taken move)

theorem admissible_before_use (session : Session) (use : Use)
    (admissible : (session.use use).2.rack.journal.Admissible proper) :
    session.rack.journal.Admissible proper := by
  cases use with
  | operate command => exact session.admissible_before (.operate command) admissible
  | settle => exact session.admissible_before .settle admissible
  | backend | driver => exact admissible

theorem events_of_attempts (session : Session) (move : Move) {event : InputEvent}
    (tried : event ∈ Attempt.events (session.move move).1) :
    ∃ handle, event ∈ session.rack.hub.mail.waiting handle := by
  cases move with
  | settle => exact ⟨_, session.station.runs_settle.events tried⟩
  | operate command =>
    cases command with
    | lapse => exact ⟨_, session.station.runs_lapse.events tried⟩
    | receive number =>
      simp only [Session.move, apply] at tried
      split at tried <;> cases tried
    | activate | adjust | deactivate | playbackStarted | playbackStopped | silence | perform
    | collect | subscribe | refuse => cases tried

theorem Keeps.move (keeps : session.Keeps proper)
    (roles : ∀ event (role : Role), event.role = role.name → proper event) (move : Move)
    (admissible : ∀ action ∈ move.action?, action.Admissible proper) :
    (session.move move).2.Keeps proper where
  rack := (Rack.lasting_keeps roles).move move
    (fun action taken _ keeps => keeps.perform roles (admissible action taken)) keeps.rack
  inboxes := by
    -- A channel gets what the relay collects, and that has waited in the mail.
    intro devices number event waits
    have before := session.admissible_before move devices
    rcases (session.trades move).mem_waiting (Bulletin.mem_events.mp waits) with old | new
    · exact keeps.inboxes before number event (Bulletin.mem_events.mpr old)
    · obtain ⟨message, delivered, same⟩ := List.mem_map.mp new
      cases same
      obtain ⟨attempt, tried, told⟩ := List.mem_map.mp delivered
      have listed : event ∈ Attempt.events (session.move move).1 :=
        Bulletin.mem_events.mpr (List.mem_map.mpr ⟨attempt, (List.mem_filter.mp tried).1, told⟩)
      obtain ⟨handle, waited⟩ := session.events_of_attempts move listed
      exact (keeps.rack before).1 handle event waited

theorem Keeps.reply (keeps : session.Keeps proper)
    (admissible : session.rack.journal.Admissible proper) (command : Command) :
    ∀ event ∈ (session.apply command).1.events, proper event := by
  intro event shown
  have waits := keeps.inboxes admissible
  cases command with
  | perform action =>
    exact Hub.proper_of_answer (keeps.rack admissible).1 action (Option.mem_toList.mp shown)
  | collect =>
    refine waits session.inboxes.generation event ?_
    rw [session.inboxes.waiting_generation]
    exact shown
  | receive number =>
    simp only [apply] at shown
    cases known : session.inboxes.channel? number with
    | none =>
      rw [known] at shown
      cases shown
    | some channel =>
      simp only [known, Channel.receive] at shown
      refine waits number event (Bulletin.mem_events.mpr ?_)
      cases messages : channel.messages with
      | nil =>
        rw [messages] at shown
        cases shown
      | cons message rest =>
        rw [messages] at shown
        have first := Bulletin.mem_events.mp shown
        simp only [Option.toList_some, List.mem_singleton] at first
        simp [Inboxes.waiting, known, messages, first]
  | activate | adjust | deactivate | playbackStarted | playbackStopped | silence | subscribe
  | lapse | refuse => cases shown

theorem Keeps.use (keeps : session.Keeps proper)
    (roles : ∀ event (role : Role), event.role = role.name → proper event) (use : Use)
    (admissible : ∀ move ∈ use.move?, ∀ action ∈ move.action?, action.Admissible proper)
    (devices : (session.use use).2.rack.journal.Admissible proper) :
    (∀ event ∈ (session.use use).1.events, proper event) ∧ (session.use use).2.Keeps proper := by
  have tried (move : Move) (before : session.rack.journal.Admissible proper) :
      ∀ event ∈ Attempt.events (session.move move).1, proper event := by
    intro event shown
    obtain ⟨handle, waited⟩ := session.events_of_attempts move shown
    exact (keeps.rack before).1 handle event waited
  cases use with
  | operate command =>
    have before := session.admissible_before (.operate command) devices
    refine ⟨?_, keeps.move roles (.operate command) (admissible _ rfl)⟩
    intro event shown
    rcases List.mem_append.mp shown with replied | attempted
    · exact keeps.reply before command event replied
    · exact tried (.operate command) before event attempted
  | settle =>
    have before := session.admissible_before .settle devices
    exact ⟨tried .settle before, keeps.move roles .settle (admissible _ rfl)⟩
  | backend => exact ⟨by simp [Session.use, Sight.events], keeps⟩
  | driver => exact ⟨by simp [Session.use, Sight.events], keeps⟩

end

end Session

end AudioHost
