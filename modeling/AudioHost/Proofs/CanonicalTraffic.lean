import AudioHost.Driver.Script
import AudioHost.Proofs.Dealings
import AudioHost.Proofs.SessionEvents

/-!
# The traffic of a session is canonical

Devices, the application and the relay all deal with the mail of a session. What any of them gets
out of it is canonical, was put in by one of them, and keeps the order, provided that nobody uses a
mailbox directly.
-/

set_option autoImplicit false

namespace AudioHost

namespace Hub

def Action.usesHandle (action : Action) : Bool :=
  action.onMail?.any Mailboxes.Command.usesHandle

def Action.dealing? (action : Action) (answer : Answer) : Option Dealing :=
  action.onMail?.bind fun command => command.dealing? answer

theorem answer_perform (hub : Hub) {action : Action} {command : Mailboxes.Command}
    (known : action.onMail? = some command) :
    (hub.perform action).1 = (hub.mail.apply command).1 := by
  cases action with
  | deliver name port buffer =>
    cases known
    simp [perform, Answer.attempt, deliver?, Mailboxes.apply]
  | onMailboxes other =>
    cases known
    cases command <;> rfl
  | report | jump | time | describe => cases known

theorem accounts_perform {hub : Hub} {log : List Dealing} (accounts : hub.mail.Accounts log)
    (action : Action) (plain : action.usesHandle = false) :
    (hub.perform action).2.mail.Accounts
      (log ++ (action.dealing? (hub.perform action).1).toList) := by
  rw [mail_perform]
  cases known : action.onMail? with
  | none => simpa [Action.dealing?, known] using accounts
  | some command =>
    have roles : command.usesHandle = false := by simpa [Action.usesHandle, known] using plain
    simpa [Action.dealing?, known, hub.answer_perform known] using accounts.apply command roles

end Hub

def Exchange.dealing? (exchange : Exchange) : Option Dealing :=
  exchange.action.dealing? exchange.answer

/-- The mail is accounted for by what was dealt in before and by what devices have done since,
unless one of them has used a mailbox directly. -/
def Hub.Accounts (before : List Dealing) (log : List Exchange) (hub : Hub) : Prop :=
  (∀ exchange ∈ log, exchange.action.usesHandle = false) →
    hub.mail.Accounts (before ++ log.filterMap Exchange.dealing?)

theorem Hub.logged_accounts (before : List Dealing) : Logged (Accounts before) where
  perform log hub action accounts plain := by
    obtain ⟨earlier, last⟩ := List.forall_mem_append.mp plain
    have direct : action.usesHandle = false := last _ List.mem_cons_self
    have after := accounts_perform (accounts earlier) action direct
    simpa [List.filterMap_eq_flatMap_toList, Exchange.dealing?] using after
  note _ _ _ accounts := accounts
  markDummy _ _ _ _ accounts := accounts

theorem Rack.lasting_accounts (start : List Record) (before : List Dealing) :
    Lasting (Since start (Hub.Accounts before)) where
  toSteady := (Hub.logged_accounts before).steady start
  clear _ name since := since.imp rfl fun _ accounts plain => (accounts plain).clear name
  renew _ name capacity since :=
    since.imp rfl fun _ accounts plain => (accounts plain).renew name capacity
  collect _ since := since.imp rfl fun _ accounts plain => (accounts plain).dropAll .midi
  sameMail _ _ same since := since.imp rfl fun _ accounts plain => by
    rw [same]
    exact accounts plain

/-- A relay that runs tries to post just what it takes out of the mail. -/
theorem Station.Runs.accounts {station : Station} {result : List Attempt × Station}
    (runs : station.Runs result) {log : List Dealing} (accounts : station.hub.mail.Accounts log) :
    result.2.hub.mail.Accounts (log ++ (Attempt.events result.1).map (.collected .midi)) := by
  cases runs with
  | still => simpa [Attempt.events, Bulletin.events] using accounts
  | cycle relay waiting =>
    rw [station.events_cycle relay]
    exact accounts.collectAll .midi

namespace Session

def newRecords (session : Session) (move : Move) : List Record :=
  (session.move move).2.rack.journal.toList.drop session.rack.journal.size

/-- What devices deal in during a move, what the application does, and what the relay tries to
post. -/
def dealingsIn (session : Session) (move : Move) : List Dealing :=
  ((session.newRecords move).flatMap Record.exchanges).filterMap Exchange.dealing? ++
    (move.action?.bind fun action => action.dealing? (session.rack.hub.perform action).1).toList ++
    (Attempt.events (session.move move).1).map (.collected .midi)

/-- All dealings of a run, the first one first. -/
def dealings (session : Session) : List Move → List Dealing
  | [] => []
  | move :: rest => session.dealingsIn move ++ (session.move move).2.dealings rest

variable {session : Session} {log : List Dealing}

theorem newRecords_of_kept {move : Move}
    (kept : (session.move move).2.rack.journal = session.rack.journal) :
    session.newRecords move = [] := by
  simp [newRecords, kept]

theorem accounts_devices (accounts : session.rack.hub.mail.Accounts log) (move : Move)
    (leaves : move.action? = none) (silent : Attempt.events (session.move move).1 = [])
    (devices : ∀ action ∈ (session.move move).2.rack.journal.actions, action.usesHandle = false) :
    (session.move move).2.rack.hub.mail.Accounts (log ++ session.dealingsIn move) := by
  have before : session.rack.Since session.rack.journal.toList (Hub.Accounts log) :=
    Rack.Since.now fun _ => by simpa using accounts
  have since := (Rack.lasting_accounts session.rack.journal.toList log).move move
    (by simp [leaves]) before
  obtain ⟨records, journal, accounts⟩ := since
  have new : session.newRecords move = records := by
    rw [newRecords, journal, ← Array.length_toList, List.drop_left]
  have dealt : session.dealingsIn move =
      (records.flatMap Record.exchanges).filterMap Exchange.dealing? := by
    simp [dealingsIn, leaves, silent, new]
  rw [dealt]
  refine accounts fun exchange made => devices exchange.action ?_
  obtain ⟨record, listed, taken⟩ := Record.mem_actions made
  rw [Journal.actions, journal]
  exact List.mem_flatMap.mpr ⟨record, List.mem_append_right _ listed, taken⟩

theorem accounts_move (accounts : session.rack.hub.mail.Accounts log) (move : Move)
    (own : ∀ action ∈ move.action?, action.usesHandle = false)
    (devices : ∀ action ∈ (session.move move).2.rack.journal.actions, action.usesHandle = false) :
    (session.move move).2.rack.hub.mail.Accounts (log ++ session.dealingsIn move) := by
  -- The relay runs, the application acts, or devices do: only one of them in each move.
  cases move with
  | settle =>
    have none : session.newRecords .settle = [] := newRecords_of_kept rfl
    have after := session.station.runs_settle.accounts accounts
    rw [dealingsIn, none]
    exact after
  | operate command =>
    cases command with
    | lapse =>
      have none : session.newRecords (.operate .lapse) = [] := newRecords_of_kept rfl
      have after := session.station.runs_lapse.accounts accounts
      rw [dealingsIn, none]
      exact after
    | perform action =>
      have none : session.newRecords (.operate (.perform action)) = [] := newRecords_of_kept rfl
      have still : Attempt.events (session.move (.operate (.perform action))).1 = [] := rfl
      have after := Hub.accounts_perform accounts action (own action rfl)
      rw [dealingsIn, none, still, List.map_nil, List.append_nil]
      exact after
    | receive receiver =>
      refine accounts_devices accounts _ rfl ?_ devices
      simp only [Session.move, apply]
      split <;> rfl
    | activate | adjust | deactivate | playbackStarted | playbackStopped | silence | collect
    | subscribe | refuse => exact accounts_devices accounts _ rfl rfl devices

theorem accounts_moveAll (accounts : session.rack.hub.mail.Accounts log) (moves : List Move)
    (plain : ∀ action ∈ session.actions moves, action.usesHandle = false) :
    (session.moveAll moves).rack.hub.mail.Accounts (log ++ session.dealings moves) := by
  induction moves generalizing session log with
  | nil => simpa [dealings, moveAll] using accounts
  | cons move rest ih =>
    have own : ∀ action ∈ move.action?, action.usesHandle = false := by
      intro action taken
      refine plain action (List.mem_append_left _ ?_)
      exact List.mem_filterMap.mpr ⟨move, List.mem_cons_self, taken⟩
    have later : ∀ action ∈ (session.move move).2.actions rest, action.usesHandle = false := by
      intro action taken
      refine plain action ?_
      rcases List.mem_append.mp taken with applied | journaled
      · obtain ⟨other, listed, same⟩ := List.mem_filterMap.mp applied
        refine List.mem_append_left _ (List.mem_filterMap.mpr ⟨other, ?_, same⟩)
        exact List.mem_cons_of_mem move listed
      · exact List.mem_append_right _ journaled
    have devices : ∀ action ∈ (session.move move).2.rack.journal.actions,
        action.usesHandle = false := by
      intro action taken
      refine later action (List.mem_append_right _ ?_)
      exact moveAll_keeps (fun session => action ∈ session.rack.journal.actions) rest
        (fun _ move _ taken => taken_move taken move) taken
    have after := ih (accounts_move accounts move own devices) later
    rw [List.append_assoc] at after
    exact after

theorem accounts_new (catalog : Catalog) : (ofCatalog catalog).rack.hub.mail.Accounts [] := by
  intro role
  refine ⟨⟨0, 0⟩, {}, ?_, .empty role⟩
  cases role <;> exact Mailbox.make_holds ⟨0, 0⟩

end Session

/-- However malformed the buffers are that devices and the application hand in, whatever is started,
stopped or put in the place of something else: as long as nobody uses a mailbox directly, all that
anyone is given is canonical, was accepted before, and comes in the order of acceptance. -/
theorem traffic_faithful (catalog : Catalog) (moves : List Session.Move)
    (plain : ∀ action ∈ (Session.ofCatalog catalog).actions moves, action.usesHandle = false) :
    Dealing.Faithful ((Session.ofCatalog catalog).dealings moves) := by
  have accounts := Session.accounts_moveAll (Session.accounts_new catalog) moves plain
  exact accounts.faithful

/-- A device whose buffers are cut short or run on. -/
def Script.clipping : Script where
  label := "clipping"
  actions := [
    (.activate, [.deliver .midi 3 [0x90, 60], .onMailboxes (.send .midi 0 [0xF0, 1, 0xF7, 2])]),
    (.playbackStarted, [.onMailboxes (.fetch .midi 0)])]

def Catalog.clipping : Catalog :=
  ({} : Catalog).add .midi "clipping" fun _ _ => Script.clipping.device

def clippingMoves : List Session.Move :=
  [.operate (.activate { midiDriver := "clipping" }), .settle, .operate .playbackStarted,
    .operate .deactivate]

theorem traffic_faithful_clipping :
    (∀ action ∈ (Session.ofCatalog .clipping).actions clippingMoves,
      action.usesHandle = false) ∧
    Dealing.Faithful ((Session.ofCatalog .clipping).dealings clippingMoves) := by
  have plain : ∀ action ∈ (Session.ofCatalog .clipping).actions clippingMoves,
      action.usesHandle = false := by decide +kernel
  exact ⟨plain, traffic_faithful .clipping clippingMoves plain⟩

-- The missing velocity counts as zero, which makes a note-off, and what follows a block is cut off.
example : (Session.ofCatalog .clipping).dealings clippingMoves =
    [.delivered .midi 3 [0x90, 60], .sent .midi [0xF0, 1, 0xF7, 2],
      .collected .midi ⟨.midi, 3, ⟨[0x80, 60, 0], by decide⟩⟩,
      .fetched .midi ⟨[0xF0, 1, 0xF7], by decide⟩] := by decide +kernel

end AudioHost
