import AudioHost.Proofs.Comparisons
import AudioHost.Proofs.StationSteps

/-!
# Exact delivery

An onlooker keeps a ledger of a station: what devices put in the mail, when the relay ran and what
it posted while how much waited in the channel, and what the application received. The ledger
accounts for every event and for every message.
-/

set_option autoImplicit false

namespace AudioHost

/-- A relay keeps the position it told when another one is equal to it; the difference, as between
the zeros of either sign, is never seen. -/
theorem Relay.bne_told (relay : Relay) (now time : Position) :
    (time != (relay.told now).toldTime) = (time != now) := by
  simp only [told]
  split
  next => rfl
  next same =>
    -- Equality of doubles is not reflexive, but it can be turned round and chained.
    have equal : (now == relay.toldTime) = true := by simpa [bne] using same
    rw [bne, bne, BEq.congr_right equal]

structure Cycle where
  /-- The mailbox in force for MIDI, and what waited in it when the cycle began. -/
  mailbox : Handle
  waiting : List InputEvent
  /-- The position that the relay saw in its cycle before, or when it started. -/
  seen : Position
  now : Position
  postings : List Posting

def Bulletin.input? : Bulletin → Option InputEvent
  | .input event => some event
  | .position _ => none

theorem Relay.inputs_messages (relay : Relay) (events : List InputEvent) (time : Position) :
    (relay.messages events time).filterMap Bulletin.input? = events := by
  have none : (if time != relay.toldTime then [Bulletin.position time] else []).filterMap
      Bulletin.input? = [] := by
    split <;> rfl
  rw [messages, List.filterMap_append, none, List.append_nil, List.filterMap_map]
  exact List.filterMap_some

namespace Cycle

def messages (cycle : Cycle) : List Bulletin := cycle.postings.map Posting.message

/-- The events among the messages of some cycles that found a given mailbox in force. -/
def inputs (cycles : List Cycle) (mailbox : Handle) : List InputEvent :=
  (cycles.filter fun cycle => cycle.mailbox = mailbox).flatMap fun cycle =>
    cycle.messages.filterMap Bulletin.input?

theorem inputs_append (left right : List Cycle) (mailbox : Handle) :
    inputs (left ++ right) mailbox = inputs left mailbox ++ inputs right mailbox := by
  simp [inputs]

theorem inputs_singleton (cycle : Cycle) (mailbox : Handle) :
    inputs [cycle] mailbox =
      if cycle.mailbox = mailbox then cycle.messages.filterMap Bulletin.input? else [] := by
  by_cases same : cycle.mailbox = mailbox <;> simp [inputs, same]

def Complete (cycle : Cycle) : Prop :=
  cycle.messages =
    cycle.waiting.map .input ++ if cycle.now != cycle.seen then [.position cycle.now] else []

end Cycle

structure Ledger where
  accepted : List (Handle × InputEvent) := []
  cycles : List Cycle := []
  attempts : List Attempt := []
  received : List Bulletin := []
  seen : Position := 0

namespace Ledger

def postings (ledger : Ledger) : List Posting := ledger.cycles.flatMap Cycle.postings

def seenAfter (ledger : Ledger) (station : Station) : Station.Command → Position
  | .start _ => station.hub.time
  | _ => ledger.seen

def enterOperation (ledger : Ledger) (station : Station) (command : Station.Command) : Ledger :=
  { ledger with
    accepted := ledger.accepted ++ station.accepted command
    received := ledger.received ++ (station.step command).1.taken
    seen := ledger.seenAfter station command }

def enterCycle (ledger : Ledger) (station : Station) (attempts : List Attempt) : Ledger :=
  let mailbox := station.hub.mail.hold .midi
  let cycle := {
    mailbox
    waiting := station.hub.mail.waiting mailbox
    seen := ledger.seen
    now := station.hub.time
    -- What was attempted is posted again, to see how much the channel holds each time.
    postings := station.channel.postings (attempts.map Attempt.message) }
  { ledger with
    cycles := ledger.cycles ++ [cycle]
    seen := station.hub.time }

def enter (ledger : Ledger) (station : Station) (command : Station.Command) : Ledger :=
  let attempts := (station.step command).2.1
  let entered := ledger.enterOperation station command
  let entered := match station.woken? command with
    | none => entered
    | some _ => entered.enterCycle (station.before command) attempts
  { entered with attempts := ledger.attempts ++ attempts }

def enterAll (ledger : Ledger) (station : Station) : List Station.Command → Ledger
  | [] => ledger
  | command :: rest => (ledger.enter station command).enterAll (station.step command).2.2 rest

end Ledger

structure Ledger.Exact (ledger : Ledger) (capacity : Nat) (channel : Channel) : Prop where
  conserved : ledger.received ++ channel.messages = delivered capacity ledger.postings
  attempted : ledger.attempts = ledger.postings.map (Posting.attempt capacity)
  held : ∀ posting ∈ ledger.postings, posting.held ≤ capacity
  complete : ∀ cycle ∈ ledger.cycles, cycle.Complete

def Ledger.Accounts (ledger : Ledger) (mail : Mailboxes) (mailbox : Handle) : Prop :=
  mailbox.select ledger.accepted = Cycle.inputs ledger.cycles mailbox ++ mail.waiting mailbox

namespace Ledger

/-- What the steps of a station keep as long as somebody listens. The relay may remember another
position than it saw last, but both are equal to the same positions. -/
structure Sound (ledger : Ledger) (capacity : Nat) (station : Station) : Prop where
  exact : ledger.Exact capacity station.channel
  serves : station.channel.Serves
  capacity : station.channel.capacity = capacity
  told : ∀ relay, station.worker = .waiting relay →
    ∀ now : Position, (now != relay.toldTime) = (now != ledger.seen)

variable {ledger : Ledger} {capacity : Nat} {station : Station}

theorem enter_asleep {command : Station.Command} (asleep : station.woken? command = none) :
    ledger.enter station command = ledger.enterOperation station command := by
  simp only [enter, asleep, Station.step_asleep asleep, List.append_nil]
  rfl

theorem Sound.operate {after : Station} {command : Station.Command}
    (sound : ledger.Sound capacity station) (serves : after.channel.Serves)
    (sameCapacity : after.channel.capacity = station.channel.capacity)
    (messages : (station.step command).1.taken ++ after.channel.messages = station.channel.messages)
    (told : ∀ relay, after.worker = .waiting relay → ∀ now : Position,
      (now != relay.toldTime) = (now != ledger.seenAfter station command)) :
    (ledger.enterOperation station command).Sound capacity after where
  exact := {
    conserved := by
      have before := sound.exact.conserved
      rw [← messages, ← List.append_assoc] at before
      exact before
    attempted := sound.exact.attempted
    held := sound.exact.held
    complete := sound.exact.complete }
  serves := serves
  capacity := sameCapacity.trans sound.capacity
  told := told

theorem Sound.apart {after : Station} {command : Station.Command}
    (sound : ledger.Sound capacity station) (channel : after.channel = station.channel)
    (silent : (station.step command).1.taken = [])
    (told : ∀ relay, after.worker = .waiting relay → ∀ now : Position,
      (now != relay.toldTime) = (now != ledger.seenAfter station command)) :
    (ledger.enterOperation station command).Sound capacity after := by
  refine sound.operate ?_ ?_ ?_ told
  · rw [channel]
    exact sound.serves
  · rw [channel]
  · rw [silent, channel, List.nil_append]

theorem Sound.before {command : Station.Command} (sound : ledger.Sound capacity station)
    (listening : 0 < (station.before command).channel.receivers) :
    (ledger.enterOperation station command).Sound capacity (station.before command) := by
  cases command with
  | onMailboxes command => exact sound.apart rfl rfl sound.told
  | report source time => exact sound.apart rfl rfl sound.told
  | jump time => exact sound.apart rfl rfl sound.told
  | markDummy name dummy => exact sound.apart rfl rfl sound.told
  | wake => exact sound.apart rfl rfl sound.told
  | start interval =>
    -- The new relay begins with the position of the moment, and so does the ledger.
    refine sound.apart station.channel_clear rfl ?_
    rintro relay ⟨⟩ now
    rw [Station.time_clear]
    rfl
  | stop =>
    refine sound.apart station.channel_stop rfl ?_
    intro relay waiting
    exact absurd waiting (station.worker_stop relay)
  | clear =>
    refine sound.apart station.channel_clear rfl ?_
    intro relay waiting
    cases waiting
  | lapse => exact sound.apart rfl rfl sound.told
  | receive =>
    obtain ⟨serves, messages⟩ := sound.serves.receive
    exact sound.operate serves station.channel.capacity_receive messages sound.told
  | collect =>
    refine sound.operate ⟨sound.serves.listening, Nat.zero_le _⟩ rfl ?_ sound.told
    exact List.append_nil _
  | openReceiver =>
    have opened : station.channel.openReceiver =
        { station.channel with receivers := station.channel.receivers + 1 } := by
      simp [Channel.openReceiver, Nat.ne_of_gt sound.serves.listening]
    refine sound.operate ?_ ?_ ?_ sound.told
    · simp only [Station.before, Station.apply, opened]
      exact ⟨Nat.succ_pos _, sound.serves.room⟩
    · simp only [Station.before, Station.apply, opened]
    · simp only [Station.before, Station.apply, opened]
      rfl
  | closeReceiver =>
    -- Another receiver is open, so what waits is kept.
    have closed := Channel.closeReceiver_listening listening
    refine sound.operate ⟨listening, ?_⟩ ?_ ?_ sound.told
    · simp only [Station.before, Station.apply, closed]
      exact sound.serves.room
    · simp only [Station.before, Station.apply, closed]
    · simp only [Station.before, Station.apply, closed]
      rfl

theorem Sound.cycle {relay : Relay} (sound : ledger.Sound capacity station)
    (waiting : station.worker = .waiting relay) :
    Sound
      { ledger.enterCycle station (station.cycle relay).1 with
        attempts := ledger.attempts ++ (station.cycle relay).1 }
      capacity (station.cycle relay).2 := by
  -- The relay posts what waits in the mail, and the position if it differs from the one it told.
  let posted :=
    relay.messages (station.hub.mail.waiting (station.hub.mail.hold .midi)) station.hub.time
  have collected : (station.hub.mail.collectAll .midi).1 =
      station.hub.mail.waiting (station.hub.mail.hold .midi) :=
    (station.hub.mail.waiting_collectAll .midi).1
  have attempts : (station.cycle relay).1 = (station.channel.postAll posted).1 := by
    simp only [posted, ← collected]
    rfl
  have channel : (station.cycle relay).2.channel = (station.channel.postAll posted).2 := by
    simp only [posted, ← collected]
    rfl
  obtain ⟨serves, kept, tried, left, held⟩ := sound.serves.postAll posted
  rw [sound.capacity] at tried left held
  have messages : (station.cycle relay).1.map Attempt.message = posted := by
    rw [attempts, Channel.map_message_postAll]
  have postings : ledger.postings ++ station.channel.postings posted =
      (ledger.enterCycle station (station.cycle relay).1).postings := by
    simp [Ledger.postings, enterCycle, messages]
  refine ⟨⟨?_, ?_, ?_, ?_⟩, channel ▸ serves, ?_, ?_⟩
  · change ledger.received ++ (station.cycle relay).2.channel.messages =
      delivered capacity (ledger.enterCycle station (station.cycle relay).1).postings
    rw [← postings, delivered_append, ← sound.exact.conserved, channel, left, List.append_assoc]
  · change ledger.attempts ++ (station.cycle relay).1 =
      (ledger.enterCycle station (station.cycle relay).1).postings.map (Posting.attempt capacity)
    rw [← postings, List.map_append, ← sound.exact.attempted, attempts, tried]
  · change ∀ posting ∈ (ledger.enterCycle station (station.cycle relay).1).postings, _
    rw [← postings]
    intro posting member
    rcases List.mem_append.mp member with before | new
    · exact sound.exact.held posting before
    · exact held posting new
  · intro cycle member
    rcases List.mem_append.mp member with before | new
    · exact sound.exact.complete cycle before
    · -- The position told and the position seen differ from the same positions.
      rw [List.mem_singleton.mp new]
      simp only [Cycle.Complete, Cycle.messages, Channel.map_message_postings, messages]
      simp only [posted, Relay.messages, sound.told relay waiting]
  · rw [channel, kept, sound.capacity]
  · rintro after ⟨⟩ time
    rw [Relay.toldTime_observeAll]
    exact relay.bne_told station.hub.time time

theorem enter_woken {command : Station.Command} {relay : Relay}
    (woken : station.woken? command = some relay) :
    ledger.enter station command =
      { (ledger.enterOperation station command).enterCycle (station.before command)
          ((station.before command).cycle relay).1 with
        attempts := ledger.attempts ++ ((station.before command).cycle relay).1 } := by
  simp only [enter, woken, Station.step_woken woken]

theorem Sound.step {command : Station.Command} (sound : ledger.Sound capacity station)
    (listening : 0 < (station.step command).2.2.channel.receivers) :
    (ledger.enter station command).Sound capacity (station.step command).2.2 := by
  cases woken : station.woken? command with
  | none =>
    rw [Station.step_asleep woken] at listening ⊢
    rw [enter_asleep woken]
    exact sound.before listening
  | some relay =>
    rw [Station.step_woken woken] at listening ⊢
    rw [enter_woken woken]
    have waiting := Station.waiting_of_woken woken
    exact (sound.before ((Station.receivers_cycle _ relay) ▸ listening)).cycle waiting

theorem Sound.run (sound : ledger.Sound capacity station) (commands : List Station.Command)
    (listening : 0 < (station.run commands).channel.receivers) :
    (ledger.enterAll station commands).Sound capacity (station.run commands) := by
  induction commands generalizing ledger station with
  | nil => exact sound
  | cons command rest ih =>
    -- Receivers never come back, so somebody has listened all along.
    have now : 0 < (station.step command).2.2.channel.receivers := Station.listening_run listening
    exact ih (sound.step now) listening

theorem accounts_before {command : Station.Command} {mailbox : Handle}
    (accounts : ledger.Accounts station.hub.mail mailbox)
    (leaves : ¬ command.CollectsFrom mailbox.role) :
    (ledger.enterOperation station command).Accounts (station.before command).hub.mail mailbox := by
  simp only [Accounts, enterOperation, Handle.select_append]
  rw [Station.waiting_before leaves, accounts, List.append_assoc]

theorem accounts_cycle {mailbox : Handle} (accounts : ledger.Accounts station.hub.mail mailbox)
    (relay : Relay) :
    (ledger.enterCycle station (station.cycle relay).1).Accounts (station.cycle relay).2.hub.mail
      mailbox := by
  obtain ⟨collected, emptied⟩ := station.hub.mail.waiting_collectAll .midi
  have attempted : (station.cycle relay).1.map Attempt.message =
      relay.messages (station.hub.mail.collectAll .midi).1 station.hub.time :=
    Channel.map_message_postAll _ _
  have left : (station.cycle relay).2.hub.mail.waiting mailbox =
      if mailbox = station.hub.mail.hold .midi then [] else station.hub.mail.waiting mailbox :=
    emptied mailbox
  simp only [Accounts, enterCycle, Cycle.inputs_append, Cycle.inputs_singleton, Cycle.messages,
    Channel.map_message_postings, attempted, Relay.inputs_messages, left, collected]
  rw [accounts]
  -- The mailbox in force is emptied, and what it held is what the cycle posts.
  by_cases here : mailbox = station.hub.mail.hold .midi
  · subst here
    simp
  · simp [here, Ne.symm here]

theorem accounts_step {command : Station.Command} {mailbox : Handle}
    (accounts : ledger.Accounts station.hub.mail mailbox)
    (leaves : ¬ command.CollectsFrom mailbox.role) :
    (ledger.enter station command).Accounts (station.step command).2.2.hub.mail mailbox := by
  have operated := accounts_before accounts leaves
  cases woken : station.woken? command with
  | none =>
    rw [Station.step_asleep woken, enter_asleep woken]
    exact operated
  | some relay =>
    rw [Station.step_woken woken, enter_woken woken]
    exact accounts_cycle operated relay

theorem accounts_run {mailbox : Handle} (accounts : ledger.Accounts station.hub.mail mailbox)
    (commands : List Station.Command)
    (leave : ∀ command ∈ commands, ¬ command.CollectsFrom mailbox.role) :
    (ledger.enterAll station commands).Accounts (station.run commands).hub.mail mailbox := by
  induction commands generalizing ledger station with
  | nil => exact accounts
  | cons command rest ih =>
    have now := leave command List.mem_cons_self
    exact ih (accounts_step accounts now) fun later member =>
      leave later (List.mem_cons_of_mem command member)

end Ledger

def Station.fresh (capacity : Nat) : Station := { hub := {}, channel := { capacity } }

theorem Ledger.sound_fresh (capacity : Nat) : Ledger.Sound {} capacity (.fresh capacity) where
  exact := ⟨rfl, rfl, by simp [postings], by simp⟩
  serves := ⟨Nat.one_pos, Nat.zero_le _⟩
  capacity := rfl
  told := by
    intro relay waiting
    cases waiting

theorem Ledger.accounts_fresh (capacity : Nat) (mailbox : Handle) :
    Ledger.Accounts {} (Station.fresh capacity).hub.mail mailbox := by
  have empty : (Station.fresh capacity).hub.mail.waiting mailbox = [] := by
    obtain ⟨role, generation⟩ := mailbox
    by_cases first : generation = 0
    · cases role <;> subst first <;> rfl
    · simp [Station.fresh, Mailboxes.waiting, Mailboxes.held?, Lane.mailbox?, Lane.generation,
        first]
  rw [Accounts, empty]
  rfl

/-- While anybody listens, the application has received what was posted, less what was posted to a
full channel, in order and once. No call is left unanswered, and each cycle posts what waited in the
MIDI mailbox in force, then the position if it is another one. What a MIDI mailbox has accepted was
posted or still waits in it, unless somebody else takes events away. -/
theorem delivery_exact (capacity : Nat) (commands : List Station.Command)
    (listening : 0 < ((Station.fresh capacity).run commands).channel.receivers) :
    (Ledger.enterAll {} (.fresh capacity) commands).Exact capacity
        ((Station.fresh capacity).run commands).channel ∧
      ((Station.fresh capacity).run commands).Settled ∧
      ((∀ command ∈ commands, ¬ command.CollectsFrom .midi) → ∀ generation,
        (Ledger.enterAll {} (.fresh capacity) commands).Accounts
          ((Station.fresh capacity).run commands).hub.mail ⟨.midi, generation⟩) := by
  refine ⟨?_, ?_, ?_⟩
  · exact ((Ledger.sound_fresh capacity).run commands listening).exact
  · exact Station.settled_run (fun waiting => by cases waiting) commands
  · intro leave generation
    exact Ledger.accounts_run (Ledger.accounts_fresh capacity ⟨.midi, generation⟩) commands leave

/-- A run in which an event fills the channel and the position that follows it is dropped. -/
def overflowing : List Station.Command :=
  [.onMailboxes (.renew .midi ⟨1, 2⟩), .start 5, .onMailboxes (.deliver .midi 0 [0x90, 60, 1]),
    .jump 4, .receive, .lapse]

theorem delivery_exact_overflowing :
    (Ledger.enterAll {} (.fresh 1) overflowing).Exact 1
        ((Station.fresh 1).run overflowing).channel ∧
      ((Station.fresh 1).run overflowing).Settled ∧
      ∀ generation, (Ledger.enterAll {} (.fresh 1) overflowing).Accounts
        ((Station.fresh 1).run overflowing).hub.mail ⟨.midi, generation⟩ := by
  obtain ⟨exact, settled, accounts⟩ := delivery_exact 1 overflowing (by decide)
  refine ⟨exact, settled, accounts ?_⟩
  simp [overflowing, Station.Command.CollectsFrom, Mailboxes.Command.CollectsFrom]

end AudioHost
