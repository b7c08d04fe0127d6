import AudioHost.Proofs.Counterparts
import AudioHost.Proofs.SessionSteps

/-!
# The channels of a session

Each activation opens a channel, and the relay posts in the latest one only. What is taken from a
channel, by a receiver or by the application, has been posted there, in the same order.
-/

set_option autoImplicit false

namespace AudioHost

def Attempt.delivered (attempts : List Attempt) : List Bulletin :=
  (attempts.filter fun attempt => attempt.outcome = .delivered).map Attempt.message

theorem Channel.messages_postAll (channel : Channel) (messages : List Bulletin) :
    (channel.postAll messages).2.messages =
      channel.messages ++ Attempt.delivered (channel.postAll messages).1 := by
  induction messages generalizing channel with
  | nil => simp [postAll, Attempt.delivered]
  | cons message rest ih =>
    simp only [postAll, ih, messages_post, List.append_assoc]
    by_cases taken : (channel.post message).1 = .delivered
    · simp [Attempt.delivered, taken]
    · simp [Attempt.delivered, taken]

theorem Channel.messages_closeReceiver (channel : Channel) :
    ∃ dropped, channel.closeReceiver.messages ++ dropped = channel.messages := by
  simp only [closeReceiver]
  split
  · exact ⟨channel.messages, rfl⟩
  · exact ⟨[], List.append_nil _⟩

namespace Inboxes

/-- Messages, each with the number of a channel; here those of one of them. -/
def among (number : Nat) (entries : List (Nat × Bulletin)) : List Bulletin :=
  (entries.filter fun entry => entry.1 = number).map Prod.snd

def entries (number : Nat) (messages : List Bulletin) : List (Nat × Bulletin) :=
  messages.map fun message => (number, message)

theorem among_append (number : Nat) (left right : List (Nat × Bulletin)) :
    among number (left ++ right) = among number left ++ among number right := by
  simp [among]

theorem among_entries (number other : Nat) (messages : List Bulletin) :
    among number (entries other messages) = if other = number then messages else [] := by
  induction messages with
  | nil => simp [among, entries]
  | cons message rest ih =>
    simp only [among, entries] at ih ⊢
    by_cases same : other = number
    · simp_all
    · simp_all

def waiting (inboxes : Inboxes) (number : Nat) : List Bulletin :=
  ((inboxes.channel? number).map Channel.messages).getD []

theorem waiting_generation (inboxes : Inboxes) :
    inboxes.waiting inboxes.generation = inboxes.current.messages := by
  simp [waiting, channel?_generation]

theorem waiting_next (inboxes : Inboxes) : inboxes.waiting (inboxes.generation + 1) = [] := by
  simp [waiting, channel?, generation]

theorem waiting_renew (inboxes : Inboxes) (capacity number : Nat) :
    (inboxes.renew capacity).waiting number =
      if number = inboxes.generation + 1 then []
      else if number = inboxes.generation then
        inboxes.current.closeSender.closeReceiver.messages
      else inboxes.waiting number := by
  simp only [waiting, channel?_renew]
  split
  · rfl
  · split <;> rfl

theorem waiting_setChannel {inboxes : Inboxes} {number : Nat} {before : Channel}
    (present : inboxes.channel? number = some before) (after : Channel) (other : Nat) :
    (inboxes.setChannel number after).waiting other =
      if other = number then after.messages else inboxes.waiting other := by
  simp only [waiting, channel?_setChannel present]
  split <;> rfl

/-- What an operation may do to the channels: what it posts, and what it takes. -/
inductive Trades (inboxes : Inboxes) :
    List (Nat × Bulletin) → List (Nat × Bulletin) → Inboxes → Prop where
  | kept : Trades inboxes [] [] inboxes
  | renewed (capacity : Nat) : Trades inboxes [] [] (inboxes.renew capacity)
  | traded (number : Nat) (before after : Channel) (posted taken : List Bulletin)
      (present : inboxes.channel? number = some before)
      (balance : taken ++ after.messages = before.messages ++ posted)
      (latest : posted = [] ∨ number = inboxes.generation) :
      Trades inboxes (entries number posted) (entries number taken)
        (inboxes.setChannel number after)

/-- What was posted in a channel was taken from it or waits there, but for what waited when the
channel was closed. -/
def Balanced (inboxes : Inboxes) (posted taken : List (Nat × Bulletin)) : Prop :=
  ∀ number, ∃ lost, among number taken ++ inboxes.waiting number ++ lost = among number posted ∧
    (inboxes.generation ≤ number → lost = [])

theorem Balanced.trades {inboxes after : Inboxes} {posted taken more gone : List (Nat × Bulletin)}
    (balanced : inboxes.Balanced posted taken) (trades : inboxes.Trades more gone after) :
    after.Balanced (posted ++ more) (taken ++ gone) := by
  intro number
  obtain ⟨lost, balance, still⟩ := balanced number
  cases trades with
  | kept => simpa using balanced number
  | renewed capacity =>
    rw [List.append_nil, List.append_nil, waiting_renew, generation_renew]
    split
    next next =>
      -- No channel had this number, so nothing was posted or taken under it.
      rw [next, waiting_next] at balance
      have whole := still (by omega)
      exact ⟨[], by simpa [whole, next] using balance, fun _ => rfl⟩
    next =>
      split
      next closed =>
        -- What waits in the channel that is closed may be lost now; until now nothing was.
        obtain ⟨dropped, messages⟩ := inboxes.current.closeSender.messages_closeReceiver
        have whole := still (Nat.le_of_eq closed.symm)
        rw [closed, waiting_generation, whole, List.append_nil] at balance
        refine ⟨dropped, ?_, fun later => by omega⟩
        rw [closed, ← balance, List.append_assoc, messages]
        rfl
      next => exact ⟨lost, balance, fun later => still (by omega)⟩
  | traded place before after newly out present exchange latest =>
    rw [among_append, among_append, among_entries, among_entries, waiting_setChannel present,
      generation_setChannel]
    by_cases here : place = number
    · subst here
      have waits : inboxes.waiting place = before.messages := by simp [waiting, present]
      have moved : among place taken ++ out ++ after.messages =
          among place taken ++ inboxes.waiting place ++ newly := by
        rw [waits, List.append_assoc, exchange, List.append_assoc]
      simp only [if_true, moved]
      refine ⟨lost, ?_, still⟩
      rcases latest with rfl | latest
      · simpa using balance
      -- Messages are posted at the end, so nothing may be lost in between.
      · rw [still (Nat.le_of_eq latest.symm), List.append_nil] at balance ⊢
        rw [balance]
    · rw [if_neg here, if_neg here, if_neg (Ne.symm here), List.append_nil, List.append_nil]
      exact ⟨lost, balance, still⟩

end Inboxes

namespace Session

/-- What a move posts, with the number of the channel. -/
def posted (session : Session) (move : Move) : List (Nat × Bulletin) :=
  Inboxes.entries session.inboxes.generation (Attempt.delivered (session.move move).1)

/-- What the application gets by a move, with the number of the channel that it takes it from. -/
def taken (session : Session) : Move → List (Nat × Bulletin)
  | .operate command =>
    match command, (session.apply command).1 with
    | .receive number, .received message => Inboxes.entries number message.toList
    | .collect, .messages messages => Inboxes.entries session.inboxes.generation messages
    | _, _ => []
  | .settle => []

def postings (session : Session) : List Move → List (Nat × Bulletin)
  | [] => []
  | move :: rest => session.posted move ++ (session.move move).2.postings rest

def takings (session : Session) : List Move → List (Nat × Bulletin)
  | [] => []
  | move :: rest => session.taken move ++ (session.move move).2.takings rest

theorem BringsUp.inboxes {session after : Session} {settings : Settings}
    {result : Except Fault Unit} (brought : session.BringsUp settings result after) :
    after.inboxes = session.inboxes := by
  cases brought with
  | audioFails => rfl
  | midiFails => rfl
  | relayFails => rfl
  | comesUp first rack =>
    have channel : ({ session with rack }.relayed settings).inboxes.current =
        session.inboxes.current := Station.channel_clear _
    simp only [relayed, withStation] at channel ⊢
    rw [channel]

theorem Activates.trades {session after : Session} {settings : Settings}
    {result : Except Fault Unit} (activates : session.Activates settings result after) :
    session.inboxes.Trades [] [] after.inboxes := by
  cases activates with
  | alreadyActive => exact .kept
  | invalid => exact .kept
  | fails fault after atRest checked brought =>
    have same : (after.note (.sessionFailed fault)).deactivate.2.inboxes =
        session.inboxes.renew settings.inboxSize := by
      rw [deactivate_snd]
      exact brought.inboxes
    rw [same]
    exact .renewed settings.inboxSize
  | succeeds after atRest checked brought =>
    have same : after.inboxes = session.inboxes.renew settings.inboxSize := brought.inboxes
    rw [same]
    exact .renewed settings.inboxSize

theorem trades_adjust (session : Session) (settings : Settings) :
    session.inboxes.Trades [] [] (session.adjust settings).2.inboxes := by
  simp only [adjust]
  split
  · exact (session.activates settings).trades
  split
  · exact .kept
  · exact .kept

theorem trades_runs {session : Session} {result : List Attempt × Station}
    (runs : session.station.Runs result) :
    session.inboxes.Trades
      (Inboxes.entries session.inboxes.generation (Attempt.delivered result.1)) []
      (session.withStation result.2).inboxes := by
  cases runs with
  | still => exact .kept
  | cycle relay waiting =>
    have posted := session.inboxes.current.messages_postAll
      (relay.messages (session.rack.hub.mail.collectAll .midi).1 session.rack.hub.time)
    have after : (session.withStation (session.station.cycle relay).2).inboxes =
        session.inboxes.setChannel session.inboxes.generation
          (session.station.cycle relay).2.channel := Inboxes.withCurrent_eq _ _
    rw [after]
    exact .traded _ _ _ _ [] session.inboxes.channel?_generation posted (.inr rfl)

theorem trades_collect (session : Session) :
    session.inboxes.Trades []
      (Inboxes.entries session.inboxes.generation session.inboxes.current.messages)
      (session.apply .collect).2.2.inboxes := by
  have after : (session.apply .collect).2.2.inboxes =
      session.inboxes.setChannel session.inboxes.generation session.inboxes.current.drain.2 :=
    Inboxes.withCurrent_eq _ _
  rw [after]
  exact .traded _ _ _ [] _ session.inboxes.channel?_generation rfl (.inl rfl)

theorem trades_subscribe (session : Session) :
    session.inboxes.Trades [] [] (session.apply .subscribe).2.2.inboxes := by
  have after : (session.apply .subscribe).2.2.inboxes =
      session.inboxes.setChannel session.inboxes.generation
        session.inboxes.current.openReceiver := Inboxes.withCurrent_eq _ _
  have messages : session.inboxes.current.openReceiver.messages =
      session.inboxes.current.messages := by
    simp only [Channel.openReceiver]
    split <;> rfl
  rw [after]
  exact .traded _ _ _ [] [] session.inboxes.channel?_generation
    (by simp [messages]) (.inl rfl)

theorem trades_receive (session : Session) (number : Nat) :
    session.inboxes.Trades [] (session.taken (.operate (.receive number)))
      (session.apply (.receive number)).2.2.inboxes := by
  simp only [taken, Session.apply]
  cases known : session.inboxes.channel? number with
  | none => exact .kept
  | some channel =>
    have balance : channel.receive.1.toList ++ channel.receive.2.messages =
        channel.messages ++ [] := by
      simp only [Channel.receive]
      split <;> simp_all
    exact .traded _ _ _ [] _ known balance (.inl rfl)

theorem trades (session : Session) (move : Move) :
    session.inboxes.Trades (session.posted move) (session.taken move)
      (session.move move).2.inboxes := by
  cases move with
  | settle => exact trades_runs session.station.runs_settle
  | operate command =>
    cases command with
    | activate settings => exact (session.activates settings).trades
    | adjust settings => exact session.trades_adjust settings
    | deactivate =>
      have same : session.deactivate.2.inboxes = session.inboxes := by rw [deactivate_snd]
      have still : session.inboxes.Trades [] [] session.deactivate.2.inboxes := same ▸ .kept
      exact still
    | collect => exact session.trades_collect
    | subscribe => exact session.trades_subscribe
    | receive number =>
      have nothing : session.posted (.operate (.receive number)) = [] := by
        simp only [posted, Session.move, Session.apply]
        split <;> rfl
      rw [nothing]
      exact session.trades_receive number
    | lapse => exact trades_runs session.station.runs_lapse
    | _ => exact .kept

theorem balanced_run {session : Session} {posted taken : List (Nat × Bulletin)}
    (balanced : session.inboxes.Balanced posted taken) (moves : List Move) :
    (session.moveAll moves).inboxes.Balanced (posted ++ session.postings moves)
      (taken ++ session.takings moves) := by
  -- What was posted and taken before the run goes along, for the balance is one of whole histories.
  induction moves generalizing session posted taken with
  | nil =>
    simp only [postings, takings, List.append_nil]
    exact balanced
  | cons move rest ih =>
    simp only [postings, takings, ← List.append_assoc]
    exact ih (balanced.trades (session.trades move))

theorem waiting_new (catalog : Catalog) (number : Nat) :
    (ofCatalog catalog).inboxes.waiting number = [] := by
  by_cases first : number = 0 <;>
    simp [ofCatalog, Inboxes.waiting, Inboxes.channel?, Inboxes.generation, first]

theorem takings_prefix (catalog : Catalog) (moves : List Move) (number : Nat) :
    Inboxes.among number ((ofCatalog catalog).takings moves) <+:
      Inboxes.among number ((ofCatalog catalog).postings moves) := by
  have fresh : (ofCatalog catalog).inboxes.Balanced [] [] := fun number =>
    ⟨[], by simp [waiting_new, Inboxes.among], fun _ => rfl⟩
  obtain ⟨lost, balance, -⟩ := balanced_run fresh moves number
  simp only [List.nil_append, List.append_assoc] at balance
  exact ⟨_, balance⟩

end Session

end AudioHost
