import AudioHost.Proofs.WakeUps

/-!
# The position that the application knows

A relay that wakes tries to tell the application the position of the clock, unless it is the one it
tried to tell last. What it tried last is the position of its latest cycle; what the application was
told last is the same, but for a position that was refused.
-/

set_option autoImplicit false

namespace AudioHost

def Bulletin.position? : Bulletin → Option Position
  | .input _ => none
  | .position time => some time

namespace Attempt

def positions (attempts : List Attempt) : List Position :=
  attempts.filterMap fun attempt => attempt.message.position?

/-- The last position among some attempts, or the one before them. -/
def lastTried (start : Position) (attempts : List Attempt) : Position :=
  (positions attempts).getLast?.getD start

def lastShown (start : Position) (attempts : List Attempt) : Position :=
  lastTried start (attempts.filter fun attempt => attempt.outcome = .delivered)

def lastRefused (attempts : List Attempt) : Bool :=
  (attempts.filter fun attempt => attempt.message.position?.isSome).getLast?.any
    fun attempt => attempt.outcome ≠ .delivered

theorem lastTried_append (start : Position) (earlier later : List Attempt) :
    lastTried start (earlier ++ later) = lastTried (lastTried start earlier) later := by
  simp [lastTried, positions, List.getLast?_append, Option.getD_or]

theorem lastShown_append (start : Position) (earlier later : List Attempt) :
    lastShown start (earlier ++ later) = lastShown (lastShown start earlier) later := by
  simp [lastShown, lastTried_append]

theorem lastShown_delivered (start : Position) {attempts : List Attempt}
    (delivered : ∀ attempt ∈ attempts, attempt.outcome = .delivered) :
    lastShown start attempts = lastTried start attempts := by
  have all : attempts.filter (fun attempt => attempt.outcome = .delivered) = attempts := by
    simpa using delivered
  rw [lastShown, all]

theorem lastTried_silent (start : Position) {attempts : List Attempt}
    (silent : positions attempts = []) : lastTried start attempts = start := by
  simp [lastTried, silent]

theorem lastShown_silent (start : Position) {attempts : List Attempt}
    (silent : positions attempts = []) : lastShown start attempts = start := by
  refine lastTried_silent start (List.sublist_nil.mp ?_)
  rw [← silent]
  exact List.filter_sublist.filterMap _

theorem lastShown_eq (start : Position) {attempts : List Attempt}
    (kept : lastRefused attempts = false) :
    lastShown start attempts = lastTried start attempts := by
  induction attempts using List.reverseRecOn with
  | nil => rfl
  | append_singleton earlier last ih =>
    rw [lastShown_append, lastTried_append]
    cases known : last.message.position? with
    | none =>
      have before : lastRefused earlier = false := by simpa [lastRefused, known] using kept
      have silent : positions [last] = [] := by simp [positions, known]
      rw [ih before, lastShown_silent _ silent, lastTried_silent _ silent]
    | some position =>
      have delivered : last.outcome = .delivered := by simpa [lastRefused, known] using kept
      simp [lastShown, lastTried, positions, delivered, known]

end Attempt

theorem Relay.positions_messages (relay : Relay) (events : List InputEvent) (time : Position) :
    (relay.messages events time).filterMap Bulletin.position? =
      if time != relay.toldTime then [time] else [] := by
  have inputs : (events.map Bulletin.input).filterMap Bulletin.position? = [] := by
    simp [Bulletin.position?]
  rw [messages, List.filterMap_append, inputs, List.nil_append]
  split <;> rfl

theorem Station.positions_cycle (station : Station) (relay : Relay) :
    Attempt.positions (station.cycle relay).1 =
      if station.hub.time != relay.toldTime then [station.hub.time] else [] := by
  have messages : (station.cycle relay).1.map Attempt.message =
      relay.messages (station.hub.mail.collectAll .midi).1 station.hub.time :=
    Channel.map_message_postAll _ _
  rw [← relay.positions_messages (station.hub.mail.collectAll .midi).1, ← messages,
    List.filterMap_map]
  rfl

theorem Station.lastTried_cycle (station : Station) (relay : Relay) :
    Attempt.lastTried relay.toldTime (station.cycle relay).1 =
      (relay.told station.hub.time).toldTime := by
  simp only [Attempt.lastTried, positions_cycle, Relay.told]
  split <;> rfl

namespace Session

/-- What a move does to the relay. -/
inductive Relays (session : Session) : List Attempt → Session → Prop where
  | kept (after : Session) (same : after.worker = session.worker) : Relays session [] after
  | ended (after : Session) (absent : after.worker = .absent) : Relays session [] after
  | started (after : Session) (relay : Relay) (before : session.worker = .absent)
      (waiting : after.worker = .waiting relay) (told : relay.toldTime = after.rack.hub.time) :
      Relays session [] after
  | cycled (relay : Relay) (waiting : session.worker = .waiting relay) :
      Relays session (session.station.cycle relay).1
        (session.withStation (session.station.cycle relay).2)

theorem Activates.relays {session after : Session} {settings : Settings}
    {result : Except Fault Unit} (activates : session.Activates settings result after)
    (phased : session.Phased) : session.Relays [] after := by
  cases activates with
  | alreadyActive => exact .kept _ rfl
  | invalid => exact .kept _ rfl
  | fails => exact .ended _ (by rw [deactivate_snd])
  | succeeds after atRest checked brought =>
    cases brought with
    | comesUp first rack audio midi willing =>
      refine .started _ _ (phased.rest atRest).1 rfl ?_
      rfl

theorem relays_adjust {session : Session} (phased : session.Phased) (settings : Settings) :
    session.Relays [] (session.adjust settings).2 := by
  simp only [adjust]
  split
  · exact (session.activates settings).relays phased
  split
  · exact .kept _ rfl
  · exact .kept _ rfl

theorem relays_runs {session : Session} {result : List Attempt × Station}
    (runs : session.station.Runs result) :
    session.Relays result.1 (session.withStation result.2) := by
  cases runs with
  | still => exact .kept _ rfl
  | cycle relay waiting => exact .cycled relay waiting

theorem relays_move {session : Session} (phased : session.Phased) (move : Move) :
    session.Relays (session.move move).1 (session.move move).2 := by
  cases move with
  | settle => exact relays_runs session.station.runs_settle
  | operate command =>
    cases command with
    | activate settings => exact (session.activates settings).relays phased
    | adjust settings => exact relays_adjust phased settings
    | deactivate => exact .ended _ (by simp [Session.move, Session.apply, deactivate_snd])
    | lapse => exact relays_runs session.station.runs_lapse
    | receive receiver =>
      simp only [Session.move, Session.apply]
      split <;> exact .kept _ rfl
    | _ => exact .kept _ rfl

/-- A session under observation: the position at which its relay has started, and what that has
tried to post since. -/
structure Watch where
  session : Session
  start : Position := 0
  attempts : List Attempt := []

namespace Watch

def ofCatalog (catalog : Catalog) : Watch := { session := Session.ofCatalog catalog }

def move (watch : Watch) (move : Move) : Watch :=
  let (attempts, session) := watch.session.move move
  if !watch.session.isRelaying && session.isRelaying then
    { session, start := session.rack.hub.time, attempts }
  else { watch with session, attempts := watch.attempts ++ attempts }

def moveAll (watch : Watch) (moves : List Move) : Watch := moves.foldl move watch

def time (watch : Watch) : Position := watch.session.rack.hub.time

/-- What a cycle of the relay would try to post now. -/
def next (watch : Watch) (relay : Relay) : List Attempt := (watch.session.station.cycle relay).1

/-- Once the channel is empty and the relay has run another cycle without a refusal, the application
knows the position of the clock. -/
def Converges (watch : Watch) : Prop :=
  ∀ relay, watch.session.worker = .waiting relay → watch.session.inboxes.current.messages = [] →
    watch.time.isNaN = false → (∀ attempt ∈ watch.next relay, attempt.outcome = .delivered) →
    (Attempt.lastShown watch.start (watch.attempts ++ watch.next relay) == watch.time) = true

/-- What the relay tries last is the position that it saw last. The application knows it as well,
unless the last position before was refused and is still the position of the clock: then no
position is posted, and the application keeps the one that it has. -/
structure KeepsUp (watch : Watch) (relay : Relay) : Prop where
  tried : watch.time.isNaN = false →
    (Attempt.lastTried watch.start (watch.attempts ++ watch.next relay) == watch.time) = true
  shown : watch.time.isNaN = false →
    (∀ attempt ∈ watch.next relay, attempt.outcome = .delivered) →
    Attempt.lastRefused watch.attempts = false ∨
      (watch.time != Attempt.lastTried watch.start watch.attempts) = true →
    (Attempt.lastShown watch.start (watch.attempts ++ watch.next relay) == watch.time) = true
  stays : (watch.time == Attempt.lastTried watch.start watch.attempts) = true →
    Attempt.positions (watch.next relay) = [] ∧
      Attempt.lastShown watch.start (watch.attempts ++ watch.next relay) =
        Attempt.lastShown watch.start watch.attempts

/-- The relay remembers what it tried last. -/
def Remembers (watch : Watch) : Prop :=
  ∀ relay, watch.session.worker = .waiting relay →
    relay.toldTime = Attempt.lastTried watch.start watch.attempts

theorem positions_next (watch : Watch) (relay : Relay) :
    Attempt.positions (watch.next relay) =
      if watch.time != relay.toldTime then [watch.time] else [] :=
  watch.session.station.positions_cycle relay

theorem Remembers.keepsUp {watch : Watch} (remembers : watch.Remembers) {relay : Relay}
    (waiting : watch.session.worker = .waiting relay) : watch.KeepsUp relay := by
  have told := remembers relay waiting
  have tried : Attempt.lastTried (Attempt.lastTried watch.start watch.attempts) (watch.next relay) =
      (relay.told watch.time).toldTime := by
    rw [← told]
    exact watch.session.station.lastTried_cycle relay
  have current (number : watch.time.isNaN = false) :
      ((relay.told watch.time).toldTime == watch.time) = true := by
    have same := relay.bne_told watch.time watch.time
    rw [Position.bne_self number] at same
    exact BEq.symm (by simpa [bne] using same)
  refine ⟨?_, ?_, ?_⟩
  · intro number
    rw [Attempt.lastTried_append, tried]
    exact current number
  · intro number delivered either
    rw [Attempt.lastShown_append, Attempt.lastShown_delivered _ delivered]
    rcases either with kept | moved
    · rw [Attempt.lastShown_eq _ kept, tried]
      exact current number
    · rw [← told] at moved
      have posted := watch.positions_next relay
      rw [if_pos moved] at posted
      have self := Position.bne_self number
      simpa [Attempt.lastTried, posted, bne] using self
  · intro same
    have silent := watch.positions_next relay
    rw [told, if_neg (by simp [bne, same])] at silent
    refine ⟨silent, ?_⟩
    rw [Attempt.lastShown_append, Attempt.lastShown_silent _ silent]

theorem session_move (watch : Watch) (move : Move) :
    (watch.move move).session = (watch.session.move move).2 := by
  simp only [Watch.move]
  split <;> rfl

theorem Remembers.move {watch : Watch} (remembers : watch.Remembers)
    (phased : watch.session.Phased) (move : Move) : (watch.move move).Remembers := by
  intro relay waiting
  rw [session_move] at waiting
  have relays := relays_move phased move
  simp only [Watch.move]
  generalize (watch.session.move move).1 = attempts at relays
  generalize (watch.session.move move).2 = after at relays waiting ⊢
  cases relays with
  | kept _ same =>
    have before : watch.session.worker = .waiting relay := same.symm.trans waiting
    simp only [isRelaying, before, Worker.relay?, Option.isSome_some, Bool.not_true,
      Bool.false_and, Bool.false_eq_true, if_false, List.append_nil]
    exact remembers relay before
  | ended _ absent => cases absent.symm.trans waiting
  | started _ other before now told =>
    cases now.symm.trans waiting
    simp only [isRelaying, before, now, Worker.relay?, Option.isSome_some, Option.isSome_none,
      Bool.not_false, Bool.true_and, if_true]
    exact told
  | cycled other before =>
    simp only [isRelaying, before, Worker.relay?, Option.isSome_some, Bool.not_true,
      Bool.false_and, Bool.false_eq_true, if_false]
    rw [Attempt.lastTried_append, ← remembers other before, Station.lastTried_cycle]
    exact Station.toldTime_cycle waiting

theorem moveAll_remembers {watch : Watch} (moves : List Move) (phased : watch.session.Phased)
    (remembers : watch.Remembers) : (watch.moveAll moves).Remembers := by
  induction moves generalizing watch with
  | nil => exact remembers
  | cons move rest ih =>
    refine ih ?_ (remembers.move phased move)
    rw [session_move]
    exact phased.move move

end Watch

end Session

/-- The application takes all messages from a channel with room for one, after the position of the
clock was refused. -/
def overloadedMoves : List Session.Move :=
  [.operate (.activate { inboxSize := 1 }), .operate (.perform (.report .audio 1)), .settle,
    .operate (.perform (.report .audio 2)), .settle, .operate .collect]

/-- A position that was refused is not tried again. -/
theorem overload_leaves_stale :
    ¬ ((Session.Watch.ofCatalog {}).moveAll overloadedMoves).Converges := by
  intro converges
  have stale := converges { toldTime := 2, overflowing := true, interval := 100 }
    (by decide +kernel) (by decide +kernel) (by decide +kernel) (by decide +kernel)
  revert stale
  decide +kernel

/-- The position that the relay tries last is always the one that it sees. After a cycle without a
refusal the application knows it too, if the last position before was not refused or is not that of
the clock any more; otherwise nothing is posted, and the application keeps the position it has. -/
theorem position_keeps_up (catalog : Catalog) (moves : List Session.Move) (relay : Relay)
    (waiting : ((Session.Watch.ofCatalog catalog).moveAll moves).session.worker = .waiting relay) :
    ((Session.Watch.ofCatalog catalog).moveAll moves).KeepsUp relay := by
  have fresh : (Session.Watch.ofCatalog catalog).Remembers := by
    intro relay waiting
    cases waiting
  have remembers :=
    Session.Watch.moveAll_remembers moves (Session.phased_new catalog) fresh
  exact remembers.keepsUp waiting

theorem position_keeps_up_overloaded :
    let watch := (Session.Watch.ofCatalog {}).moveAll overloadedMoves
    watch.session.worker = .waiting { toldTime := 2, overflowing := true, interval := 100 } ∧
      watch.KeepsUp { toldTime := 2, overflowing := true, interval := 100 } := by
  have waiting : ((Session.Watch.ofCatalog {}).moveAll overloadedMoves).session.worker =
      .waiting { toldTime := 2, overflowing := true, interval := 100 } := by decide +kernel
  exact ⟨waiting, position_keeps_up {} overloadedMoves _ waiting⟩

end AudioHost
