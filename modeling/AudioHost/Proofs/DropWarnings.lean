import AudioHost.Proofs.RepeatedPositions

/-!
# Warnings of dropped messages

A relay that finds the channel full tells the log, and does not tell it again until a message has
gone through. So each run of refusals is told once, by the first of them. Posts to a channel that
nobody reads are not told at all, and change nothing about it.
-/

set_option autoImplicit false

namespace AudioHost

/-- The latest of some outcomes that came from a channel with a reader. -/
def lastHeard? (outcomes : List PostOutcome) : Option PostOutcome :=
  (outcomes.filter (· ≠ .disconnected)).getLast?

/-- The last outcome is a refusal, and the one heard before it, if there is one, was none. -/
def Opens (outcomes : List PostOutcome) : Prop :=
  outcomes.getLast? = some .full ∧ ∀ last ∈ lastHeard? outcomes.dropLast, last = .delivered

instance (outcomes : List PostOutcome) : Decidable (Opens outcomes) :=
  inferInstanceAs (Decidable (_ ∧ _))

/-- How many times refusals have set in. -/
def openings (outcomes : List PostOutcome) : Nat := outcomes.inits.countP fun part => Opens part

theorem lastHeard?_append (left right : List PostOutcome) :
    lastHeard? (left ++ right) = (lastHeard? right).or (lastHeard? left) := by
  simp [lastHeard?, List.getLast?_append]

theorem lastHeard?_concat (before : List PostOutcome) (outcome : PostOutcome) :
    lastHeard? (before ++ [outcome]) =
      if outcome = .disconnected then lastHeard? before else some outcome := by
  rw [lastHeard?_append]
  cases outcome <;> rfl

theorem mem_of_lastHeard? {outcomes : List PostOutcome} {last : PostOutcome}
    (heard : lastHeard? outcomes = some last) : last ∈ outcomes ∧ last ≠ .disconnected := by
  simpa using List.mem_filter.mp (List.mem_of_getLast? heard)

theorem opens_concat_iff (before : List PostOutcome) (outcome : PostOutcome) :
    Opens (before ++ [outcome]) ↔
      outcome = .full ∧ ∀ last ∈ lastHeard? before, last = .delivered := by
  simp [Opens]

/-- Only refusals and deliveries are heard of. -/
theorem opens_full_iff (before : List PostOutcome) :
    Opens (before ++ [.full]) ↔ lastHeard? before ≠ some .full := by
  rw [opens_concat_iff]
  cases known : lastHeard? before with
  | none => simp
  | some last =>
    have heard := (mem_of_lastHeard? known).2
    cases last <;> simp_all

theorem openings_concat (before : List PostOutcome) (outcome : PostOutcome) :
    openings (before ++ [outcome]) =
      openings before + if Opens (before ++ [outcome]) then 1 else 0 := by
  simp [openings, List.inits_append]

/-- A message that a relay posted, and whether it told the log thereupon. -/
structure Post where
  attempt : Attempt
  warned : Bool
deriving DecidableEq

def Post.outcome (post : Post) : PostOutcome := post.attempt.outcome

theorem Post.map_outcome {posts : List Post} {attempts : List Attempt}
    (made : posts.map Post.attempt = attempts) :
    posts.map Post.outcome = attempts.map Attempt.outcome := by
  rw [← made, List.map_map]
  rfl

def Relay.posts (relay : Relay) : List Attempt → List Post
  | [] => []
  | attempt :: rest =>
    let (warned, relay) := relay.observe attempt.outcome
    ⟨attempt, warned⟩ :: relay.posts rest

theorem Relay.map_attempt_posts (relay : Relay) (attempts : List Attempt) :
    (relay.posts attempts).map Post.attempt = attempts := by
  induction attempts generalizing relay with
  | nil => rfl
  | cons attempt rest ih => simp [posts, ih]

@[simp] theorem Relay.overflowing_told (relay : Relay) (time : Position) :
    (relay.told time).overflowing = relay.overflowing := by
  simp only [told]
  split <;> rfl

/-- The number of warnings that a relay gives out is that of the posts at which it does so. -/
theorem Relay.countP_posts (relay : Relay) (attempts : List Attempt) :
    (relay.posts attempts).countP Post.warned =
      (relay.observeAll (attempts.map Attempt.outcome)).1 := by
  induction attempts generalizing relay with
  | nil => rfl
  | cons attempt rest ih =>
    simp only [posts, List.countP_cons, ih, List.map_cons, observeAll]
    cases (relay.observe attempt.outcome).1 <;> simp [Nat.add_comm]

/-- Each post is warned of just when it begins a run of refusals. -/
def WarnsAtOpenings (posts : List Post) : Prop :=
  ∀ (before : List Post) (post : Post), before ++ [post] <+: posts →
    (post.warned = true ↔ Opens ((before ++ [post]).map Post.outcome))

/-- A relay knows of the posts so far whether the last one heard of was refused. -/
structure Tallies (posts : List Post) (overflowing : Bool) : Prop where
  latch : overflowing = true ↔ lastHeard? (posts.map Post.outcome) = some .full
  warns : WarnsAtOpenings posts

section

variable {posts : List Post}

theorem tallies_nil : Tallies [] false where
  latch := by decide
  warns before post within := absurd (List.prefix_nil.mp within) (by simp)

theorem WarnsAtOpenings.concat (warns : WarnsAtOpenings posts) {post : Post}
    (opens : post.warned = true ↔ Opens ((posts ++ [post]).map Post.outcome)) :
    WarnsAtOpenings (posts ++ [post]) := by
  intro before last within
  -- The post in question is the new one, or was there before.
  rcases List.prefix_concat_iff.mp within with whole | earlier
  · obtain ⟨rfl, same⟩ := List.append_inj' whole rfl
    cases List.singleton_inj.mp same
    exact opens
  · exact warns before last earlier

theorem Tallies.observe {relay : Relay} (tallies : Tallies posts relay.overflowing)
    (attempt : Attempt) :
    Tallies (posts ++ [⟨attempt, (relay.observe attempt.outcome).1⟩])
      (relay.observe attempt.outcome).2.overflowing := by
  have latch := tallies.latch
  constructor
  · rw [List.map_append, List.map_singleton, lastHeard?_concat, Post.outcome]
    cases attempt.outcome <;> simp [Relay.observe, latch]
  · refine tallies.warns.concat ?_
    rw [List.map_append, List.map_singleton, Post.outcome]
    cases attempt.outcome with
    | full =>
      rw [Relay.observe, opens_full_iff, Bool.not_eq_true', ← Bool.not_eq_true, latch]
    | _ => simp [Relay.observe, opens_concat_iff]

theorem Tallies.observeAll {relay : Relay} (tallies : Tallies posts relay.overflowing)
    (attempts : List Attempt) :
    Tallies (posts ++ relay.posts attempts)
      (relay.observeAll (attempts.map Attempt.outcome)).2.overflowing := by
  induction attempts generalizing relay posts with
  | nil => simpa [Relay.posts, Relay.observeAll] using tallies
  | cons attempt rest ih =>
    simpa [Relay.posts, Relay.observeAll] using ih (tallies.observe attempt)

theorem WarnsAtOpenings.initial {more : List Post} (warns : WarnsAtOpenings (posts ++ more)) :
    WarnsAtOpenings posts :=
  fun before post within => warns before post (within.trans (List.prefix_append posts more))

theorem WarnsAtOpenings.countP (warns : WarnsAtOpenings posts) :
    posts.countP Post.warned = openings (posts.map Post.outcome) := by
  induction posts using List.reverseRecOn with
  | nil => rfl
  | append_singleton posts post ih =>
    have last := warns posts post List.prefix_rfl
    rw [List.map_append, List.map_singleton] at last ⊢
    rw [List.countP_append, List.countP_singleton, ih warns.initial, openings_concat]
    simp only [last]

/-- A relay that has not met a full channel yet warns once for each time that refusals set in, in
whatever way its posts turn out. -/
theorem Relay.observeAll_eq_openings {relay : Relay} (fresh : relay.overflowing = false)
    (attempts : List Attempt) :
    (relay.observeAll (attempts.map Attempt.outcome)).1 =
      openings (attempts.map Attempt.outcome) := by
  have tallies : Tallies [] relay.overflowing := by
    rw [fresh]
    exact tallies_nil
  have warns := (tallies.observeAll attempts).warns
  rw [List.nil_append] at warns
  rw [← relay.countP_posts, warns.countP, Post.map_outcome (relay.map_attempt_posts attempts)]

/-- After a warning and before the next one, a message goes through. -/
theorem WarnsAtOpenings.between (warns : WarnsAtOpenings posts) {before middle : List Post}
    {first second : Post} (within : before ++ first :: middle ++ [second] <+: posts)
    (one : first.warned = true) (two : second.warned = true) :
    ∃ post ∈ middle, post.outcome = .delivered := by
  have earlier : before ++ [first] <+: posts :=
    List.IsPrefix.trans ⟨middle ++ [second], by simp⟩ within
  have began := (warns before first earlier).mp one
  have again := (warns _ second within).mp two
  rw [List.map_append, List.map_singleton, opens_concat_iff] at began again
  -- What was heard last before the second warning is the first one's refusal, or came after it.
  have heard : lastHeard? ((first :: middle).map Post.outcome) ≠ none := by
    simp [lastHeard?, began.1]
  obtain ⟨last, known⟩ := Option.ne_none_iff_exists'.mp heard
  have through : last = .delivered := again.2 last <| by
    rw [List.map_append, lastHeard?_append, known]
    rfl
  obtain ⟨post, member, rfl⟩ := List.mem_map.mp (mem_of_lastHeard? known).1
  rcases List.mem_cons.mp member with rfl | later
  · rw [began.1] at through
    cases through
  · exact ⟨post, later, through⟩

/-- While the last post heard of was refused, a warning has been given, and neither another one
nor a message that went through has come after it. -/
theorem WarnsAtOpenings.once (warns : WarnsAtOpenings posts)
    (refused : lastHeard? (posts.map Post.outcome) = some .full) :
    ∃ (before : List Post) (first : Post) (stretch : List Post),
      posts = before ++ first :: stretch ∧ first.warned = true ∧
      ∀ post ∈ stretch, post.warned = false ∧ post.outcome ≠ .delivered := by
  induction posts using List.reverseRecOn with
  | nil => cases refused
  | append_singleton posts post ih =>
    have opens := warns posts post List.prefix_rfl
    rw [List.map_append, List.map_singleton] at opens refused
    rw [lastHeard?_concat] at refused
    by_cases here : post.warned = true
    · exact ⟨posts, post, [], rfl, here, by simp⟩
    · -- The post belongs to a run of refusals that has begun before.
      have stopped : post.outcome ≠ .delivered := by
        intro through
        simp [through] at refused
      have still : lastHeard? (posts.map Post.outcome) = some .full := by
        by_cases unheard : post.outcome = .disconnected
        · simpa [unheard] using refused
        · have full : post.outcome = .full := by simpa [unheard] using refused
          rwa [opens, full, opens_full_iff, not_not] at here
      obtain ⟨before, first, stretch, rfl, warned, quiet⟩ := ih warns.initial still
      refine ⟨before, first, stretch ++ [post], by simp, warned, ?_⟩
      intro later member
      rcases List.mem_append.mp member with among | last
      · exact quiet later among
      · rw [List.mem_singleton.mp last]
        exact ⟨by simpa using here, stopped⟩

end

def Notice.isDropWarning : Notice → Bool
  | .droppingMessages _ => true
  | _ => false

def Hub.dropWarnings (hub : Hub) : List Notice := hub.notices.toList.filter Notice.isDropWarning

namespace Station

def Move.starts : Move → Bool
  | .operate (.start _) => true
  | _ => false

def moveAll (station : Station) (moves : List Move) : Station :=
  moves.foldl (fun station move => (station.move move).2) station

/-- The messages that are posted in a run, in the order in which they are. -/
def attempts (station : Station) : List Move → List Attempt
  | [] => []
  | move :: rest => (station.move move).1 ++ (station.move move).2.attempts rest

/-- The posts of the relay that runs in a move. -/
def posts (station : Station) (move : Move) : List Post :=
  match station.roused? move with
  | none => []
  | some relay => (relay.told station.hub.time).posts (station.move move).1

def postsAll (station : Station) : List Move → List Post
  | [] => []
  | move :: rest => station.posts move ++ (station.move move).2.postsAll rest

/-- Nothing that bears on dropped messages: no warning, and no other relay. -/
structure Quiet (before after : Station) : Prop where
  warnings : after.hub.dropWarnings = before.hub.dropWarnings
  capacity : after.channel.capacity = before.channel.capacity
  worker : ∀ relay, after.worker = .waiting relay → before.worker = .waiting relay

inductive Proceeds (station : Station) (move : Move) : List Attempt × Station → Prop where
  | quiet (after : Station) (still : station.roused? move = none) (quiet : Quiet station after) :
      Proceeds station move ([], after)
  | cycle (relay : Relay) (roused : station.roused? move = some relay)
      (waiting : station.worker = .waiting relay) : Proceeds station move (station.cycle relay)

variable {station : Station}

theorem dropWarnings_note (hub : Hub) {notice : Notice} (other : notice.isDropWarning = false) :
    (hub.note notice).dropWarnings = hub.dropWarnings := by
  simp [Hub.dropWarnings, Hub.note, other]

theorem dropWarnings_report (hub : Hub) (source : ClockSource) (time : Position) :
    (hub.report source time).2.dropWarnings = hub.dropWarnings := by
  simp only [Hub.report]
  split <;> rfl

theorem dropWarnings_onMailboxes (hub : Hub) (command : Mailboxes.Command) :
    (hub.onMailboxes command).2.dropWarnings = hub.dropWarnings := by
  cases command with
  | renew name capacity => exact dropWarnings_note hub rfl
  | _ => rfl

theorem quiet_refl (station : Station) : Quiet station station := ⟨rfl, rfl, fun _ same => same⟩

theorem quiet_stop (station : Station) : Quiet station station.stop where
  warnings := by
    simp only [stop]
    split
    · exact dropWarnings_note _ rfl
    · rfl
  capacity := congrArg Channel.capacity station.channel_stop
  worker relay waiting := absurd waiting (station.worker_stop relay)

theorem Quiet.withHub {hub : Hub} (warnings : hub.dropWarnings = station.hub.dropWarnings) :
    Quiet station { station with hub } :=
  ⟨warnings, rfl, fun _ same => same⟩

theorem Quiet.withChannel {channel : Channel}
    (capacity : channel.capacity = station.channel.capacity) :
    Quiet station { station with channel } :=
  ⟨rfl, capacity, fun _ same => same⟩

theorem proceeds_lapse (station : Station) :
    station.Proceeds (.operate .lapse) station.lapse := by
  cases known : station.worker.relay? with
  | none =>
    rw [lapse_still known]
    exact .quiet station known station.quiet_refl
  | some relay =>
    have waiting := waiting_of_relay? known
    rw [lapse_waiting waiting]
    exact .cycle relay known waiting

theorem proceeds_settle (station : Station) : station.Proceeds .settle station.settle := by
  cases known : station.worker.relay? with
  | none =>
    rw [settle_still known]
    exact .quiet station (by simp [roused?, known]) station.quiet_refl
  | some relay =>
    have waiting := waiting_of_relay? known
    rw [settle_waiting waiting]
    split
    next raised => exact .cycle relay (by simp [roused?, raised, known]) waiting
    next down => exact .quiet station (by simp [roused?, down]) station.quiet_refl

theorem proceeds (station : Station) {move : Move} (same : move.starts = false) :
    station.Proceeds move (station.move move) := by
  cases move with
  | settle => exact station.proceeds_settle
  | operate command =>
    cases command with
    | start interval => cases same
    | lapse => exact station.proceeds_lapse
    | stop => exact .quiet _ rfl station.quiet_stop
    | clear =>
      refine .quiet _ rfl ⟨station.quiet_stop.warnings, station.quiet_stop.capacity, ?_⟩
      rintro relay ⟨⟩
    | onMailboxes command => exact .quiet _ rfl (.withHub (dropWarnings_onMailboxes _ command))
    | report source time => exact .quiet _ rfl (.withHub (dropWarnings_report _ source time))
    | receive => exact .quiet _ rfl (.withChannel (Channel.capacity_receive _))
    | openReceiver => exact .quiet _ rfl (.withChannel (Channel.capacity_openReceiver _))
    | closeReceiver => exact .quiet _ rfl (.withChannel (Channel.capacity_closeReceiver _))
    | _ => exact .quiet _ rfl ⟨rfl, rfl, fun _ same => same⟩

/-- What a station keeps as long as no other relay is started: the log has a warning for each post
that was to have one, and the relay knows how the posts went. -/
structure Tallied (station : Station) (earlier : List Notice) (room : Nat) (posts : List Post) :
    Prop where
  fixed : station.channel.capacity = room
  logged : station.hub.dropWarnings =
    earlier ++ List.replicate (posts.countP Post.warned) (.droppingMessages room)
  warns : WarnsAtOpenings posts
  knows : ∀ relay, station.worker = .waiting relay → Tallies posts relay.overflowing

theorem tallied_start (station : Station) (interval : Nat) :
    (station.start interval).Tallied (station.start interval).hub.dropWarnings
      (station.start interval).channel.capacity [] where
  fixed := rfl
  logged := (List.append_nil _).symm
  warns := tallies_nil.warns
  knows := by
    rintro relay ⟨⟩
    exact tallies_nil

theorem dropWarnings_cycle (station : Station) (relay : Relay) :
    (station.cycle relay).2.hub.dropWarnings = station.hub.dropWarnings ++ List.replicate
      (((relay.told station.hub.time).posts (station.cycle relay).1).countP Post.warned)
      (.droppingMessages station.channel.capacity) := by
  rw [Relay.countP_posts]
  simp only [Hub.dropWarnings, cycle, Array.toList_appendList, List.filter_append]
  rw [List.filter_replicate_of_pos rfl]
  rfl

section

variable {earlier : List Notice} {room : Nat} {posts : List Post}

theorem Tallied.quiet {after : Station} (tallied : station.Tallied earlier room posts)
    (quiet : Quiet station after) : after.Tallied earlier room posts where
  fixed := quiet.capacity.trans tallied.fixed
  logged := quiet.warnings.trans tallied.logged
  warns := tallied.warns
  knows relay waiting := tallied.knows relay (quiet.worker relay waiting)

theorem Tallied.cycle {relay : Relay} (tallied : station.Tallied earlier room posts)
    (waiting : station.worker = .waiting relay) :
    (station.cycle relay).2.Tallied earlier room
      (posts ++ (relay.told station.hub.time).posts (station.cycle relay).1) := by
  have before : Tallies posts (relay.told station.hub.time).overflowing := by
    rw [Relay.overflowing_told]
    exact tallied.knows relay waiting
  have after := before.observeAll (station.cycle relay).1
  refine ⟨?_, ?_, after.warns, ?_⟩
  · exact (Channel.capacity_postAll _ _).trans tallied.fixed
  · rw [dropWarnings_cycle, tallied.logged, tallied.fixed, List.countP_append, List.append_assoc,
      List.replicate_append_replicate]
  · rintro next ⟨⟩
    exact after

theorem Tallied.move {move : Move} (tallied : station.Tallied earlier room posts)
    (same : move.starts = false) :
    (station.move move).2.Tallied earlier room (posts ++ station.posts move) := by
  have proceeds := station.proceeds same
  simp only [Station.posts]
  generalize station.move move = result at proceeds ⊢
  cases proceeds with
  | quiet after still quiet =>
    simp only [still, List.append_nil]
    exact tallied.quiet quiet
  | cycle relay roused waiting =>
    simp only [roused]
    exact tallied.cycle waiting

theorem Tallied.moveAll (tallied : station.Tallied earlier room posts) {moves : List Move}
    (alone : ∀ move ∈ moves, move.starts = false) :
    (station.moveAll moves).Tallied earlier room (posts ++ station.postsAll moves) := by
  induction moves generalizing station posts with
  | nil => simpa [moveAll, postsAll] using tallied
  | cons move rest ih =>
    have next := tallied.move (alone move List.mem_cons_self)
    have later := ih next fun other member => alone other (List.mem_cons_of_mem move member)
    rw [List.append_assoc] at later
    exact later

end

theorem map_attempt_postsAll (station : Station) {moves : List Move}
    (alone : ∀ move ∈ moves, move.starts = false) :
    (station.postsAll moves).map Post.attempt = station.attempts moves := by
  induction moves generalizing station with
  | nil => rfl
  | cons move rest ih =>
    have later := ih (station.move move).2 fun other member =>
      alone other (List.mem_cons_of_mem move member)
    have proceeds := station.proceeds (alone move List.mem_cons_self)
    rw [postsAll, attempts, List.map_append, later, posts]
    congr 1
    generalize station.move move = result at proceeds ⊢
    cases proceeds with
    | quiet after still quiet => simp [still]
    | cycle relay roused waiting =>
      simp only [roused]
      exact Relay.map_attempt_posts _ _

/-- How the log is told of dropped messages in a run of one relay. -/
structure WarnsOfDrops (station : Station) (moves : List Move) : Prop where
  posted : (station.postsAll moves).map Post.attempt = station.attempts moves
  counted : (station.moveAll moves).hub.dropWarnings =
    station.hub.dropWarnings ++ List.replicate
      (openings ((station.attempts moves).map Attempt.outcome))
      (.droppingMessages station.channel.capacity)
  warns : WarnsAtOpenings (station.postsAll moves)
  between : ∀ (before : List Post) (first : Post) (middle : List Post) (second : Post),
    before ++ first :: middle ++ [second] <+: station.postsAll moves →
      first.warned = true → second.warned = true → ∃ post ∈ middle, post.outcome = .delivered
  once : ∀ (before : List Post) (refused : Post), before ++ [refused] <+: station.postsAll moves →
    refused.outcome = .full → ∃ (earlier : List Post) (first : Post) (stretch : List Post),
      before ++ [refused] = earlier ++ first :: stretch ∧ first.warned = true ∧
        ∀ post ∈ stretch, post.warned = false ∧ post.outcome ≠ .delivered
  unheard : ∀ post ∈ station.postsAll moves, post.outcome = .disconnected → post.warned = false

theorem Tallied.warnsOfDrops {moves : List Move}
    (tallied : (station.moveAll moves).Tallied station.hub.dropWarnings station.channel.capacity
      (station.postsAll moves))
    (alone : ∀ move ∈ moves, move.starts = false) : station.WarnsOfDrops moves := by
  have posted := station.map_attempt_postsAll alone
  refine ⟨posted, ?_, tallied.warns, ?_, ?_, ?_⟩
  · rw [tallied.logged, tallied.warns.countP, Post.map_outcome posted]
  · exact fun before first middle second within => tallied.warns.between within
  · rintro before refused ⟨later, known⟩ full
    have warns := tallied.warns
    rw [← known] at warns
    refine warns.initial.once ?_
    rw [List.map_append, List.map_singleton, lastHeard?_concat, full]
    rfl
  · intro post member gone
    obtain ⟨before, later, known⟩ := List.append_of_mem member
    have within : before ++ [post] <+: station.postsAll moves := ⟨later, by simp [known]⟩
    have opens := tallied.warns before post within
    rw [List.map_append, List.map_singleton, opens_concat_iff, gone] at opens
    simpa using opens

/-- From its start until another one is started, a relay warns of dropped messages just when
refusals set in. That does not depend on whether the channel stays as it is during a cycle. -/
theorem overload_warned_once (station : Station) (interval : Nat) :
    (∀ moves : List Move, (∀ move ∈ moves, move.starts = false) →
      (station.start interval).WarnsOfDrops moves) ∧
    ∃ relay, (station.start interval).worker = .waiting relay ∧
      ∀ attempts : List Attempt, (relay.observeAll (attempts.map Attempt.outcome)).1 =
        openings (attempts.map Attempt.outcome) := by
  refine ⟨fun moves alone => ?_, _, rfl, Relay.observeAll_eq_openings rfl⟩
  have tallied := (station.tallied_start interval).moveAll alone
  rw [List.nil_append] at tallied
  exact tallied.warnsOfDrops alone

/-- The application takes the message between two runs of refusals, and then is gone. -/
def forgetfulMoves : List Move :=
  [.operate (.jump 1), .operate .lapse, .operate (.jump 2), .operate .lapse, .operate (.jump 3),
    .operate .lapse, .operate .collect, .operate (.jump 4), .operate .lapse, .operate (.jump 5),
    .operate .lapse, .operate .closeReceiver, .operate (.jump 6), .operate .lapse]

theorem overload_warned_once_forgetful :
    (∀ move ∈ forgetfulMoves, move.starts = false) ∧
      ((Station.start ⟨{}, { capacity := 1 }, .absent⟩ 100).attempts forgetfulMoves).map
          Attempt.outcome =
        [.delivered, .full, .full, .delivered, .full, .disconnected] ∧
      (Station.start ⟨{}, { capacity := 1 }, .absent⟩ 100).WarnsOfDrops forgetfulMoves := by
  have alone : ∀ move ∈ forgetfulMoves, move.starts = false := by decide
  exact ⟨alone, by decide +kernel, (overload_warned_once _ 100).1 _ alone⟩

end Station

end AudioHost
