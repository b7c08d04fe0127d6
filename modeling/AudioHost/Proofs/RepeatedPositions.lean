import AudioHost.Proofs.ToldPosition

/-!
# Positions that are told again

A relay that wakes compares the position of the clock with the one that it remembers. For numbers
that tells whether the clock was moved since. A position that is not a number differs from itself,
so it is told again by every cycle.
-/

set_option autoImplicit false

namespace AudioHost.Station

/-- After an operation the relay may see its signal, or not yet. -/
inductive Move where
  | operate (command : Command)
  | settle
deriving DecidableEq

def move (station : Station) : Move → List Attempt × Station
  | .operate command => (station.apply command).2
  | .settle => station.settle

/-- What bears on the positions that are told: a relay has started, a report was taken or the clock
has jumped, or the relay has run a cycle. -/
inductive Moment where
  | started (time : Position)
  | moved
  | cycled (time : Position) (attempts : List Attempt)
deriving DecidableEq

def roused? (station : Station) : Move → Option Relay
  | .operate .lapse => station.worker.relay?
  | .settle => if station.hub.signal.raised then station.worker.relay? else none
  | _ => none

def moment? (station : Station) (move : Move) : Option Moment :=
  match move with
  | .operate (.start _) => some (.started station.hub.time)
  | .operate (.report source time) =>
    if (station.hub.report source time).1.isTaken then some .moved else none
  | .operate (.jump _) => some .moved
  | move => (station.roused? move).map fun _ => .cycled station.hub.time (station.move move).1

structure Diary where
  station : Station
  moments : List Moment := []

namespace Diary

def move (diary : Diary) (move : Move) : Diary :=
  ⟨(diary.station.move move).2, diary.moments ++ (diary.station.moment? move).toList⟩

def blank (hub : Hub) (channel : Channel) : Diary := ⟨⟨hub, channel, .absent⟩, []⟩

def moveAll (diary : Diary) (moves : List Move) : Diary := moves.foldl move diary

end Diary

/-- A position is tried only if the clock was moved since the relay has started or last looked. -/
def Diary.NeverRepeats (diary : Diary) : Prop :=
  ∀ before time attempts, before ++ [.cycled time attempts] <+: diary.moments →
    Attempt.positions attempts ≠ [] → before.getLast? = some .moved

def idleMoves : List Move :=
  [.operate (.start 100), .operate (.report .audio .nan), .settle, .operate .lapse]

/-- A position that is not a number is tried again, though nothing has moved the clock. -/
theorem nan_repeats : ¬ ((Diary.blank {} { capacity := 64 }).moveAll idleMoves).NeverRepeats := by
  intro never
  have again := never [.started 0, .moved, .cycled .nan [⟨.position .nan, .delivered⟩]] .nan
    [⟨.position .nan, .delivered⟩] (by decide +kernel) (by decide +kernel)
  revert again
  decide +kernel

def Moment.seen? : Moment → Option Position
  | .started time => some time
  | .moved => none
  | .cycled time _ => some time

def lastSeen? (moments : List Moment) : Option Position := (moments.filterMap Moment.seen?).getLast?

/-- What a cycle tells at a position, `seen` being the one that the relay saw last. -/
structure Tells (before : List Moment) (time : Position) (attempts : List Attempt)
    (seen : Position) : Prop where
  latest : lastSeen? before = some seen
  positions : Attempt.positions attempts = if time != seen then [time] else []
  unmoved : before.getLast? ≠ some .moved → time = seen
  quiet : before.getLast? ≠ some .moved → time.isNaN = false → Attempt.positions attempts = []
  again : before.getLast? ≠ some .moved → time.isNaN = true → Attempt.positions attempts = [time]

inductive Affects (station : Station) : Option Moment → Station → Prop where
  | apart (after : Station) (worker : after.worker = station.worker)
      (time : after.hub.time = station.hub.time) : Affects station none after
  | ended (after : Station) (idle : ∀ relay, after.worker ≠ .waiting relay) :
      Affects station none after
  | started (after : Station) (relay : Relay) (waiting : after.worker = .waiting relay)
      (told : relay.toldTime = station.hub.time) (time : after.hub.time = station.hub.time) :
      Affects station (some (.started station.hub.time)) after
  | moved (after : Station) (worker : after.worker = station.worker) :
      Affects station (some .moved) after
  | cycled (relay : Relay) (waiting : station.worker = .waiting relay) :
      Affects station (some (.cycled station.hub.time (station.cycle relay).1))
        (station.cycle relay).2

variable {station : Station}

theorem affects_report (station : Station) (source : ClockSource) (time : Position) :
    station.Affects (if (station.hub.report source time).1.isTaken then some .moved else none)
      { station with hub := (station.hub.report source time).2 } := by
  cases authorized : station.hub.clock.authorizes source with
  | false =>
    simp only [Hub.report, Clock.report_refused time authorized]
    exact .apart _ rfl rfl
  | true =>
    cases pending : station.hub.clock.jumpPending.get with
    | true =>
      simp only [Hub.report, Clock.report_swallowed time authorized pending]
      exact .apart _ rfl rfl
    | false =>
      simp only [Hub.report, Clock.report_taken time authorized pending]
      exact .moved _ rfl

theorem affects_lapse (station : Station) :
    station.Affects (station.moment? (.operate .lapse)) station.lapse.2 := by
  cases known : station.worker.relay? with
  | none =>
    simp only [moment?, roused?, known, Option.map_none, lapse_still known]
    exact .apart _ rfl rfl
  | some relay =>
    have waiting := waiting_of_relay? known
    simp only [moment?, roused?, known, Option.map_some, move, apply, lapse_waiting waiting]
    exact .cycled relay waiting

theorem affects_settle (station : Station) :
    station.Affects (station.moment? .settle) station.settle.2 := by
  cases known : station.worker.relay? with
  | none =>
    simp only [moment?, roused?, known, ite_self, Option.map_none, settle_still known]
    exact .apart _ rfl rfl
  | some relay =>
    have waiting := waiting_of_relay? known
    by_cases raised : station.hub.signal.raised = true
    · simp only [moment?, roused?, known, raised, if_true, Option.map_some, move,
        settle_waiting waiting]
      exact .cycled relay waiting
    · simp only [moment?, roused?, raised, Bool.false_eq_true, if_false, Option.map_none,
        settle_waiting waiting]
      exact .apart _ rfl rfl

theorem affects_move (station : Station) (move : Move) :
    station.Affects (station.moment? move) (station.move move).2 := by
  cases move with
  | settle => exact station.affects_settle
  | operate command =>
    cases command with
    | report source time => exact station.affects_report source time
    | jump time => exact .moved _ rfl
    | start interval => exact .started _ _ rfl station.time_clear station.time_clear
    | stop => exact .ended _ station.worker_stop
    | clear => exact .ended _ fun relay waiting => by cases waiting
    | lapse => exact station.affects_lapse
    | onMailboxes command =>
      refine .apart _ rfl ?_
      cases command <;> rfl
    | _ => exact .apart _ rfl rfl

/-- What a relay knows: for any comparison it remembers the position that it saw last, and that is
the position of the clock unless the clock was moved since. -/
structure Remembers (moments : List Moment) (now : Position) (relay : Relay) (seen : Position) :
    Prop where
  latest : lastSeen? moments = some seen
  told : ∀ time : Position, (time != relay.toldTime) = (time != seen)
  unmoved : moments.getLast? ≠ some .moved → now = seen

theorem Remembers.tells {moments : List Moment} {relay : Relay} {seen : Position}
    (remembers : Remembers moments station.hub.time relay seen) :
    Tells moments station.hub.time (station.cycle relay).1 seen := by
  have positions : Attempt.positions (station.cycle relay).1 =
      if station.hub.time != seen then [station.hub.time] else [] := by
    rw [positions_cycle, remembers.told]
  refine ⟨remembers.latest, positions, remembers.unmoved, ?_, ?_⟩
  · intro still number
    rw [positions, ← remembers.unmoved still, Position.bne_self number]
    rfl
  · intro still other
    rw [positions, ← remembers.unmoved still, if_pos (Position.bne_of_isNaN other)]

namespace Diary

structure Truthful (diary : Diary) : Prop where
  tells : ∀ before time attempts, before ++ [.cycled time attempts] <+: diary.moments →
    ∃ seen, Tells before time attempts seen
  remembers : ∀ relay, diary.station.worker = .waiting relay →
    ∃ seen, Remembers diary.moments diary.station.hub.time relay seen

variable {diary : Diary}

theorem Truthful.add {after : Station} {moment : Moment} (truthful : diary.Truthful)
    (tells : ∀ time attempts, moment = .cycled time attempts →
      ∃ seen, Tells diary.moments time attempts seen)
    (remembers : ∀ relay, after.worker = .waiting relay →
      ∃ seen, Remembers (diary.moments ++ [moment]) after.hub.time relay seen) :
    Truthful ⟨after, diary.moments ++ [moment]⟩ := by
  refine ⟨fun before time attempts cycles => ?_, remembers⟩
  -- The cycle in question is the new moment, or was there before.
  rcases List.prefix_concat_iff.mp cycles with last | earlier
  · obtain ⟨rfl, same⟩ := List.append_inj' last rfl
    exact tells time attempts (List.singleton_inj.mp same).symm
  · exact truthful.tells before time attempts earlier

theorem Truthful.affects {after : Station} {moment : Option Moment} (truthful : diary.Truthful)
    (affects : diary.station.Affects moment after) :
    Truthful ⟨after, diary.moments ++ moment.toList⟩ := by
  cases affects with
  | apart _ worker time =>
    rw [Option.toList_none, List.append_nil]
    refine ⟨truthful.tells, fun relay waiting => ?_⟩
    rw [time]
    exact truthful.remembers relay (worker.symm.trans waiting)
  | ended _ idle =>
    rw [Option.toList_none, List.append_nil]
    exact ⟨truthful.tells, fun relay waiting => absurd waiting (idle relay)⟩
  | started _ relay waiting told time =>
    refine truthful.add (fun _ _ other => by cases other) fun next now => ?_
    cases waiting.symm.trans now
    refine ⟨diary.station.hub.time, by simp [lastSeen?, Moment.seen?], fun _ => ?_, fun _ => time⟩
    rw [told]
  | moved _ worker =>
    refine truthful.add (fun _ _ other => by cases other) fun relay waiting => ?_
    -- The clock may be anywhere now, but the relay remembers what it did.
    obtain ⟨seen, remembers⟩ := truthful.remembers relay (worker.symm.trans waiting)
    refine ⟨seen, ?_, remembers.told, fun still => absurd (by simp) still⟩
    simpa [lastSeen?, Moment.seen?] using remembers.latest
  | cycled relay waiting =>
    obtain ⟨seen, remembers⟩ := truthful.remembers relay waiting
    refine truthful.add ?_ fun next now => ?_
    · rintro _ _ ⟨⟩
      exact ⟨seen, remembers.tells⟩
    · refine ⟨diary.station.hub.time, by simp [lastSeen?, Moment.seen?], ?_, fun _ => rfl⟩
      rw [toldTime_cycle now]
      exact relay.bne_told _

theorem Truthful.move (truthful : diary.Truthful) (move : Move) : (diary.move move).Truthful :=
  truthful.affects (diary.station.affects_move move)

theorem Truthful.moveAll (truthful : diary.Truthful) (moves : List Move) :
    (diary.moveAll moves).Truthful := by
  induction moves generalizing diary with
  | nil => exact truthful
  | cons move rest ih => exact ih (truthful.move move)

theorem truthful_blank (hub : Hub) (channel : Channel) : (blank hub channel).Truthful where
  tells before time attempts cycles := absurd (List.prefix_nil.mp cycles) (by simp)
  remembers := by
    rintro relay ⟨⟩

end Diary

/-- In whatever order things happen at a station, a cycle tells the position just when it differs
from the one that the relay saw last. So a position that is a number is told only if the clock was
moved since then; one that is not a number is told by every cycle. -/
theorem positions_told_anew (hub : Hub) (channel : Channel) (moves : List Move)
    (before : List Moment) (time : Position) (attempts : List Attempt)
    (cycles : before ++ [.cycled time attempts] <+:
      ((Diary.blank hub channel).moveAll moves).moments) :
    ∃ seen, Tells before time attempts seen :=
  ((Diary.truthful_blank hub channel).moveAll moves).tells before time attempts cycles

def wokenMoves : List Move :=
  [.operate (.start 100), .operate (.report .audio 2), .settle, .operate .wake, .settle]

/-- The relay is woken at the position that it has told, and tells nothing. -/
theorem positions_told_anew_woken :
    [.started 0, .moved, .cycled 2 [⟨.position 2, .delivered⟩], .cycled 2 []] <+:
        ((Diary.blank {} { capacity := 64 }).moveAll wokenMoves).moments ∧
      ∃ seen, Tells [.started 0, .moved, .cycled 2 [⟨.position 2, .delivered⟩]] 2 [] seen := by
  have cycles : [.started 0, .moved, .cycled 2 [⟨.position 2, .delivered⟩], .cycled 2 []] <+:
      ((Diary.blank {} { capacity := 64 }).moveAll wokenMoves).moments := by decide +kernel
  exact ⟨cycles, positions_told_anew {} { capacity := 64 } wokenMoves _ 2 [] cycles⟩

end AudioHost.Station
