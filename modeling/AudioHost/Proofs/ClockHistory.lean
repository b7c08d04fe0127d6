import AudioHost.Hub.Basic
import AudioHost.Proofs.RoleNames
import Mathlib.Data.List.Basic
import Mathlib.Data.List.Induction

/-!
# The history of a clock

What a clock tells, and what it answers to the next report, follows from what was done to it so
far. Here is what follows, said of the history alone.
-/

set_option autoImplicit false

namespace AudioHost

namespace Clock

/-- All that was done to a clock, the first thing first. -/
abbrev History := List Use

namespace History

/-- What is done after a history, each time with all that was done before. -/
def moments (before : History) : History → List (History × Use)
  | [] => []
  | use :: rest => (before, use) :: moments (before ++ [use]) rest

def mark? (role : Role) : Use → Option Bool
  | .markDummy name dummy => if name.role = role then some dummy else none
  | _ => none

/-- The mark that a role got last. In the beginning both are served by the dummy. -/
def marked (past : History) (role : Role) : Bool :=
  (past.filterMap (mark? role)).getLast?.getD true

def authorizes (past : History) (source : ClockSource) : Bool :=
  source.mayMove ⟨past.marked .audio, past.marked .midi⟩

/-- A jump, or a report that is authorized. -/
inductive Turn where
  | jump
  | report
deriving DecidableEq

def turn? : History × Use → Option Turn
  | (_, .jump _) => some .jump
  | (before, .report source _) => if before.authorizes source then some .report else none
  | _ => none

/-- There was a jump, and no report has been authorized since. -/
def awaits (past : History) : Bool := ((moments [] past).filterMap turn?).getLast? = some .jump

def takes (past : History) (source : ClockSource) : Bool := past.authorizes source && !past.awaits

def position? : History × Use → Option Position
  | (_, .jump time) => some time
  | (before, .report source time) => if before.takes source then some time else none
  | _ => none

/-- The position of the last jump, or of the last report taken if that came later. -/
def position (past : History) : Position := ((moments [] past).filterMap position?).getLast?.getD 0

def source? : History × Use → Option ClockSource
  | (before, .report source _) => if before.takes source then some source else none
  | _ => none

/-- Where the last report came from that was taken. -/
def lastSource (past : History) : Option ClockSource :=
  ((moments [] past).filterMap source?).getLast?

def verdict (past : History) (source : ClockSource) (time : Position) : Verdict :=
  if past.authorizes source then
    if past.awaits then .swallowed else .taken (past.position != time)
  else .refused

section

variable (past : History) (use : Use)

theorem moments_append (before first second : History) :
    moments before (first ++ second) =
      moments before first ++ moments (before ++ first) second := by
  induction first generalizing before with
  | nil => simp [moments]
  | cons use rest ih => simp [moments, ih]

theorem moments_concat : moments [] (past ++ [use]) = moments [] past ++ [(past, use)] := by
  simp [moments_append, moments]

theorem marked_concat (role : Role) :
    marked (past ++ [use]) role = (mark? role use).getD (past.marked role) := by
  cases known : mark? role use <;> simp [marked, known]

theorem awaits_concat :
    awaits (past ++ [use]) = (turn? (past, use)).elim past.awaits (· = .jump) := by
  cases known : turn? (past, use) <;> simp [awaits, moments_concat, known]

theorem position_concat :
    position (past ++ [use]) = (position? (past, use)).getD past.position := by
  cases known : position? (past, use) <;> simp [position, moments_concat, known]

theorem lastSource_concat :
    lastSource (past ++ [use]) = (source? (past, use)).or past.lastSource := by
  cases known : source? (past, use) <;> simp [lastSource, moments_concat, known]

end

/-- What the clock should be after a history. -/
def expected (past : History) : Clock where
  time := ⟨past.position⟩
  jumpPending := ⟨past.awaits⟩
  dummies := ⟨past.marked .audio, past.marked .midi⟩
  lastSource := past.lastSource

theorem report_expected (past : History) (source : ClockSource) (time : Position) :
    past.expected.report source time =
      (past.verdict source time, expected (past ++ [.report source time])) := by
  have authorizes : past.expected.authorizes source = past.authorizes source := rfl
  have marks (role : Role) : marked (past ++ [.report source time]) role = past.marked role := by
    simp [marked_concat, mark?]
  cases authorized : past.authorizes source with
  | false =>
    rw [report_refused time (authorizes.trans authorized)]
    simp [verdict, authorized, expected, marks, position_concat, awaits_concat, lastSource_concat,
      position?, turn?, source?, takes]
  | true =>
    cases pending : past.awaits with
    | true =>
      rw [report_swallowed time (authorizes.trans authorized) pending]
      simp [verdict, authorized, pending, expected, marks, position_concat, awaits_concat,
        lastSource_concat, position?, turn?, source?, takes, Cell.set]
    | false =>
      rw [report_taken time (authorizes.trans authorized) pending]
      simp [verdict, authorized, pending, expected, marks, position_concat, awaits_concat,
        lastSource_concat, position?, turn?, source?, takes, Cell.set, Cell.get]

theorem jump_expected (past : History) (time : Position) :
    past.expected.jump time = expected (past ++ [.jump time]) := by
  simp [Clock.jump, expected, marked_concat, mark?, position_concat, awaits_concat,
    lastSource_concat, position?, turn?, source?, Cell.set]

theorem markDummy_expected (past : History) (name : RoleName) (dummy : Bool) :
    past.expected.markDummy name dummy = expected (past ++ [.markDummy name dummy]) := by
  simp only [Clock.markDummy, expected, marked_concat, mark?, position_concat, awaits_concat,
    lastSource_concat, position?, turn?, source?, Option.getD_none, Option.elim_none,
    Option.none_or]
  cases name <;> rfl

theorem isDummy_expected (past : History) (name : RoleName) :
    expected (past ++ [.isDummy name]) = past.expected := by
  simp [expected, marked_concat, mark?, position_concat, awaits_concat, lastSource_concat,
    position?, turn?, source?]

/-- What is seen when something is done at that moment. -/
def shown : History × Use → Sight
  | (before, .report source time) => .verdict (before.verdict source time)
  | (_, .jump _) => .nothing
  | (_, .markDummy ..) => .nothing
  | (before, .isDummy name) => .isDummy (before.marked name.role)

/-- Whether the relay is called at that moment: for every jump, and for every report taken that
tells another position than before. -/
def raises : History × Use → Bool
  | (before, .report source time) => before.takes source && before.position != time
  | (_, .jump _) => true
  | _ => false

def raised (past : History) : Bool := (moments [] past).any raises

theorem raised_concat (past : History) (use : Use) :
    raised (past ++ [use]) = (past.raised || raises (past, use)) := by
  simp [raised, moments_concat]

theorem isMove_verdict (past : History) (source : ClockSource) (time : Position) :
    (past.verdict source time).isMove = raises (past, .report source time) := by
  cases authorized : past.authorizes source <;> cases pending : past.awaits <;>
    simp [verdict, raises, takes, authorized, pending, Verdict.isMove]

/-- There was a jump with no authorized report after it. -/
def LeftOpen (past : History) : Prop :=
  ∃ first time between, past = first ++ .jump time :: between ∧
    ∀ moment ∈ moments (first ++ [.jump time]) between, turn? moment ≠ some .report

theorem leftOpen_concat (past : History) (use : Use) :
    LeftOpen (past ++ [use]) ↔
      (∃ time, use = .jump time) ∨ past.LeftOpen ∧ turn? (past, use) ≠ some .report := by
  constructor
  · rintro ⟨first, time, between, split, quiet⟩
    rcases List.eq_nil_or_concat' between with rfl | ⟨before, last, rfl⟩
    · obtain ⟨-, only⟩ := List.append_inj' split rfl
      exact .inl ⟨time, by simpa using only⟩
    · rw [← List.cons_append, ← List.append_assoc] at split
      obtain ⟨rfl, only⟩ := List.append_inj' split rfl
      obtain rfl : use = last := by simpa using only
      simp only [moments_append, List.forall_mem_append] at quiet
      refine .inr ⟨⟨first, time, before, rfl, quiet.1⟩, ?_⟩
      simpa [moments] using quiet.2
  · rintro (⟨time, rfl⟩ | ⟨⟨first, time, between, rfl, quiet⟩, calm⟩)
    · exact ⟨past, time, [], rfl, by simp [moments]⟩
    · refine ⟨first, time, between ++ [use], by simp, ?_⟩
      simp only [moments_append, List.forall_mem_append]
      refine ⟨quiet, ?_⟩
      simpa [moments] using calm

theorem awaits_iff_leftOpen (past : History) : past.awaits = true ↔ past.LeftOpen := by
  induction past using List.reverseRecOn with
  | nil => simp [awaits, moments, LeftOpen]
  | append_singleton past use ih =>
    rw [awaits_concat, leftOpen_concat, ← ih]
    cases use with
    | report source time =>
      cases authorized : authorizes past source <;> simp [turn?, authorized]
    | jump time => simp [turn?]
    | markDummy name dummy => simp [turn?]
    | isDummy name => simp [turn?]

/-- One report is the price of however many jumps. -/
theorem not_leftOpen_report {past : History} {source : ClockSource} (time : Position)
    (authorized : past.authorizes source = true) {calm : History}
    (still : ∀ use ∈ calm, ∀ other, use ≠ .jump other) :
    ¬ LeftOpen (past ++ .report source time :: calm) := by
  induction calm using List.reverseRecOn with
  | nil => simp [leftOpen_concat, turn?, authorized]
  | append_singleton calm use ih =>
    obtain ⟨before, last⟩ := List.forall_mem_append.mp still
    rw [← List.cons_append, ← List.append_assoc, leftOpen_concat]
    rintro (⟨other, rfl⟩ | ⟨opened, -⟩)
    · exact last _ List.mem_cons_self other rfl
    · exact ih before opened

theorem authorizes_outranked {past : History} {source : ClockSource}
    (lower : source ≠ .audio) (real : past.marked .audio = false) :
    past.authorizes source = false := by
  cases source <;> simp_all [authorizes, ClockSource.mayMove]

end History

end Clock

namespace Hub

/-- What can be done to a clock, done to that of a hub. -/
def use (hub : Hub) : Clock.Use → Clock.Sight × Hub
  | .report source time => (hub.report source time).map .verdict id
  | .jump time => (.nothing, hub.jump time)
  | .markDummy name dummy => (.nothing, hub.markDummy name dummy)
  | .isDummy name => (.isDummy (hub.clock.isDummy name), hub)

/-- The hub as it is after a history of its clock, if nothing else was done. -/
def after (hub : Hub) (past : Clock.History) : Hub :=
  { hub with
    clock := past.expected
    signal := ⟨hub.signal.raised || past.raised⟩ }

theorem after_report (hub : Hub) (past : Clock.History) (source : ClockSource) (time : Position) :
    (hub.after past).report source time =
      (past.verdict source time, hub.after (past ++ [.report source time])) := by
  simp only [report, after, past.report_expected source time,
    past.raised_concat (.report source time), past.isMove_verdict source time]
  split
  next moved => simp [wake, Signal.raise, moved]
  next still => simp [still]

theorem after_use (hub : Hub) (past : Clock.History) (use : Clock.Use) :
    (hub.after past).use use = (Clock.History.shown (past, use), hub.after (past ++ [use])) := by
  cases use with
  | report source time =>
    simp only [Hub.use, after_report, Prod.map, Clock.History.shown, id]
  | jump time =>
    simp [Hub.use, after, jump, wake, Clock.History.shown, past.jump_expected time, Signal.raise,
      past.raised_concat, Clock.History.raises]
  | markDummy name dummy =>
    simp [Hub.use, after, markDummy, Clock.History.shown, past.markDummy_expected name dummy,
      past.raised_concat, Clock.History.raises]
  | isDummy name =>
    have told : past.expected.isDummy name = past.marked name.role := by
      simp only [Clock.isDummy, Clock.History.expected]
      cases name <;> rfl
    simp [Hub.use, after, Clock.History.shown, past.isDummy_expected name, told,
      past.raised_concat, Clock.History.raises]

theorem run_use (hub : Hub) (fresh : hub.clock = {}) (past : Clock.History) :
    Step.run Hub.use hub past =
      ((Clock.History.moments [] past).map Clock.History.shown, hub.after past) := by
  induction past using List.reverseRecOn with
  | nil =>
    have same : hub.after [] = hub := by
      cases hub
      subst fresh
      simp [after, Clock.History.raised, Clock.History.moments]
      rfl
    simp [Step.run, Clock.History.moments, same]
  | append_singleton past use ih =>
    simp [Step.run_append, ih, Step.run, hub.after_use past use, Clock.History.moments_concat]

/-- What a hub does with a history of its clock, and where that leaves it. -/
structure GoesThrough (hub : Hub) (past : Clock.History) : Prop where
  shows : (Step.run Hub.use hub past).1 =
    (Clock.History.moments [] past).map Clock.History.shown
  ends : (Step.run Hub.use hub past).2 = hub.after past
  takes : ∀ source time, ((hub.after past).report source time).1.isTaken = true ↔
    past.authorizes source = true ∧ ¬ past.LeftOpen
  swallows : ∀ source time, ((hub.after past).report source time).1 = .swallowed ↔
    past.authorizes source = true ∧ past.LeftOpen
  /-- An authorized report settles all jumps before it. -/
  settles : ∀ source time calm, past.authorizes source = true →
    (∀ use ∈ calm, ∀ other, use ≠ .jump other) →
      ¬ Clock.History.LeftOpen (past ++ .report source time :: calm)
  refuses : ∀ source time, past.authorizes source = false →
    (hub.after past).report source time = (.refused, hub.after past)
  /-- While audio is not served by a dummy, nothing but an audio clock moves the position. -/
  outranks : ∀ source time, source ≠ .audio → past.marked .audio = false →
    (hub.after past).report source time = (.refused, hub.after past)

end Hub

/-- Whatever is reported to a clock, wherever it jumps, and whichever roles are marked on the way,
all that it shows and all that becomes of its hub is told by that history. Its position is that of
the last jump or report taken, bit for bit. -/
theorem hub_goes_through (mail : Mailboxes) (signal : Signal) (notices : Array Notice)
    (past : Clock.History) : ({ mail, signal, notices } : Hub).GoesThrough past := by
  generalize hubOf : ({ mail, signal, notices } : Hub) = hub
  have run := hub.run_use (by rw [← hubOf]) past
  have refuses (source : ClockSource) (time : Position) (refused : past.authorizes source = false) :
      (hub.after past).report source time = (.refused, hub.after past) := by
    have clock : (hub.after past).clock.authorizes source = false := refused
    simp only [Hub.report, Clock.report_refused time clock, Verdict.isMove]
    rfl
  constructor
  · rw [run]
  · rw [run]
  · intro source time
    rw [Hub.after_report, ← past.awaits_iff_leftOpen]
    cases authorized : past.authorizes source <;> cases pending : past.awaits <;>
      simp [Clock.History.verdict, authorized, pending, Verdict.isTaken]
  · intro source time
    rw [Hub.after_report, ← past.awaits_iff_leftOpen]
    cases authorized : past.authorizes source <;> cases pending : past.awaits <;>
      simp [Clock.History.verdict, authorized, pending]
  · intro source time calm authorized still
    exact Clock.History.not_leftOpen_report time authorized still
  · exact refuses
  · intro source time lower real
    exact refuses source time (Clock.History.authorizes_outranked lower real)

end AudioHost
