import AudioHost.Role
import AudioHost.Clock.Cell
import AudioHost.Clock.Position

/-!
# The playback clock

Several sources may report a playback position. The clock keeps one, and takes a report only from
the best source there is: always from an audio clock, from a MIDI clock while audio is served by a
dummy, and from a dummy clock while both roles are. After a jump the first report that would
have been taken is dropped, since it may still tell the position before the jump.
-/

set_option autoImplicit false

namespace AudioHost

inductive ClockSource where
  | dummy
  | midi
  | audio
deriving DecidableEq

namespace ClockSource

def all : List ClockSource := [.dummy, .midi, .audio]

def describe : ClockSource → String
  | .dummy => "DummyClock"
  | .midi => "MidiClock"
  | .audio => "AudioClock"

def rank : ClockSource → Nat
  | .dummy => 1
  | .midi => 2
  | .audio => 3

def compare (first second : ClockSource) : Ordering := Ord.compare first.rank second.rank

def best (first second : ClockSource) : ClockSource :=
  if second.rank < first.rank then first else second

theorem rank_best (first second : ClockSource) :
    (first.best second).rank = max first.rank second.rank := by
  cases first <;> cases second <;> rfl

def mayMove (source : ClockSource) (dummies : PerRole Bool) : Bool :=
  match source with
  | .audio => true
  | .midi => dummies.audio
  | .dummy => dummies.audio && dummies.midi

end ClockSource

structure Clock where
  time : Cell Position := ⟨0⟩
  /-- Whether the next report is to be dropped. -/
  jumpPending : Cell Bool := ⟨false⟩
  dummies : PerRole Bool := .both true
  lastSource : Option ClockSource := none
deriving DecidableEq

inductive Verdict where
  | refused
  | swallowed
  /-- The report was taken; `moved` says whether the position is another one now. -/
  | taken (moved : Bool)
deriving DecidableEq

namespace Verdict

def isTaken : Verdict → Bool
  | .taken _ => true
  | _ => false

def isMove : Verdict → Bool
  | .taken moved => moved
  | _ => false

end Verdict

namespace Clock

def authorizes (clock : Clock) (source : ClockSource) : Bool := source.mayMove clock.dummies

/-- Report a position. Positions are compared as numbers, so one that is not a number always counts
as another one. -/
def report (clock : Clock) (source : ClockSource) (time : Position) : Verdict × Clock :=
  if clock.authorizes source then
    -- An authorized report ends the wait after a jump, whether it is taken or not.
    let (pending, jumpPending) := clock.jumpPending.swap false
    let clock := { clock with jumpPending }
    if pending then (.swallowed, clock)
    else
      let (previous, position) := clock.time.swap time
      (.taken (previous != time), { clock with time := position, lastSource := some source })
  else (.refused, clock)

def jump (clock : Clock) (time : Position) : Clock :=
  { clock with time := clock.time.set time, jumpPending := clock.jumpPending.set true }

def markDummy (clock : Clock) (name : RoleName) (dummy : Bool) : Clock :=
  { clock with dummies := clock.dummies.set name.role dummy }

def isDummy (clock : Clock) (name : RoleName) : Bool := clock.dummies.get name.role

@[simp] theorem isDummy_markDummy (clock : Clock) (name other : RoleName) (dummy : Bool) :
    (clock.markDummy name dummy).isDummy other =
      if other.role = name.role then dummy else clock.isDummy other := by
  simp [isDummy, markDummy, PerRole.get_set]

theorem report_refused {clock : Clock} {source : ClockSource} (time : Position)
    (refused : clock.authorizes source = false) :
    clock.report source time = (.refused, clock) := by
  simp [report, refused]

theorem report_swallowed {clock : Clock} {source : ClockSource} (time : Position)
    (authorized : clock.authorizes source = true) (pending : clock.jumpPending.get = true) :
    clock.report source time =
      (.swallowed, { clock with jumpPending := clock.jumpPending.set false }) := by
  simp [report, authorized, pending]

theorem report_taken {clock : Clock} {source : ClockSource} (time : Position)
    (authorized : clock.authorizes source = true) (settled : clock.jumpPending.get = false) :
    clock.report source time =
      (.taken (clock.time.get != time),
        { clock with
          jumpPending := clock.jumpPending.set false
          time := clock.time.set time
          lastSource := some source }) := by
  simp [report, authorized, settled]

end Clock

end AudioHost
