import AudioHost.Relay.Channel

/-!
# Relays

A relay hands device input and changes of the playback position to the application. Here is what
it remembers from one cycle to the next.
-/

set_option autoImplicit false

namespace AudioHost

structure Relay where
  /-- The position it last told the application, or tried to. -/
  toldTime : Position
  /-- Whether messages are being dropped, and the log has been told so. -/
  overflowing : Bool := false
  interval : Nat
deriving DecidableEq

namespace Relay

/-- Learn what became of a message, and say whether the log is to be told: it is when messages
begin to be dropped. -/
def observe (relay : Relay) : PostOutcome → Bool × Relay
  | .delivered => (false, { relay with overflowing := false })
  | .full => (!relay.overflowing, { relay with overflowing := true })
  | .disconnected => (false, relay)

def observeAll (relay : Relay) : List PostOutcome → Nat × Relay
  | [] => (0, relay)
  | outcome :: rest =>
    let (warned, relay) := relay.observe outcome
    let (more, relay) := relay.observeAll rest
    (warned.toNat + more, relay)

def messages (relay : Relay) (events : List InputEvent) (time : Position) : List Bulletin :=
  events.map .input ++ if time != relay.toldTime then [.position time] else []

def told (relay : Relay) (time : Position) : Relay :=
  if time != relay.toldTime then { relay with toldTime := time } else relay

@[simp] theorem toldTime_observe (relay : Relay) (outcome : PostOutcome) :
    (relay.observe outcome).2.toldTime = relay.toldTime := by cases outcome <;> rfl

@[simp] theorem interval_observe (relay : Relay) (outcome : PostOutcome) :
    (relay.observe outcome).2.interval = relay.interval := by cases outcome <;> rfl

@[simp] theorem toldTime_observeAll (relay : Relay) (outcomes : List PostOutcome) :
    (relay.observeAll outcomes).2.toldTime = relay.toldTime := by
  induction outcomes generalizing relay with
  | nil => rfl
  | cons outcome rest ih => simp [observeAll, ih]

@[simp] theorem interval_observeAll (relay : Relay) (outcomes : List PostOutcome) :
    (relay.observeAll outcomes).2.interval = relay.interval := by
  induction outcomes generalizing relay with
  | nil => rfl
  | cons outcome rest ih => simp [observeAll, ih]

end Relay

end AudioHost
