import AudioHost.Midi.Event

/-!
# Channels

A channel carries messages to the application without ever making the sender wait. What does not
fit is dropped.
-/

set_option autoImplicit false

namespace AudioHost

inductive Bulletin where
  | input (event : InputEvent)
  | position (time : Position)
deriving DecidableEq

inductive PostOutcome where
  | delivered
  | full
  | disconnected
deriving DecidableEq

structure Attempt where
  message : Bulletin
  outcome : PostOutcome
deriving DecidableEq

structure Channel where
  capacity : Nat
  messages : List Bulletin := []
  senders : Nat := 1
  receivers : Nat := 1
deriving DecidableEq

namespace Channel

def post (channel : Channel) (message : Bulletin) : PostOutcome × Channel :=
  if channel.receivers = 0 then (.disconnected, channel)
  else if channel.capacity ≤ channel.messages.length then (.full, channel)
  else (.delivered, { channel with messages := channel.messages ++ [message] })

def postAll (channel : Channel) : List Bulletin → List Attempt × Channel
  | [] => ([], channel)
  | message :: rest =>
    let (outcome, channel) := channel.post message
    let (attempts, channel) := channel.postAll rest
    (⟨message, outcome⟩ :: attempts, channel)

@[simp] theorem capacity_post (channel : Channel) (message : Bulletin) :
    (channel.post message).2.capacity = channel.capacity := by
  simp only [post]
  split
  · rfl
  · split <;> rfl

@[simp] theorem receivers_post (channel : Channel) (message : Bulletin) :
    (channel.post message).2.receivers = channel.receivers := by
  simp only [post]
  split
  · rfl
  · split <;> rfl

theorem messages_post (channel : Channel) (message : Bulletin) :
    (channel.post message).2.messages =
      channel.messages ++ if (channel.post message).1 = .delivered then [message] else [] := by
  simp only [post]
  split
  · simp
  · split <;> simp

theorem map_message_postAll (channel : Channel) (messages : List Bulletin) :
    (channel.postAll messages).1.map Attempt.message = messages := by
  induction messages generalizing channel with
  | nil => rfl
  | cons message rest ih => simp [postAll, ih]

def receive (channel : Channel) : Option Bulletin × Channel :=
  match channel.messages with
  | [] => (none, channel)
  | message :: rest => (some message, { channel with messages := rest })

def drain (channel : Channel) : List Bulletin × Channel :=
  (channel.messages, { channel with messages := [] })

def closeSender (channel : Channel) : Channel := { channel with senders := channel.senders - 1 }

def openReceiver (channel : Channel) : Channel :=
  if channel.receivers = 0 then channel else { channel with receivers := channel.receivers + 1 }

/-- Close one receiving end; what nobody can take any more is thrown away. -/
def closeReceiver (channel : Channel) : Channel :=
  if channel.receivers ≤ 1 then { channel with receivers := 0, messages := [] }
  else { channel with receivers := channel.receivers - 1 }

inductive Command where
  | post (message : Bulletin)
  | closeSender
  | openReceiver
  | closeReceiver
  | receive
  | drain
deriving DecidableEq

inductive Reply where
  | done
  | posted (outcome : PostOutcome)
  | received (message : Option Bulletin)
  | drained (messages : List Bulletin)
  | noSender
  | noReceiver
deriving DecidableEq

def apply (channel : Channel) : Command → Reply × Channel
  | .post message =>
    if channel.senders = 0 then (.noSender, channel)
    else
      let (outcome, channel) := channel.post message
      (.posted outcome, channel)
  | .closeSender => (.done, channel.closeSender)
  | .openReceiver =>
    if channel.receivers = 0 then (.noReceiver, channel) else (.done, channel.openReceiver)
  | .closeReceiver => (.done, channel.closeReceiver)
  | .receive =>
    if channel.receivers = 0 then (.noReceiver, channel)
    else
      let (message, channel) := channel.receive
      (.received message, channel)
  | .drain =>
    if channel.receivers = 0 then (.noReceiver, channel)
    else
      let (messages, channel) := channel.drain
      (.drained messages, channel)

end Channel

end AudioHost
