import AudioHost.Relay.Channel

/-!
# Postings

A message is posted to a channel that holds so many others. While somebody listens, that number
alone decides whether the channel takes it.
-/

set_option autoImplicit false

namespace AudioHost

/-- A message that was posted, and how many messages the channel held at that moment. -/
structure Posting where
  message : Bulletin
  held : Nat

def Posting.attempt (capacity : Nat) (posting : Posting) : Attempt :=
  ⟨posting.message, if posting.held = capacity then .full else .delivered⟩

def delivered (capacity : Nat) (postings : List Posting) : List Bulletin :=
  (postings.filter fun posting => posting.held ≠ capacity).map Posting.message

theorem delivered_append (capacity : Nat) (left right : List Posting) :
    delivered capacity (left ++ right) = delivered capacity left ++ delivered capacity right := by
  simp [delivered]

namespace Channel

def postings (channel : Channel) : List Bulletin → List Posting
  | [] => []
  | message :: rest =>
    ⟨message, channel.messages.length⟩ :: (channel.post message).2.postings rest

theorem map_message_postings (channel : Channel) (messages : List Bulletin) :
    (channel.postings messages).map Posting.message = messages := by
  induction messages generalizing channel with
  | nil => rfl
  | cons message rest ih => simp [postings, ih]

theorem receivers_postAll (channel : Channel) (messages : List Bulletin) :
    (channel.postAll messages).2.receivers = channel.receivers := by
  induction messages generalizing channel with
  | nil => rfl
  | cons message rest ih => exact (ih _).trans (channel.receivers_post message)

@[simp] theorem capacity_postAll (channel : Channel) (messages : List Bulletin) :
    (channel.postAll messages).2.capacity = channel.capacity := by
  induction messages generalizing channel with
  | nil => rfl
  | cons message rest ih => exact (ih _).trans (channel.capacity_post message)

structure Serves (channel : Channel) : Prop where
  listening : 0 < channel.receivers
  room : channel.messages.length ≤ channel.capacity

theorem Serves.post {channel : Channel} (serves : channel.Serves) (message : Bulletin) :
    (channel.post message).2.Serves ∧
      (channel.post message).1 =
        (if channel.messages.length = channel.capacity then .full else .delivered) := by
  have listening : channel.receivers ≠ 0 := Nat.ne_of_gt serves.listening
  by_cases full : channel.messages.length = channel.capacity
  · have refused : channel.post message = (.full, channel) := by
      simp [Channel.post, listening, full]
    rw [refused]
    exact ⟨serves, by simp [full]⟩
  · have room : channel.messages.length < channel.capacity := Nat.lt_of_le_of_ne serves.room full
    have taken : channel.post message =
        (.delivered, { channel with messages := channel.messages ++ [message] }) := by
      simp [Channel.post, listening, Nat.not_le.mpr room]
    rw [taken]
    refine ⟨⟨serves.listening, ?_⟩, by simp [full]⟩
    rw [List.length_append]
    exact room

theorem Serves.postAll {channel : Channel} (serves : channel.Serves) (messages : List Bulletin) :
    (channel.postAll messages).2.Serves ∧
      (channel.postAll messages).2.capacity = channel.capacity ∧
      (channel.postAll messages).1 =
        (channel.postings messages).map (Posting.attempt channel.capacity) ∧
      (channel.postAll messages).2.messages =
        channel.messages ++ delivered channel.capacity (channel.postings messages) ∧
      ∀ posting ∈ channel.postings messages, posting.held ≤ channel.capacity := by
  induction messages generalizing channel with
  | nil => simp [Channel.postAll, postings, delivered, serves]
  | cons message rest ih =>
    obtain ⟨after, outcome⟩ := serves.post message
    obtain ⟨last, capacity, attempts, waiting, held⟩ := ih after
    rw [capacity_post] at capacity attempts waiting held
    refine ⟨last, capacity, ?_, ?_, ?_⟩
    · simp only [Channel.postAll, postings, List.map_cons, attempts, Posting.attempt, outcome]
    · simp only [Channel.postAll, postings, waiting, messages_post, outcome, List.append_assoc]
      by_cases full : channel.messages.length = channel.capacity
      · simp [delivered, full]
      · simp [delivered, full]
    · intro posting member
      rcases List.mem_cons.mp member with rfl | later
      · exact serves.room
      · exact held posting later

theorem capacity_receive (channel : Channel) : channel.receive.2.capacity = channel.capacity := by
  simp only [receive]
  split <;> rfl

@[simp] theorem capacity_openReceiver (channel : Channel) :
    channel.openReceiver.capacity = channel.capacity := by
  simp only [openReceiver]
  split <;> rfl

theorem capacity_closeReceiver (channel : Channel) :
    channel.closeReceiver.capacity = channel.capacity := by
  simp only [closeReceiver]
  split <;> rfl

theorem Serves.receive {channel : Channel} (serves : channel.Serves) :
    channel.receive.2.Serves ∧ channel.receive.1.toList ++ channel.receive.2.messages =
      channel.messages := by
  cases known : channel.messages with
  | nil => simp [Channel.receive, known, serves]
  | cons message rest =>
    have room := serves.room
    rw [known, List.length_cons] at room
    simp only [Channel.receive, known]
    exact ⟨⟨serves.listening, Nat.le_of_succ_le room⟩, rfl⟩

theorem closeReceiver_listening {channel : Channel}
    (listening : 0 < channel.closeReceiver.receivers) :
    channel.closeReceiver = { channel with receivers := channel.receivers - 1 } := by
  simp only [closeReceiver] at listening ⊢
  split at listening
  · cases listening
  next more => rw [if_neg more]

end Channel

end AudioHost
