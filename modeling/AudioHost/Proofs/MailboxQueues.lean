import AudioHost.Mail.Mailbox
import AudioHost.Ring.Contents
import Mathlib.Algebra.Ring.Nat

/-!
# A mailbox is a pair of queues

Seen from outside a mailbox is two queues of bounded size, one of whole messages and one of events.
That its messages stand as bytes in a ring, each after the byte of its length, is never seen.
-/

set_option autoImplicit false

namespace AudioHost

inductive Mailbox.Use where
  | command (command : Mailbox.Command)
  | outgoingLength
  | incomingLength

inductive Mailbox.Sight where
  | answer (answer : Answer)
  | count (count : Nat)

def Mailbox.use (mailbox : Mailbox) : Use → Sight × Mailbox
  | .command command => ((mailbox.apply command).map .answer id)
  | .outgoingLength => (.count mailbox.outgoingLength, mailbox)
  | .incomingLength => (.count mailbox.incomingLength, mailbox)

def Mailbox.useAll : Mailbox → List Use → List Sight × Mailbox
  | mailbox, [] => ([], mailbox)
  | mailbox, use :: rest =>
    let (sight, mailbox) := mailbox.use use
    (mailbox.useAll rest).map (sight :: ·) id

structure Queues where
  messages : List Message := []
  events : List InputEvent := []

namespace Queues

def bytes (queues : Queues) : Nat := (queues.messages.map fun message => 1 + message.length).sum

/-- What an operation is to do, with room for 256 bytes in each outgoing slot. -/
def apply (size : MailboxSize) (queues : Queues) : Mailbox.Command → Answer × Queues
  | .send bytes =>
    if fits : 0 < size.outgoing ∧ bytes.length ≤ 255 ∧
        queues.bytes + 1 + bytes.length ≤ 256 * size.outgoing then
      (.accepted true, { queues with messages := queues.messages ++ [⟨bytes, fits.2.1⟩] })
    else (.accepted false, queues)
  | .fetch _ =>
    match queues.messages with
    | [] => (.due none, queues)
    | message :: rest => (.due (some ⟨message, 0⟩), { queues with messages := rest })
  | .deliver event =>
    if 0 < size.incoming ∧ queues.events.length < size.incoming then
      (.accepted true, { queues with events := queues.events ++ [event] })
    else (.accepted false, queues)
  | .collect =>
    match queues.events with
    | [] => (.event none, queues)
    | event :: rest => (.event (some event), { queues with events := rest })
  | .describe => (.text (Mailbox.make size).describe, queues)

def use (size : MailboxSize) (queues : Queues) : Mailbox.Use → Mailbox.Sight × Queues
  | .command command => (queues.apply size command).map .answer id
  | .outgoingLength => (.count queues.bytes, queues)
  | .incomingLength => (.count queues.events.length, queues)

def useAll (size : MailboxSize) : Queues → List Mailbox.Use → List Mailbox.Sight × Queues
  | queues, [] => ([], queues)
  | queues, use :: rest =>
    let (sight, queues) := queues.use size use
    (queues.useAll size rest).map (sight :: ·) id

end Queues

/-- A side of a mailbox with room for `capacity` items in which `items` wait. A side without room is
left out. -/
def Ring.Side {α : Type} (capacity : Nat) (items : List α) : Option (Ring α) → Prop
  | none => capacity = 0 ∧ items = []
  | some ring => ring.capacity = capacity ∧ ring.toList = items

namespace Ring.Side

variable {α : Type} {capacity : Nat} {items : List α}

theorem make (capacity : Nat) : Side capacity ([] : List α) (make? capacity) := by
  cases made : (make? capacity : Option (Ring α)) with
  | none =>
    simp only [make?] at made
    split at made
    · cases made
    · exact ⟨by omega, rfl⟩
  | some ring => exact ⟨capacity_make? made, toList_make? made⟩

theorem length_eq {side : Option (Ring α)} (holds : Side capacity items side) :
    side.elim 0 Ring.size = items.length := by
  cases side with
  | none => simp [holds.2]
  | some ring => simp [← holds.2]

theorem capacity_eq {side other : Option (Ring α)} {others : List α}
    (holds : Side capacity items side) (same : Side capacity others other) :
    side.map Ring.capacity = other.map Ring.capacity := by
  cases side with
  | none =>
    cases other with
    | none => rfl
    | some ring =>
      have positive := ring.capacity_pos
      have bound := same.1
      have empty := holds.1
      omega
  | some ring =>
    have positive := ring.capacity_pos
    have bound := holds.1
    cases other with
    | none =>
      have empty := same.1
      omega
    | some ring => simp [holds.1, same.1]

end Ring.Side

/-- A mailbox of a size stands for two queues: the framed messages lie end to end in its bytes. -/
structure Mailbox.Holds (size : MailboxSize) (mailbox : Mailbox) (queues : Queues) : Prop where
  outgoing :
    Ring.Side (256 * size.outgoing) (queues.messages.flatMap Message.frame) mailbox.outgoing
  incoming : Ring.Side size.incoming queues.events mailbox.incoming

theorem Message.length_frame (message : Message) : message.frame.length = 1 + message.length := by
  simp [Message.frame, Message.length, Nat.add_comm]

theorem Message.toNat_length (message : Message) :
    message.length.toUInt8.toNat = message.length := by
  have bound := message.length_le
  simp only [Message.maxLength] at bound
  simp only [Message.length]
  simp only [Nat.toUInt8_eq, UInt8.toNat_ofNat']
  omega

theorem Queues.bytes_eq (queues : Queues) :
    queues.bytes = (queues.messages.flatMap Message.frame).length := by
  simp [Queues.bytes, List.length_flatMap, Message.length_frame]

namespace Mailbox

variable {size : MailboxSize} {mailbox : Mailbox} {queues : Queues}

theorem make_holds (size : MailboxSize) : (make size).Holds size {} where
  outgoing := by
    have holds : Ring.Side (256 * size.outgoing) ([] : List UInt8) _ := Ring.Side.make _
    simpa [make, slotBytes, Message.maxLength, Nat.mul_comm] using holds
  incoming := Ring.Side.make size.incoming

theorem Holds.outgoingLength_eq (holds : mailbox.Holds size queues) :
    mailbox.outgoingLength = queues.bytes := by
  rw [Queues.bytes_eq]
  exact holds.outgoing.length_eq

theorem Holds.incomingLength_eq (holds : mailbox.Holds size queues) :
    mailbox.incomingLength = queues.events.length := holds.incoming.length_eq

theorem Holds.describe_eq (holds : mailbox.Holds size queues) :
    mailbox.describe = (make size).describe := by
  have made := make_holds size
  have outgoing := holds.outgoing.capacity_eq made.outgoing
  have incoming := holds.incoming.capacity_eq made.incoming
  unfold describe
  rw [outgoing, incoming]

theorem Holds.send?_some (holds : mailbox.Holds size queues) (message : Message)
    (room : queues.bytes + 1 + message.length ≤ 256 * size.outgoing) :
    ∃ next, mailbox.send? message.bytes = some next ∧
      next.Holds size { queues with messages := queues.messages ++ [message] } := by
  have outgoing := holds.outgoing
  cases present : mailbox.outgoing with
  | none =>
    rw [present] at outgoing
    have empty := outgoing.1
    omega
  | some ring =>
    rw [present] at outgoing
    obtain ⟨capacity, contents⟩ := outgoing
    have fits : (ring.append? message.frame).isSome := by
      rw [Ring.append?_isSome_iff, contents, ← Queues.bytes_eq, capacity, Message.length_frame]
      omega
    obtain ⟨pushed, known⟩ := Option.isSome_iff_exists.mp fits
    refine ⟨{ mailbox with outgoing := some pushed }, ?_, ?_, holds.incoming⟩
    · simp [send?, present, known]
    · constructor
      · rw [Ring.capacity_append? known, capacity]
      · simp [Ring.toList_append? known, contents]

theorem Holds.send?_none (holds : mailbox.Holds size queues) (message : Message)
    (full : 256 * size.outgoing < queues.bytes + 1 + message.length) :
    mailbox.send? message.bytes = none := by
  have outgoing := holds.outgoing
  cases present : mailbox.outgoing with
  | none => simp [send?, present]
  | some ring =>
    rw [present] at outgoing
    obtain ⟨capacity, contents⟩ := outgoing
    have refused : ¬ (ring.append? message.frame).isSome := by
      rw [Ring.append?_isSome_iff, contents, ← Queues.bytes_eq, capacity, Message.length_frame]
      omega
    have known := Option.not_isSome_iff_eq_none.mp refused
    simp [send?, present, known]

theorem send?_long {bytes : List UInt8} (long : 255 < bytes.length) :
    mailbox.send? bytes = none := by
  have tooLong := Message.ofBytes?_eq_none_iff.mpr long
  cases present : mailbox.outgoing <;> simp [send?, present, tooLong]

theorem Holds.fetch?_some (holds : mailbox.Holds size queues) {message : Message}
    {rest : List Message} (waiting : queues.messages = message :: rest) (position : Position) :
    ∃ next, mailbox.fetch? position = some (⟨message, 0⟩, next) ∧
      next.Holds size { queues with messages := rest } := by
  have outgoing := holds.outgoing
  rw [waiting] at outgoing
  cases present : mailbox.outgoing with
  | none =>
    rw [present] at outgoing
    have nothing := outgoing.2
    simp [Message.frame] at nothing
  | some ring =>
    rw [present] at outgoing
    obtain ⟨capacity, contents⟩ := outgoing
    let behind := message.bytes ++ rest.flatMap Message.frame
    have framed : ring.toList = message.length.toUInt8 :: behind := by
      rw [contents]
      simp [behind, Message.frame]
    let buffer : List UInt8 := List.replicate Message.maxLength 0
    have bound : message.length ≤ buffer.length := by
      simpa [buffer, Message.length] using message.length_le
    have known : ring.takeFrame? UInt8.toNat buffer =
        some ⟨message.length, behind.take message.length ++ buffer.drop message.length,
          (ring.takeMany (message.length + 1)).2⟩ := by
      rw [Ring.takeFrame?_eq_some_iff]
      refine ⟨_, behind, framed, ?_, ?_, ?_⟩ <;> rw [message.toNat_length]
      · exact bound
      · simp [behind, Message.length]
    refine ⟨{ mailbox with outgoing := some (ring.takeMany (message.length + 1)).2 }, ?_, ?_,
      holds.incoming⟩
    · simp only [fetch?, present, Option.bind_eq_bind, Option.bind_some]
      rw [known]
      simp [behind, Message.length]
    · constructor
      · rw [Ring.capacity_takeMany, capacity]
      · rw [Ring.toList_takeMany, framed]
        simp [behind, Message.length]

theorem Holds.fetch?_none (holds : mailbox.Holds size queues) (waiting : queues.messages = [])
    (position : Position) : mailbox.fetch? position = none := by
  have outgoing := holds.outgoing
  rw [waiting] at outgoing
  cases present : mailbox.outgoing with
  | none => simp [fetch?, present]
  | some ring =>
    rw [present] at outgoing
    have nothing : ring.takeFrame? UInt8.toNat (List.replicate Message.maxLength 0) = none := by
      rw [Option.eq_none_iff_forall_ne_some]
      intro taken known
      obtain ⟨header, rest, contents, -⟩ := Ring.takeFrame?_eq_some_iff.mp known
      rw [outgoing.2] at contents
      cases contents
    simp [fetch?, present, nothing]

theorem Holds.deliver?_some (holds : mailbox.Holds size queues) (event : InputEvent)
    (room : queues.events.length < size.incoming) :
    ∃ next, mailbox.deliver? event = some next ∧
      next.Holds size { queues with events := queues.events ++ [event] } := by
  have incoming := holds.incoming
  cases present : mailbox.incoming with
  | none =>
    rw [present] at incoming
    have empty := incoming.1
    omega
  | some ring =>
    rw [present] at incoming
    obtain ⟨capacity, contents⟩ := incoming
    cases known : ring.push? event with
    | none =>
      have full := (Ring.push?_eq_none_iff ring event).mp known
      rw [capacity, ← Ring.length_toList, contents] at full
      omega
    | some pushed =>
      refine ⟨{ mailbox with incoming := some pushed }, ?_, holds.outgoing, ?_⟩
      · simp [deliver?, present, known]
      · constructor
        · rw [Ring.capacity_push? known, capacity]
        · rw [Ring.toList_push? known, contents]

theorem Holds.deliver?_none (holds : mailbox.Holds size queues) (event : InputEvent)
    (full : size.incoming ≤ queues.events.length) : mailbox.deliver? event = none := by
  have incoming := holds.incoming
  cases present : mailbox.incoming with
  | none => simp [deliver?, present]
  | some ring =>
    rw [present] at incoming
    have known : ring.push? event = none := by
      rw [Ring.push?_eq_none_iff, incoming.1, ← Ring.length_toList, incoming.2]
      exact full
    simp [deliver?, present, known]

theorem Holds.collect?_some (holds : mailbox.Holds size queues) {event : InputEvent}
    {rest : List InputEvent} (waiting : queues.events = event :: rest) :
    ∃ next, mailbox.collect? = some (event, next) ∧
      next.Holds size { queues with events := rest } := by
  have incoming := holds.incoming
  rw [waiting] at incoming
  cases present : mailbox.incoming with
  | none =>
    rw [present] at incoming
    cases incoming.2
  | some ring =>
    rw [present] at incoming
    obtain ⟨capacity, contents⟩ := incoming
    cases known : ring.pop? with
    | none =>
      rw [(Ring.pop?_eq_none_iff ring).mp known] at contents
      cases contents
    | some taken =>
      obtain ⟨first, remaining⟩ := taken
      rw [Ring.toList_pop? known] at contents
      cases contents
      refine ⟨{ mailbox with incoming := some remaining }, ?_, holds.outgoing, ?_⟩
      · simp [collect?, present, known]
      · exact ⟨by rw [Ring.capacity_pop? known, capacity], rfl⟩

theorem Holds.collect?_none (holds : mailbox.Holds size queues) (waiting : queues.events = []) :
    mailbox.collect? = none := by
  have incoming := holds.incoming
  rw [waiting] at incoming
  cases present : mailbox.incoming with
  | none => simp [collect?, present]
  | some ring =>
    rw [present] at incoming
    have known := (Ring.pop?_eq_none_iff ring).mpr incoming.2
    simp [collect?, present, known]

theorem Holds.apply (holds : mailbox.Holds size queues) (command : Command) :
    (mailbox.apply command).1 = (queues.apply size command).1 ∧
      (mailbox.apply command).2.Holds size (queues.apply size command).2 := by
  cases command with
  | send bytes =>
    simp only [Mailbox.apply, Answer.attempt, Queues.apply]
    by_cases short : bytes.length ≤ 255
    · by_cases room : queues.bytes + 1 + bytes.length ≤ 256 * size.outgoing
      · have positive : 0 < size.outgoing := by omega
        obtain ⟨next, known, kept⟩ := holds.send?_some ⟨bytes, short⟩ room
        simpa [positive, short, room, known] using kept
      · have known := holds.send?_none ⟨bytes, short⟩ (by simpa [Message.length] using room)
        simpa [room, known] using holds
    · have known : mailbox.send? bytes = none := send?_long (Nat.lt_of_not_le short)
      simpa [short, known] using holds
  | fetch position =>
    cases waiting : queues.messages with
    | nil =>
      have known := holds.fetch?_none waiting position
      simpa [Mailbox.apply, Queues.apply, known, waiting] using holds
    | cons message rest =>
      obtain ⟨next, known, kept⟩ := holds.fetch?_some waiting position
      simpa [Mailbox.apply, Queues.apply, known, waiting] using kept
  | deliver event =>
    simp only [Mailbox.apply, Answer.attempt, Queues.apply]
    by_cases room : queues.events.length < size.incoming
    · have positive : 0 < size.incoming := by omega
      obtain ⟨next, known, kept⟩ := holds.deliver?_some event room
      simpa [positive, room, known] using kept
    · have known := holds.deliver?_none event (Nat.le_of_not_lt room)
      simpa [room, known] using holds
  | collect =>
    cases waiting : queues.events with
    | nil =>
      have known := holds.collect?_none waiting
      simpa [Mailbox.apply, Queues.apply, known, waiting] using holds
    | cons event rest =>
      obtain ⟨next, known, kept⟩ := holds.collect?_some waiting
      simpa [Mailbox.apply, Queues.apply, known, waiting] using kept
  | describe => exact ⟨congrArg Answer.text holds.describe_eq, holds⟩

theorem Holds.collectUpTo (holds : mailbox.Holds size queues) (count : Nat) :
    (mailbox.collectUpTo count).1 = queues.events.take count ∧
      (mailbox.collectUpTo count).2.Holds size
        { queues with events := queues.events.drop count } := by
  induction count generalizing mailbox queues with
  | zero => exact ⟨rfl, holds⟩
  | succ count ih =>
    simp only [Mailbox.collectUpTo]
    cases waiting : queues.events with
    | nil =>
      rw [holds.collect?_none waiting]
      exact ⟨rfl, by rwa [List.drop_nil, ← waiting]⟩
    | cons event rest =>
      obtain ⟨next, known, kept⟩ := holds.collect?_some waiting
      obtain ⟨events, left⟩ := ih kept
      rw [known]
      exact ⟨congrArg (event :: ·) events, left⟩

theorem Holds.collectAll (holds : mailbox.Holds size queues) :
    mailbox.collectAll.1 = queues.events ∧
      mailbox.collectAll.2.Holds size { queues with events := [] } := by
  obtain ⟨events, left⟩ := holds.collectUpTo mailbox.incomingLength
  rw [holds.incomingLength_eq, List.take_length] at events
  rw [holds.incomingLength_eq, List.drop_length] at left
  simp only [Mailbox.collectAll, holds.incomingLength_eq]
  exact ⟨events, left⟩

theorem Holds.use (holds : mailbox.Holds size queues) (use : Use) :
    (mailbox.use use).1 = (queues.use size use).1 ∧
      (mailbox.use use).2.Holds size (queues.use size use).2 := by
  cases use with
  | command command =>
    obtain ⟨same, kept⟩ := holds.apply command
    exact ⟨congrArg Sight.answer same, kept⟩
  | outgoingLength => exact ⟨congrArg Sight.count holds.outgoingLength_eq, holds⟩
  | incomingLength => exact ⟨congrArg Sight.count holds.incomingLength_eq, holds⟩

theorem Holds.useAll (holds : mailbox.Holds size queues) (uses : List Use) :
    (mailbox.useAll uses).1 = (queues.useAll size uses).1 ∧
      (mailbox.useAll uses).2.Holds size (queues.useAll size uses).2 := by
  induction uses generalizing mailbox queues with
  | nil => exact ⟨rfl, holds⟩
  | cons use rest ih =>
    obtain ⟨same, kept⟩ := holds.use use
    obtain ⟨later, final⟩ := ih kept
    refine ⟨?_, final⟩
    change (mailbox.use use).1 :: _ = (queues.use size use).1 :: _
    rw [same]
    exact congrArg _ later

def Command.Spares (command : Command) (before after : Mailbox) : Prop :=
  match command with
  | .send _ | .fetch _ => after.incoming = before.incoming
  | .deliver _ | .collect => after.outgoing = before.outgoing
  | .describe => after = before

theorem incoming_send? {next : Mailbox} {bytes : List UInt8}
    (known : mailbox.send? bytes = some next) : next.incoming = mailbox.incoming := by
  simp only [send?, Option.bind_eq_bind, Option.bind_eq_some_iff] at known
  obtain ⟨_, _, _, _, _, _, same⟩ := known
  cases same
  rfl

theorem incoming_fetch? {next : Mailbox} {position : Position} {message : DueMessage}
    (known : mailbox.fetch? position = some (message, next)) :
    next.incoming = mailbox.incoming := by
  simp only [fetch?, Option.bind_eq_bind, Option.bind_eq_some_iff] at known
  obtain ⟨_, _, _, _, _, _, same⟩ := known
  cases same
  rfl

theorem outgoing_deliver? {next : Mailbox} {event : InputEvent}
    (known : mailbox.deliver? event = some next) : next.outgoing = mailbox.outgoing := by
  simp only [deliver?, Option.bind_eq_bind, Option.bind_eq_some_iff] at known
  obtain ⟨_, _, _, _, same⟩ := known
  cases same
  rfl

theorem outgoing_collect? {next : Mailbox} {event : InputEvent}
    (known : mailbox.collect? = some (event, next)) : next.outgoing = mailbox.outgoing := by
  simp only [collect?, Option.bind_eq_bind, Option.bind_eq_some_iff] at known
  obtain ⟨_, _, _, _, same⟩ := known
  cases same
  rfl

theorem apply_spares (mailbox : Mailbox) (command : Command) :
    command.Spares mailbox (mailbox.apply command).2 := by
  cases command with
  | send bytes =>
    simp only [Command.Spares, Mailbox.apply, Answer.attempt]
    cases known : mailbox.send? bytes with
    | none => rfl
    | some next => exact incoming_send? known
  | fetch position =>
    simp only [Command.Spares, Mailbox.apply]
    cases known : mailbox.fetch? position with
    | none => rfl
    | some taken => exact incoming_fetch? known
  | deliver event =>
    simp only [Command.Spares, Mailbox.apply, Answer.attempt]
    cases known : mailbox.deliver? event with
    | none => rfl
    | some next => exact outgoing_deliver? known
  | collect =>
    simp only [Command.Spares, Mailbox.apply]
    cases known : mailbox.collect? with
    | none => rfl
    | some taken => exact outgoing_collect? known
  | describe => rfl

end Mailbox

/-- Whatever is done with a mailbox, it shows just what two bounded queues would show. The bytes of
its outgoing side are at all times whole frames of the messages that wait, and neither side is
touched by an operation on the other. -/
theorem mailbox_refines_queues (size : MailboxSize) (uses : List Mailbox.Use) :
    let mailbox := ((Mailbox.make size).useAll uses).2
    let queues := (({} : Queues).useAll size uses).2
    ((Mailbox.make size).useAll uses).1 = (({} : Queues).useAll size uses).1 ∧
      mailbox.Holds size queues ∧
      ∀ command : Mailbox.Command, command.Spares mailbox (mailbox.apply command).2 := by
  obtain ⟨same, holds⟩ := (Mailbox.make_holds size).useAll uses
  exact ⟨same, holds, fun command => Mailbox.apply_spares _ command⟩

end AudioHost
