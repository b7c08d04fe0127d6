import AudioHost.Proofs.CanonicalForms
import AudioHost.Proofs.MailboxQueues

/-!
# Framing

Which buffers have a canonical message, and which bytes it has. A canonical message is its own
canonical message, and only what can be seen in the longest message decides.
-/

set_option autoImplicit false

namespace AudioHost

/-- The note-off on the channel of a note-on; any other status stays what it is. -/
def Status.quieted (status : UInt8) : UInt8 :=
  if 0x90 ≤ status ∧ status ≤ 0x9F then status - 0x10 else status

theorem Status.quieted_eq (status : UInt8) :
    quieted status = if kind status = noteOn then channel status ||| noteOff else status := by
  cases status with
  | ofBitVec bits =>
    cases bits with
    | ofFin value =>
      revert value
      decide +kernel

namespace ChannelData

theorem ofBuffer_eq (buffer : List UInt8) :
    ofBuffer buffer = ⟨buffer.getD 0 0, buffer.getD 1 0, buffer.getD 2 0⟩ := by
  match buffer with
  | [] | [_] | [_, _] | _ :: _ :: _ :: _ => rfl

theorem ofBuffer_take {count : Nat} (enough : 3 ≤ count) (buffer : List UInt8) :
    ofBuffer (buffer.take count) = ofBuffer buffer := by
  have here (index : Nat) (bound : index < 3) :
      (buffer.take count).getD index 0 = buffer.getD index 0 := by
    rw [List.getD_eq_getElem?_getD, List.getElem?_take_of_lt (by omega),
      List.getD_eq_getElem?_getD]
  rw [ofBuffer_eq, ofBuffer_eq, here 0 (by omega), here 1 (by omega), here 2 (by omega)]

theorem canonical_eq (data : ChannelData) :
    data.canonical =
      { data with
        status := if data.second = 0 then Status.quieted data.status else data.status } := by
  by_cases zero : data.second = 0
  · by_cases kind : Status.kind data.status = Status.noteOn
    · simp [canonical, IsSilentNoteOn, Status.quieted_eq, zero, kind]
    · simp [canonical, IsSilentNoteOn, Status.quieted_eq, kind]
  · simp [canonical, IsSilentNoteOn, zero]

theorem canonical_of_not_silent {data : ChannelData} (loud : ¬ data.IsSilentNoteOn) :
    data.canonical = data := if_neg loud

end ChannelData

/-- The first terminator of a buffer is at an index. -/
def EndsAt (buffer : List UInt8) (index : Nat) : Prop :=
  buffer[index]? = some Status.blockEnd ∧
    ∀ earlier < index, buffer[earlier]? ≠ some Status.blockEnd

theorem EndsAt.append {buffer : List UInt8} {index : Nat} (ends : EndsAt buffer index)
    (more : List UInt8) : EndsAt (buffer ++ more) index := by
  obtain ⟨bound, -⟩ := List.getElem?_eq_some_iff.mp ends.1
  refine ⟨by rw [List.getElem?_append_left bound]; exact ends.1, fun earlier before => ?_⟩
  rw [List.getElem?_append_left (by omega)]
  exact ends.2 earlier before

theorem EndsAt.of_block {inside : List UInt8} (unended : Status.blockEnd ∉ inside) :
    EndsAt (Status.blockStart :: (inside ++ [Status.blockEnd])) (inside.length + 1) := by
  refine ⟨by simp, fun earlier before => ?_⟩
  cases earlier with
  | zero => simp [Status.blockStart, Status.blockEnd]
  | succ earlier =>
    rw [List.getElem?_cons_succ, List.getElem?_append_left (by omega)]
    exact fun found => unended (List.mem_of_getElem? found)

theorem blockLength?_eq_some_iff {buffer : List UInt8} {length : Nat} :
    blockLength? buffer = some length ↔
      ∃ index < Message.maxLength, EndsAt buffer index ∧ length = index + 1 := by
  have seen (index : Nat) (near : index < Message.maxLength) :
      (buffer.take Message.maxLength)[index]? = buffer[index]? := List.getElem?_take_of_lt near
  simp only [blockLength?, Option.map_eq_some_iff, List.findIdx?_eq_some_iff_getElem]
  constructor
  · rintro ⟨index, ⟨bound, ends, before⟩, rfl⟩
    have near : index < Message.maxLength := by
      simp only [List.length_take] at bound
      omega
    refine ⟨index, near, ⟨?_, fun earlier less found => ?_⟩, rfl⟩
    · rw [← seen index near, List.getElem?_eq_getElem bound, beq_iff_eq.mp ends]
    · rw [← seen earlier (by omega), List.getElem?_eq_getElem (by omega)] at found
      exact before earlier less (beq_iff_eq.mpr (Option.some.inj found))
  · rintro ⟨index, near, ⟨ends, before⟩, rfl⟩
    rw [← seen index near] at ends
    obtain ⟨bound, ends⟩ := List.getElem?_eq_some_iff.mp ends
    refine ⟨index, ⟨bound, beq_iff_eq.mpr ends, fun earlier less found => ?_⟩, rfl⟩
    refine before earlier less ?_
    rw [← seen earlier (by omega), List.getElem?_eq_getElem (by omega), beq_iff_eq.mp found]

theorem blockLength?_eq_none_iff {buffer : List UInt8} :
    blockLength? buffer = none ↔ Status.blockEnd ∉ buffer.take Message.maxLength := by
  simp only [blockLength?, Option.map_eq_none_iff, List.findIdx?_eq_none_iff, beq_eq_false_iff_ne]
  exact ⟨fun others ended => others _ ended rfl,
    fun unended byte seen same => unended (same ▸ seen)⟩

theorem blockLength?_take (buffer : List UInt8) :
    blockLength? (buffer.take Message.maxLength) = blockLength? buffer := by
  rw [blockLength?, blockLength?, List.take_take, Nat.min_self]

namespace Message

variable {buffer : List UInt8} {message : Message}

theorem canonical?_block (starts : buffer.head? = some Status.blockStart) :
    canonical? buffer = (blockLength? buffer).bind fun length => ofBytes? (buffer.take length) := by
  obtain ⟨rest, rfl⟩ := List.head?_eq_some_iff.mp starts
  simp only [canonical?, if_pos]
  cases blockLength? (Status.blockStart :: rest) <;> rfl

theorem canonical?_short (known : buffer ≠ []) (plain : buffer.head? ≠ some Status.blockStart) :
    canonical? buffer = some (ChannelData.ofBuffer buffer).canonical.message := by
  obtain ⟨status, rest, rfl⟩ := List.exists_cons_of_ne_nil known
  have other : status ≠ Status.blockStart := by simpa using plain
  simp [canonical?, other, ChannelData.canonical?]

theorem canonical?_block_iff (starts : buffer.head? = some Status.blockStart) :
    canonical? buffer = some message ↔
      ∃ index < maxLength, EndsAt buffer index ∧ message.bytes = buffer.take (index + 1) := by
  simp only [canonical?_block starts, Option.bind_eq_some_iff, blockLength?_eq_some_iff,
    ofBytes?_eq_some_iff]
  constructor
  · rintro ⟨_, ⟨index, near, ends, rfl⟩, bytes⟩
    exact ⟨index, near, ends, bytes⟩
  · rintro ⟨index, near, ends, bytes⟩
    exact ⟨_, ⟨index, near, ends, rfl⟩, bytes⟩

theorem canonical?_block_of_ends (starts : buffer.head? = some Status.blockStart) {index : Nat}
    (near : index < maxLength) (ends : EndsAt buffer index) :
    ∃ message, canonical? buffer = some message ∧ message.bytes = buffer.take (index + 1) := by
  have fits : (buffer.take (index + 1)).length ≤ maxLength := by
    rw [List.length_take]
    omega
  exact ⟨⟨_, fits⟩, (canonical?_block_iff starts).mpr ⟨index, near, ends, rfl⟩, rfl⟩

theorem canonical?_eq_none_iff :
    canonical? buffer = none ↔ buffer = [] ∨
      buffer.head? = some Status.blockStart ∧ Status.blockEnd ∉ buffer.take maxLength := by
  by_cases empty : buffer = []
  · subst empty
    simp [canonical?]
  by_cases starts : buffer.head? = some Status.blockStart
  · rw [← blockLength?_eq_none_iff, canonical?_block starts]
    cases scanned : blockLength? buffer with
    | none => simp [starts]
    | some length =>
      have bound := blockLength?_le scanned
      simp only [Option.bind_some, ofBytes?_eq_none_iff, List.length_take, empty, starts,
        reduceCtorEq, and_false, or_false, iff_false]
      omega
  · simp [canonical?_short empty starts, empty, starts]

/-- Bytes beyond the longest message are not looked at. -/
theorem canonical?_take (buffer : List UInt8) :
    canonical? (buffer.take maxLength) = canonical? buffer := by
  by_cases empty : buffer = []
  · subst empty
    rfl
  have head : (buffer.take maxLength).head? = buffer.head? := by
    rw [List.head?_take, if_neg (by decide)]
  by_cases starts : buffer.head? = some Status.blockStart
  · rw [canonical?_block starts, canonical?_block (head.trans starts), blockLength?_take]
    refine Option.bind_congr fun length scanned => ?_
    rw [List.take_take, Nat.min_eq_left (blockLength?_le scanned)]
  · rw [canonical?_short empty starts, canonical?_short ?_ (by rwa [head]),
      ChannelData.ofBuffer_take (by decide)]
    simpa [maxLength] using empty

theorem canonical?_append (starts : buffer.head? = some Status.blockStart)
    (known : canonical? buffer = some message) (more : List UInt8) :
    canonical? (buffer ++ more) = some message := by
  obtain ⟨index, near, ends, bytes⟩ := (canonical?_block_iff starts).mp known
  obtain ⟨bound, -⟩ := List.getElem?_eq_some_iff.mp ends.1
  have still : (buffer ++ more).head? = some Status.blockStart := by
    rw [List.head?_append, starts, Option.some_or]
  refine (canonical?_block_iff still).mpr ⟨index, near, ends.append more, ?_⟩
  rw [bytes, List.take_append_of_le_length bound]

/-- Neither kind of canonical message is changed by the other kind's rule. -/
theorem canonical?_bytes_of_isCanonical (canonical : message.IsCanonical)
    (loud : ¬ message.IsSilentNoteOn) : canonical? message.bytes = some message := by
  cases canonical with
  | short status first second bytes plain =>
    have same : message = (ChannelData.mk status first second).message := by
      cases message
      cases bytes
      rfl
    rw [canonical?_short (by simp [bytes]) (by simpa [bytes] using plain), bytes,
      ChannelData.ofBuffer, same]
    rw [same, ChannelData.silent_message_iff] at loud
    rw [ChannelData.canonical_of_not_silent loud]
  | block inside bytes unended within =>
    have starts : message.bytes.head? = some Status.blockStart := by rw [bytes]; rfl
    refine (canonical?_block_iff starts).mpr ⟨inside.length + 1, by omega, ?_, ?_⟩
    · rw [bytes]
      exact .of_block unended
    · rw [bytes, List.take_of_length_le (by simp)]

theorem canonical?_bytes (known : canonical? buffer = some message) :
    canonical? message.bytes = some message := by
  obtain ⟨canonical, loud⟩ := isCanonical_of_canonical? known
  exact canonical?_bytes_of_isCanonical canonical loud

theorem bytes_short (known : buffer ≠ []) (plain : buffer.head? ≠ some Status.blockStart) :
    ∃ message, canonical? buffer = some message ∧
      message.bytes =
        [if buffer.getD 2 0 = 0 then Status.quieted (buffer.getD 0 0) else buffer.getD 0 0,
          buffer.getD 1 0, buffer.getD 2 0] := by
  refine ⟨_, canonical?_short known plain, ?_⟩
  rw [ChannelData.canonical_eq, ChannelData.ofBuffer_eq]
  rfl

end Message

/-- A mailbox refuses a message for want of room alone. -/
theorem Mailbox.send?_bytes_isSome_iff (mailbox : Mailbox) (message : Message) :
    (mailbox.send? message.bytes).isSome ↔ ∃ ring, mailbox.outgoing = some ring ∧
      ring.toList.length + (1 + message.length) ≤ ring.capacity := by
  cases side : mailbox.outgoing with
  | none => simp [send?, side]
  | some ring =>
    have room := ring.append?_isSome_iff message.frame
    rw [message.length_frame] at room
    cases appended : ring.append? message.frame with
    | none => simpa [send?, side, appended] using room
    | some after => simpa [send?, side, appended] using room

/-- What becomes of a buffer, told by its bytes. -/
structure Message.Framed (buffer : List UInt8) : Prop where
  refused : canonical? buffer = none ↔ buffer = [] ∨
    buffer.head? = some Status.blockStart ∧ Status.blockEnd ∉ buffer.take 255
  block : buffer.head? = some Status.blockStart → ∀ index ≤ 254, EndsAt buffer index →
    ∃ message, canonical? buffer = some message ∧ message.bytes = buffer.take (index + 1)
  short : buffer ≠ [] → buffer.head? ≠ some Status.blockStart →
    ∃ message, canonical? buffer = some message ∧
      message.bytes =
        [if buffer.getD 2 0 = 0 then Status.quieted (buffer.getD 0 0) else buffer.getD 0 0,
          buffer.getD 1 0, buffer.getD 2 0]
  again : ∀ message, canonical? buffer = some message → canonical? message.bytes = some message
  within : ∀ other : List UInt8, other.take 255 = buffer.take 255 →
    canonical? other = canonical? buffer
  extended : buffer.head? = some Status.blockStart → ∀ message, canonical? buffer = some message →
    ∀ more, canonical? (buffer ++ more) = some message
  rebuilt : ∀ message, canonical? buffer = some message → ofBytes? message.bytes = some message
  sent : ∀ message, canonical? buffer = some message → ∀ mailbox : Mailbox,
    (mailbox.send? message.bytes).isSome ↔ ∃ ring, mailbox.outgoing = some ring ∧
      ring.toList.length + (1 + message.length) ≤ ring.capacity

/-- A buffer has a canonical message unless it is empty or starts a block that does not end within
the longest message. A block is kept up to its first terminator; anything else becomes three bytes,
of which only the status of a silent note-on is changed. -/
theorem canonical_message_framed (buffer : List UInt8) : Message.Framed buffer where
  refused := Message.canonical?_eq_none_iff
  block starts _ near ends := Message.canonical?_block_of_ends starts (Nat.lt_succ_of_le near) ends
  short := Message.bytes_short
  again _ known := Message.canonical?_bytes known
  within other same := by
    rw [← Message.canonical?_take other, ← Message.canonical?_take buffer]
    exact congrArg Message.canonical? same
  extended starts _ known more := Message.canonical?_append starts known more
  rebuilt message _ := message.ofBytes?_bytes
  sent message _ mailbox := mailbox.send?_bytes_isSome_iff message

-- A velocity that is missing counts as zero.
example : (Message.canonical? [0x93, 60]).map Message.bytes = some [0x83, 60, 0] := by decide

end AudioHost
