import AudioHost.Midi.Event
import Mathlib.Data.List.Basic

/-!
# The shape of canonical messages

What canonical messages look like, byte for byte, however malformed the buffers were that they are
made from.
-/

set_option autoImplicit false

namespace AudioHost

namespace Message

/-- A note-on of velocity zero, which stands for a note-off. -/
def IsSilentNoteOn (message : Message) : Prop :=
  ∃ status, message.bytes[0]? = some status ∧ Status.kind status = Status.noteOn ∧
    message.bytes[2]? = some 0

/-- Three bytes that start no block, or a block with all its bytes and none behind it. A block is
two bytes long at least and 255 at most. -/
inductive IsCanonical (message : Message) : Prop where
  | short (status first second : UInt8) (bytes : message.bytes = [status, first, second])
      (plain : status ≠ Status.blockStart)
  | block (inside : List UInt8)
      (bytes : message.bytes = Status.blockStart :: (inside ++ [Status.blockEnd]))
      (unended : Status.blockEnd ∉ inside) (within : inside.length + 2 ≤ maxLength)

end Message

theorem Status.kind_channel_or_noteOff (status : UInt8) :
    Status.kind (Status.channel status ||| Status.noteOff) = Status.noteOff := by
  cases status with
  | ofBitVec bits =>
    cases bits with
    | ofFin value =>
      revert value
      decide +kernel

namespace ChannelData

theorem not_silent_canonical (data : ChannelData) : ¬ data.canonical.IsSilentNoteOn := by
  by_cases silent : data.IsSilentNoteOn
  · rw [canonical, if_pos silent]
    rintro ⟨kind, -⟩
    rw [Status.kind_channel_or_noteOff] at kind
    exact absurd kind (by decide)
  · rwa [canonical, if_neg silent]

theorem status_canonical_ne {data : ChannelData} (plain : data.status ≠ Status.blockStart) :
    data.canonical.status ≠ Status.blockStart := by
  simp only [canonical]
  split
  · intro same
    have kind := Status.kind_channel_or_noteOff data.status
    rw [show Status.channel data.status ||| Status.noteOff = Status.blockStart from same] at kind
    exact absurd kind (by decide)
  · exact plain

theorem silent_message_iff (data : ChannelData) :
    data.message.IsSilentNoteOn ↔ data.IsSilentNoteOn := by
  simp [Message.IsSilentNoteOn, message, bytes, IsSilentNoteOn]

theorem canonical?_eq_some_iff {buffer : List UInt8} {data : ChannelData} :
    canonical? buffer = some data ↔ buffer ≠ [] ∧ (ofBuffer buffer).canonical = data := by
  cases buffer <;> simp [canonical?]

theorem not_silent_of_canonical? {buffer : List UInt8} {data : ChannelData}
    (known : canonical? buffer = some data) : ¬ data.message.IsSilentNoteOn := by
  obtain ⟨-, rfl⟩ := canonical?_eq_some_iff.mp known
  rw [silent_message_iff]
  exact not_silent_canonical _

theorem status_ofBuffer (status : UInt8) (rest : List UInt8) :
    (ofBuffer (status :: rest)).status = status := by
  match rest with
  | [] | [_] | _ :: _ :: _ => rfl

end ChannelData

namespace Message

/-- A block ends with the first terminator of its buffer. -/
theorem take_blockLength? {rest : List UInt8} {length : Nat}
    (known : blockLength? (Status.blockStart :: rest) = some length) :
    ∃ inside, (Status.blockStart :: rest).take length =
        Status.blockStart :: (inside ++ [Status.blockEnd]) ∧ Status.blockEnd ∉ inside := by
  simp only [blockLength?] at known
  obtain ⟨index, found, rfl⟩ := Option.map_eq_some_iff.mp known
  have scanned : (Status.blockStart :: rest).take maxLength =
      Status.blockStart :: rest.take 254 := rfl
  rw [scanned] at found
  obtain ⟨bound, ends, before⟩ := List.findIdx?_eq_some_iff_getElem.mp found
  cases index with
  | zero =>
    have started : Status.blockStart = Status.blockEnd := beq_iff_eq.mp ends
    exact absurd started (by decide)
  | succ count =>
    simp only [List.length_cons, List.length_take, List.getElem_cons_succ, beq_iff_eq] at bound ends
    have short : count < (rest.take 254).length := by simp; omega
    refine ⟨(rest.take 254).take count, ?_, ?_⟩
    · have whole := List.take_succ_eq_append_getElem short
      rw [ends, List.take_take, Nat.min_eq_left (by omega)] at whole
      rw [List.take_succ_cons, whole]
    · intro early
      obtain ⟨place, within, same⟩ := List.getElem_of_mem early
      have less : place < count := by
        simp only [List.length_take] at within
        omega
      have differs := before (place + 1) (by omega)
      rw [List.getElem_take] at same
      simp [same] at differs

theorem isCanonical_of_canonical? {buffer : List UInt8} {message : Message}
    (known : canonical? buffer = some message) :
    message.IsCanonical ∧ ¬ message.IsSilentNoteOn := by
  match buffer with
  | [] => cases known
  | status :: rest =>
    simp only [canonical?] at known
    split at known
    next start =>
      subst start
      split at known
      next => cases known
      next length scanned =>
        obtain ⟨inside, block, unended⟩ := take_blockLength? scanned
        have bytes := (ofBytes?_eq_some_iff.mp known).trans block
        have within : inside.length + 2 ≤ maxLength := by
          have bound := message.length_le
          simp only [bytes, List.length_cons, List.length_append, List.length_nil] at bound
          omega
        refine ⟨.block inside bytes unended within, ?_⟩
        rintro ⟨status, first, kind, -⟩
        rw [bytes] at first
        cases first
        exact absurd kind (by decide)
    next plain =>
      obtain ⟨data, canonical, rfl⟩ := Option.map_eq_some_iff.mp known
      refine ⟨?_, ChannelData.not_silent_of_canonical? canonical⟩
      obtain ⟨-, rfl⟩ := ChannelData.canonical?_eq_some_iff.mp canonical
      refine .short _ _ _ rfl (ChannelData.status_canonical_ne ?_)
      rw [ChannelData.status_ofBuffer]
      exact plain

end Message

end AudioHost
