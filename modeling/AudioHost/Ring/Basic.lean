import AudioHost.Ring.Cursor

/-!
# Rings

A bounded first-in first-out store in a fixed run of cells. A ring carries the proof that its
occupied cells are filled, and `Ring.toList` is all that the rest of the library needs to know
about it.
-/

set_option autoImplicit false

namespace AudioHost

open Cursor

/-- A store of bounded size that gives its items back in the order in which they came. -/
structure Ring (α : Type) where
  cells : Array (Option α)
  read : Nat
  write : Nat
  read_lt : read < 2 * cells.size
  write_lt : write < 2 * cells.size
  distance_le : distance cells.size read write ≤ cells.size
  filled : ∀ offset < distance cells.size read write,
    ∃ item, cells[slot cells.size (advance cells.size read offset)]? = some (some item)

namespace Ring

variable {α : Type}

def capacity (ring : Ring α) : Nat := ring.cells.size

def size (ring : Ring α) : Nat := distance ring.cells.size ring.read ring.write

def room (ring : Ring α) : Nat := ring.capacity - ring.size

def peek? (ring : Ring α) (offset : Nat) : Option α :=
  (ring.cells[slot ring.cells.size (advance ring.cells.size ring.read offset)]?).join

def toList (ring : Ring α) : List α := (List.range ring.size).filterMap ring.peek?

def make? (capacity : Nat) : Option (Ring α) :=
  if positive : 0 < capacity then
    some {
      cells := Array.replicate capacity none
      read := 0
      write := 0
      read_lt := by simp; omega
      write_lt := by simp; omega
      distance_le := by simp [distance]
      filled := by simp [distance] }
  else none

def front? (ring : Ring α) : Option α := if 0 < ring.size then ring.peek? 0 else none

def push? (ring : Ring α) (item : α) : Option (Ring α) :=
  if room : distance ring.cells.size ring.read ring.write < ring.cells.size then
    some {
      cells := ring.cells.setIfInBounds (slot ring.cells.size ring.write) (some item)
      read := ring.read
      write := advance ring.cells.size ring.write 1
      read_lt := by simpa using ring.read_lt
      write_lt := by
        have bound := ring.write_lt
        simpa using advance_lt bound (by omega)
      distance_le := by
        rw [Array.size_setIfInBounds, distance_advance_write ring.read_lt ring.write_lt room]
        exact room
      filled := by
        intro offset bound
        rw [Array.size_setIfInBounds] at bound ⊢
        rw [distance_advance_write ring.read_lt ring.write_lt room] at bound
        have here : slot ring.cells.size ring.write < ring.cells.size := slot_lt ring.write_lt
        have last := advance_distance ring.read_lt ring.write_lt
        -- The cell that was written now, or one that was filled before and lies elsewhere.
        by_cases new : offset = distance ring.cells.size ring.read ring.write
        · subst new
          exact ⟨item, by rw [last]; simp [here]⟩
        · obtain ⟨kept, known⟩ := ring.filled offset (by omega)
          have before : offset < distance ring.cells.size ring.read ring.write := by omega
          have apart := slot_advance_ne ring.read_lt before room
          rw [last] at apart
          exact ⟨kept, by rw [Array.getElem?_setIfInBounds_ne (Ne.symm apart)]; exact known⟩ }
  else none

def pop? (ring : Ring α) : Option (α × Ring α) :=
  if waiting : 0 < distance ring.cells.size ring.read ring.write then
    (ring.peek? 0).map fun item => (item, {
      cells := ring.cells
      read := advance ring.cells.size ring.read 1
      write := ring.write
      read_lt := by
        have bound := ring.read_lt
        exact advance_lt bound (by omega)
      write_lt := ring.write_lt
      distance_le := by
        have shorter := distance_advance_read ring.read_lt ring.write_lt waiting
        have bound := ring.distance_le
        omega
      filled := by
        intro offset bound
        have shorter := distance_advance_read ring.read_lt ring.write_lt waiting
        have whole := ring.distance_le
        -- What was second in line is first now.
        rw [advance_advance ring.read_lt (by omega)]
        exact ring.filled (offset + 1) (by omega) })
  else none

def append? (ring : Ring α) (items : List α) : Option (Ring α) :=
  if items.length ≤ ring.room then items.foldlM push? ring else none

def takeMany (ring : Ring α) : Nat → List α × Ring α
  | 0 => ([], ring)
  | count + 1 =>
    match ring.pop? with
    | none => ([], ring)
    | some (item, rest) =>
      let (items, rest) := rest.takeMany count
      (item :: items, rest)

structure TakenFrame (α : Type) where
  length : Nat
  buffer : List α
  ring : Ring α

/-- Take one frame: a header, then as many items as the header says. The frame stays where it is
while it is not complete or its payload is longer than the buffer. -/
def takeFrame? (ring : Ring α) (payloadLength : α → Nat) (buffer : List α) :
    Option (TakenFrame α) :=
  match ring.front? with
  | none => none
  | some header =>
    let length := payloadLength header
    if length ≤ buffer.length ∧ length + 1 ≤ ring.size then
      let (frame, rest) := ring.takeMany (length + 1)
      some ⟨length, frame.drop 1 ++ buffer.drop length, rest⟩
    else none

end Ring

end AudioHost
