import AudioHost.Ring.Contents

/-!
# A ring is a bounded list

Wherever its cursors stand, a ring shows just what a list of bounded length would show. A frame may
lie across the end of the cells, and a refused operation leaves everything in its place.
-/

set_option autoImplicit false

namespace AudioHost.Ring

inductive Use (α : Type) where
  | push (item : α)
  | pop
  | append (items : List α)
  /-- Take a frame into a buffer; the length of its payload is read off its header. -/
  | takeFrame (payloadLength : α → Nat) (buffer : List α)

inductive Sight (α : Type) where
  | accepted (accepted : Bool)
  | item (item : Option α)
  /-- The length of the payload, if a frame was taken, and what the buffer holds afterwards. -/
  | frame (length : Option Nat) (buffer : List α)
deriving DecidableEq

variable {α : Type}

/-- What comes of an attempt to add to a ring. -/
def attempt (ring : Ring α) : Option (Ring α) → Sight α × Ring α
  | none => (.accepted false, ring)
  | some next => (.accepted true, next)

def use (ring : Ring α) : Use α → Sight α × Ring α
  | .push item => ring.attempt (ring.push? item)
  | .pop =>
    match ring.pop? with
    | none => (.item none, ring)
    | some (item, rest) => (.item (some item), rest)
  | .append items => ring.attempt (ring.append? items)
  | .takeFrame payloadLength buffer =>
    match ring.takeFrame? payloadLength buffer with
    | none => (.frame none buffer, ring)
    | some taken => (.frame (some taken.length) taken.buffer, taken.ring)

def useAll : Ring α → List (Use α) → List (Sight α) × Ring α
  | ring, [] => ([], ring)
  | ring, use :: rest =>
    let (sight, ring) := ring.use use
    (ring.useAll rest).map (sight :: ·) id

/-- What an operation is to do with a list that holds `capacity` items at most. -/
def Use.onList (capacity : Nat) (items : List α) : Use α → Sight α × List α
  | .push item =>
    if items.length < capacity then (.accepted true, items ++ [item]) else (.accepted false, items)
  | .pop =>
    match items with
    | [] => (.item none, [])
    | item :: rest => (.item (some item), rest)
  | .append more =>
    if items.length + more.length ≤ capacity then (.accepted true, items ++ more)
    else (.accepted false, items)
  | .takeFrame payloadLength buffer =>
    match items with
    | [] => (.frame none buffer, [])
    | header :: rest =>
      let length := payloadLength header
      if length ≤ buffer.length ∧ length + 1 ≤ items.length then
        (.frame (some length) (rest.take length ++ buffer.drop length), items.drop (length + 1))
      else (.frame none buffer, items)

def Use.allOnList (capacity : Nat) : List α → List (Use α) → List (Sight α) × List α
  | items, [] => ([], items)
  | items, use :: rest =>
    let (sight, items) := use.onList capacity items
    (allOnList capacity items rest).map (sight :: ·) id

/-- A ring shows what a list of at most `capacity` items shows in a sequence of operations, and
holds the same items in the end. Its free places are those that the list leaves. -/
structure ActsAs (ring : Ring α) (capacity : Nat) (items : List α) (uses : List (Use α)) :
    Prop where
  results : (ring.useAll uses).1 = (Use.allOnList capacity items uses).1
  contents : (ring.useAll uses).2.toList = (Use.allOnList capacity items uses).2
  bounded : (Use.allOnList capacity items uses).2.length ≤ capacity
  occupied : (ring.useAll uses).2.size = (Use.allOnList capacity items uses).2.length
  vacant : (ring.useAll uses).2.size + (ring.useAll uses).2.room = capacity

section

variable {ring : Ring α}

theorem push?_isSome_iff (ring : Ring α) (item : α) :
    (ring.push? item).isSome ↔ ring.toList.length < ring.capacity := by
  rw [length_toList, ← Nat.not_le, ← push?_eq_none_iff ring item, Option.isSome_iff_ne_none]

theorem capacity_takeFrame? {payloadLength : α → Nat} {buffer : List α} {taken : TakenFrame α}
    (known : ring.takeFrame? payloadLength buffer = some taken) :
    taken.ring.capacity = ring.capacity := by
  obtain ⟨header, rest, contents, fits, whole, rfl⟩ := takeFrame?_eq_some_iff.mp known
  exact ring.capacity_takeMany _

theorem attempt_toList {result : Option (Ring α)} {added : List α} {fits : Prop} [Decidable fits]
    (taken : result.isSome ↔ fits)
    (contents : ∀ next, result = some next → next.toList = ring.toList ++ added) :
    (ring.attempt result).map id toList =
      if fits then (.accepted true, ring.toList ++ added) else (.accepted false, ring.toList) := by
  cases result with
  | none =>
    have full : ¬ fits := by simpa using taken
    rw [if_neg full]
    rfl
  | some next =>
    have room : fits := by simpa using taken
    rw [if_pos room, ← contents next rfl]
    rfl

theorem capacity_attempt {result : Option (Ring α)}
    (kept : ∀ next, result = some next → next.capacity = ring.capacity) :
    (ring.attempt result).2.capacity = ring.capacity := by
  cases result with
  | none => rfl
  | some next => exact kept next rfl

theorem takeFrame_toList (ring : Ring α) (payloadLength : α → Nat) (buffer : List α) :
    (ring.use (.takeFrame payloadLength buffer)).map id toList =
      (Use.takeFrame payloadLength buffer).onList ring.capacity ring.toList := by
  simp only [use]
  cases known : ring.takeFrame? payloadLength buffer with
  | some taken =>
    obtain ⟨header, rest, contents, fits, whole, rfl⟩ := takeFrame?_eq_some_iff.mp known
    simp [Use.onList, contents, fits, whole]
  | none =>
    cases contents : ring.toList with
    | nil => simp [Use.onList, contents]
    | cons header rest =>
      -- A complete frame that fits would have been taken.
      have refused : ¬ (payloadLength header ≤ buffer.length ∧
          payloadLength header + 1 ≤ (header :: rest).length) := by
        rintro ⟨fits, whole⟩
        have taken := takeFrame?_eq_some_iff.mpr
          ⟨header, rest, contents, fits, Nat.le_of_succ_le_succ whole, rfl⟩
        rw [known] at taken
        cases taken
      simp only [Use.onList, if_neg refused]
      simp [contents]

theorem use_toList (ring : Ring α) (use : Use α) :
    (ring.use use).map id toList = use.onList ring.capacity ring.toList := by
  cases use with
  | push item => exact attempt_toList (ring.push?_isSome_iff item) fun _ => toList_push?
  | append items => exact attempt_toList (ring.append?_isSome_iff items) fun _ => toList_append?
  | takeFrame payloadLength buffer => exact ring.takeFrame_toList payloadLength buffer
  | pop =>
    simp only [Ring.use, Use.onList]
    cases known : ring.pop? with
    | none => simp [(pop?_eq_none_iff ring).mp known]
    | some taken => simp [toList_pop? known]

@[simp] theorem capacity_use (ring : Ring α) (use : Use α) :
    (ring.use use).2.capacity = ring.capacity := by
  cases use with
  | push item => exact capacity_attempt fun _ => capacity_push?
  | append items => exact capacity_attempt fun _ => capacity_append?
  | takeFrame payloadLength buffer =>
    simp only [Ring.use]
    cases known : ring.takeFrame? payloadLength buffer with
    | none => rfl
    | some taken => exact capacity_takeFrame? known
  | pop =>
    simp only [Ring.use]
    cases known : ring.pop? with
    | none => rfl
    | some taken => exact capacity_pop? known

theorem useAll_toList (ring : Ring α) (uses : List (Use α)) :
    (ring.useAll uses).map id toList = Use.allOnList ring.capacity ring.toList uses := by
  induction uses generalizing ring with
  | nil => rfl
  | cons use rest ih =>
    have first := ring.use_toList use
    have later := ih (ring.use use).2
    rw [capacity_use] at later
    simp only [useAll, Use.allOnList, ← first, Prod.map_snd, ← later]
    rfl

@[simp] theorem capacity_useAll (ring : Ring α) (uses : List (Use α)) :
    (ring.useAll uses).2.capacity = ring.capacity := by
  induction uses generalizing ring with
  | nil => rfl
  | cons use rest ih => exact (ih (ring.use use).2).trans (ring.capacity_use use)

/-- This holds of a ring with its cursors anywhere. -/
theorem actsAs (ring : Ring α) (uses : List (Use α)) :
    ring.ActsAs ring.capacity ring.toList uses := by
  have same := ring.useAll_toList uses
  have results : (ring.useAll uses).1 = (Use.allOnList ring.capacity ring.toList uses).1 :=
    congrArg Prod.fst same
  have contents : (ring.useAll uses).2.toList = (Use.allOnList ring.capacity ring.toList uses).2 :=
    congrArg Prod.snd same
  have bound := (ring.useAll uses).2.size_le
  have whole := (ring.useAll uses).2.size_add_room
  rw [capacity_useAll] at bound whole
  refine ⟨results, contents, ?_, ?_, whole⟩
  · rwa [← contents, length_toList]
  · rw [← contents, length_toList]

end

/-- Through any sequence of operations a new ring is a list of bounded length: it takes an item, or
several at once, just when there is room for them, gives items back in order, and gives a frame when
all of it is there and it fits the buffer. -/
theorem ring_acts_as_list {α : Type} {capacity : Nat} (positive : 0 < capacity) :
    ∃ ring : Ring α, make? capacity = some ring ∧
      ∀ uses : List (Use α), ring.ActsAs capacity [] uses := by
  have made : (make? capacity : Option (Ring α)).isSome := by simp [make?, positive]
  obtain ⟨ring, known⟩ := Option.isSome_iff_exists.mp made
  refine ⟨ring, known, fun uses => ?_⟩
  have acts := ring.actsAs uses
  rwa [capacity_make? known, toList_make? known] at acts

/-- The second frame lies across the end of the cells; what comes after it does not fit as a
whole, and the third frame is too long for the buffer. -/
def wrappingUses : List (Use Nat) :=
  [.append [3, 1, 2, 3], .takeFrame id (List.replicate 5 0), .append [4, 10, 11, 12, 13],
    .append [7, 8], .takeFrame id (List.replicate 5 0), .push 2, .takeFrame id [0],
    .append [5, 6], .takeFrame id [0], .pop]

theorem ring_acts_as_list_wrapping :
    0 < 6 ∧ ∃ ring : Ring Nat, make? 6 = some ring ∧ (ring.useAll wrappingUses).1 =
      [.accepted true, .frame (some 3) [1, 2, 3, 0, 0], .accepted true, .accepted false,
        .frame (some 4) [10, 11, 12, 13, 0], .accepted true, .frame none [0], .accepted true,
        .frame none [0], .item (some 2)] := by
  have positive : 0 < 6 := by decide
  obtain ⟨ring, made, acts⟩ := ring_acts_as_list (α := Nat) positive
  exact ⟨positive, ring, made, (acts wrappingUses).results.trans (by decide)⟩

end AudioHost.Ring
