import AudioHost.Ring.Basic

/-!
# The contents of a ring

What each operation does to the list of waiting items.
-/

set_option autoImplicit false

namespace AudioHost.Ring

open Cursor

variable {α : Type}

theorem capacity_pos (ring : Ring α) : 0 < ring.capacity := by
  have bound := ring.read_lt
  simp only [capacity]
  omega

theorem size_le (ring : Ring α) : ring.size ≤ ring.capacity := ring.distance_le

theorem size_add_room (ring : Ring α) : ring.size + ring.room = ring.capacity := by
  have bound := ring.size_le
  simp only [room]
  omega

theorem peek?_of_lt (ring : Ring α) {offset : Nat} (bound : offset < ring.size) :
    ∃ item, ring.peek? offset = some item := by
  obtain ⟨item, known⟩ := ring.filled offset bound
  exact ⟨item, by simp [peek?, known]⟩

theorem filterMap_agree {β γ : Type} {left right : β → Option γ} (items : List β)
    (same : ∀ item ∈ items, left item = right item) :
    items.filterMap left = items.filterMap right := by
  induction items with
  | nil => rfl
  | cons first rest ih =>
    simp only [List.filterMap_cons, same first (List.mem_cons_self ..),
      ih fun item member => same item (List.mem_cons_of_mem _ member)]

theorem length_filterMap_range {β : Type} (pick : Nat → Option β) (count : Nat)
    (found : ∀ offset < count, ∃ item, pick offset = some item) :
    ((List.range count).filterMap pick).length = count := by
  induction count with
  | zero => rfl
  | succ count ih =>
    obtain ⟨item, known⟩ := found count (Nat.lt_succ_self count)
    rw [List.range_succ, List.filterMap_append, List.length_append,
      ih fun offset bound => found offset (Nat.lt_succ_of_lt bound)]
    simp [known]

@[simp] theorem length_toList (ring : Ring α) : ring.toList.length = ring.size :=
  length_filterMap_range ring.peek? ring.size fun _ bound => ring.peek?_of_lt bound

@[simp] theorem toList_make? {capacity : Nat} {ring : Ring α} (known : make? capacity = some ring) :
    ring.toList = [] := by
  simp only [make?] at known
  split at known
  · cases known
    simp [toList, size, distance]
  · cases known

theorem capacity_make? {capacity : Nat} {ring : Ring α} (known : make? capacity = some ring) :
    ring.capacity = capacity := by
  simp only [make?] at known
  split at known
  · cases known
    simp [Ring.capacity]
  · cases known

theorem toList_eq_nil_iff (ring : Ring α) : ring.toList = [] ↔ ring.size = 0 := by
  rw [← List.length_eq_zero_iff, length_toList]

theorem push?_eq_none_iff (ring : Ring α) (item : α) :
    ring.push? item = none ↔ ring.capacity ≤ ring.size := by
  simp only [push?, capacity, size]
  split <;> simp_all

theorem capacity_push? {ring pushed : Ring α} {item : α} (known : ring.push? item = some pushed) :
    pushed.capacity = ring.capacity := by
  simp only [push?] at known
  split at known
  · cases known
    simp [capacity]
  · cases known

theorem toList_push? {ring pushed : Ring α} {item : α} (known : ring.push? item = some pushed) :
    pushed.toList = ring.toList ++ [item] := by
  simp only [push?] at known
  split at known
  case isTrue room =>
    cases known
    have here : slot ring.cells.size ring.write < ring.cells.size := slot_lt ring.write_lt
    have last := advance_distance ring.read_lt ring.write_lt
    simp only [toList, size]
    simp only [Array.size_setIfInBounds]
    rw [distance_advance_write ring.read_lt ring.write_lt room, List.range_succ,
      List.filterMap_append]
    congr 1
    -- The cells before the new one are not touched.
    · apply filterMap_agree
      intro offset bound
      rw [List.mem_range] at bound
      have apart := slot_advance_ne ring.read_lt bound room
      rw [last] at apart
      simp only [peek?, Array.size_setIfInBounds]
      rw [Array.getElem?_setIfInBounds_ne (Ne.symm apart)]
    -- The new one is the last of the list.
    · simp [peek?, last, here]
  case isFalse => cases known

theorem pop?_eq_none_iff (ring : Ring α) : ring.pop? = none ↔ ring.toList = [] := by
  rw [toList_eq_nil_iff]
  simp only [pop?]
  split
  case isTrue waiting =>
    obtain ⟨item, known⟩ := ring.peek?_of_lt waiting
    simp only [known, Option.map_some, reduceCtorEq, false_iff]
    simp only [size]
    omega
  case isFalse empty =>
    simp only [true_iff]
    simp only [size]
    omega

theorem capacity_pop? {ring rest : Ring α} {item : α} (known : ring.pop? = some (item, rest)) :
    rest.capacity = ring.capacity := by
  simp only [pop?] at known
  split at known
  · obtain ⟨_, _, same⟩ := Option.map_eq_some_iff.mp known
    cases same
    rfl
  · cases known

theorem toList_pop? {ring rest : Ring α} {item : α} (known : ring.pop? = some (item, rest)) :
    ring.toList = item :: rest.toList := by
  simp only [pop?] at known
  split at known
  case isTrue waiting =>
    obtain ⟨front, found, same⟩ := Option.map_eq_some_iff.mp known
    cases same
    have shorter := distance_advance_read ring.read_lt ring.write_lt waiting
    have whole := ring.distance_le
    have readBound := ring.read_lt
    unfold toList size
    simp only
    -- The item at offset zero comes out; every other one moves up by one.
    rw [← shorter, List.range_succ_eq_map, List.filterMap_cons_some found, List.filterMap_map]
    congr 1
    apply filterMap_agree
    intro offset bound
    rw [List.mem_range] at bound
    simp only [peek?, Function.comp_apply, Nat.succ_eq_add_one]
    rw [advance_advance readBound (by omega)]
  case isFalse => cases known

theorem front?_eq_head? (ring : Ring α) : ring.front? = ring.toList.head? := by
  simp only [front?]
  split
  case isTrue waiting =>
    cases taken : ring.pop? with
    | none =>
      rw [pop?_eq_none_iff, toList_eq_nil_iff] at taken
      omega
    | some result =>
      obtain ⟨item, rest⟩ := result
      rw [toList_pop? taken]
      simp only [pop?] at taken
      split at taken
      · obtain ⟨front, found, same⟩ := Option.map_eq_some_iff.mp taken
        cases same
        simpa using found
      · cases taken
  case isFalse empty =>
    have none := (toList_eq_nil_iff ring).mpr (by omega)
    simp [none]

theorem capacity_foldlM_push? {ring pushed : Ring α} {items : List α}
    (known : items.foldlM push? ring = some pushed) : pushed.capacity = ring.capacity := by
  induction items generalizing ring with
  | nil =>
    cases known
    rfl
  | cons item rest ih =>
    obtain ⟨next, first, later⟩ := Option.bind_eq_some_iff.mp known
    rw [ih later, capacity_push? first]

theorem toList_foldlM_push? {ring pushed : Ring α} {items : List α}
    (known : items.foldlM push? ring = some pushed) : pushed.toList = ring.toList ++ items := by
  induction items generalizing ring with
  | nil =>
    cases known
    simp
  | cons item rest ih =>
    obtain ⟨next, first, later⟩ := Option.bind_eq_some_iff.mp known
    rw [ih later, toList_push? first, List.append_assoc, List.singleton_append]

theorem foldlM_push?_isSome {ring : Ring α} {items : List α}
    (room : items.length + ring.size ≤ ring.capacity) :
    (items.foldlM push? ring).isSome := by
  induction items generalizing ring with
  | nil => rfl
  | cons item rest ih =>
    cases first : ring.push? item with
    | none =>
      have full := (push?_eq_none_iff ring item).mp first
      simp only [List.length_cons] at room
      omega
    | some next =>
      have grown : next.size = ring.size + 1 := by
        rw [← length_toList, toList_push? first]
        simp
      have same := capacity_push? first
      simp only [List.length_cons] at room
      have more : (rest.foldlM push? next).isSome := ih (by omega)
      simpa [List.foldlM_cons, first] using more

theorem append?_isSome_iff (ring : Ring α) (items : List α) :
    (ring.append? items).isSome ↔ ring.toList.length + items.length ≤ ring.capacity := by
  have whole := ring.size_add_room
  simp only [append?]
  split
  case isTrue fits =>
    have done : (items.foldlM push? ring).isSome := foldlM_push?_isSome (by omega)
    simp only [done, length_toList, true_iff]
    omega
  case isFalse =>
    simp only [length_toList, Option.isSome_none, Bool.false_eq_true, false_iff]
    omega

theorem capacity_append? {ring pushed : Ring α} {items : List α}
    (known : ring.append? items = some pushed) : pushed.capacity = ring.capacity := by
  simp only [append?] at known
  split at known
  · exact capacity_foldlM_push? known
  · cases known

theorem toList_append? {ring pushed : Ring α} {items : List α}
    (known : ring.append? items = some pushed) : pushed.toList = ring.toList ++ items := by
  simp only [append?] at known
  split at known
  · exact toList_foldlM_push? known
  · cases known

@[simp] theorem takeMany_fst (ring : Ring α) (count : Nat) :
    (ring.takeMany count).1 = ring.toList.take count := by
  induction count generalizing ring with
  | zero => rfl
  | succ count ih =>
    simp only [takeMany]
    split
    case h_1 none => simp [(pop?_eq_none_iff ring).mp none]
    case h_2 item rest known => simp [toList_pop? known, ih]

@[simp] theorem toList_takeMany (ring : Ring α) (count : Nat) :
    (ring.takeMany count).2.toList = ring.toList.drop count := by
  induction count generalizing ring with
  | zero => rfl
  | succ count ih =>
    simp only [takeMany]
    split
    case h_1 none => simp [(pop?_eq_none_iff ring).mp none]
    case h_2 item rest known => simp [toList_pop? known, ih]

@[simp] theorem capacity_takeMany (ring : Ring α) (count : Nat) :
    (ring.takeMany count).2.capacity = ring.capacity := by
  induction count generalizing ring with
  | zero => rfl
  | succ count ih =>
    simp only [takeMany]
    split
    case h_1 => rfl
    case h_2 item rest known => simp [ih, capacity_pop? known]

/-- A frame is taken when its header and all of its payload wait and the payload fits. -/
theorem takeFrame?_eq_some_iff {ring : Ring α} {payloadLength : α → Nat} {buffer : List α}
    {taken : TakenFrame α} :
    ring.takeFrame? payloadLength buffer = some taken ↔
      ∃ header rest, ring.toList = header :: rest ∧
        payloadLength header ≤ buffer.length ∧ payloadLength header ≤ rest.length ∧
        taken = ⟨payloadLength header,
          rest.take (payloadLength header) ++ buffer.drop (payloadLength header),
          (ring.takeMany (payloadLength header + 1)).2⟩ := by
  simp only [takeFrame?]
  rw [front?_eq_head?, ← length_toList]
  cases contents : ring.toList with
  | nil => simp
  | cons header rest =>
    simp only [List.head?_cons, List.length_cons, Nat.add_le_add_iff_right, takeMany_fst, contents,
      List.take_succ_cons, List.drop_succ_cons, List.drop_zero, List.cons.injEq]
    constructor
    · intro known
      split at known
      case isTrue fits =>
        cases known
        exact ⟨header, rest, ⟨rfl, rfl⟩, fits.1, fits.2, rfl⟩
      case isFalse => cases known
    · rintro ⟨_, _, ⟨rfl, rfl⟩, fits, whole, rfl⟩
      simp [fits, whole]

end AudioHost.Ring
