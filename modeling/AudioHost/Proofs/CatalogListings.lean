import AudioHost.Driver.Catalog
import Mathlib.Data.String.Basic

/-!
# The listing of a catalog

The drivers that can be chosen for a role are listed once each, in the order of their bytes.
-/

set_option autoImplicit false

namespace AudioHost

/-- A name in UTF-8. -/
def nameBytes (name : String) : List UInt8 := name.toByteArray.data.toList

theorem nameBytes_eq (name : String) :
    nameBytes name = name.toList.flatMap String.utf8EncodeChar := by
  rw [nameBytes, ← String.utf8Encode_toList, List.utf8Encode, List.toList_data_toByteArray]

theorem ofNat_cons_lt_cons_iff {low high : Nat} (below : low < 256) (above : high < 256)
    {rest others : List UInt8} :
    UInt8.ofNat low :: rest < UInt8.ofNat high :: others ↔
      low < high ∨ low = high ∧ rest < others := by
  simp [List.cons_lt_cons_iff, UInt8.lt_iff_toNat_lt, ← UInt8.toNat_inj,
    Nat.mod_eq_of_lt below, Nat.mod_eq_of_lt above]

/-- The first byte in which two characters differ is the lower one for the lower character, and
neither encoding is the beginning of the other. -/
theorem utf8EncodeChar_lt {first second : Char} (less : first < second)
    (rest others : List UInt8) :
    String.utf8EncodeChar first ++ rest < String.utf8EncodeChar second ++ others := by
  have order : first.val.toNat < second.val.toNat := less
  have bound : second.val.toNat < 0x110000 := by
    have valid := second.valid
    simp only [UInt32.isValidChar, Nat.isValidChar] at valid
    omega
  -- Six bits go into each byte but the first.
  have twice (value : Nat) : value / 4096 = value / 64 / 64 := by omega
  have thrice (value : Nat) : value / 262144 = value / 64 / 64 / 64 := by omega
  simp only [String.utf8EncodeChar, twice, thrice]
  generalize first.val.toNat = low at order
  generalize second.val.toNat = high at order bound
  split_ifs <;>
    simp (disch := omega) only [List.cons_append, List.nil_append, ofNat_cons_lt_cons_iff] <;>
    omega

theorem utf8Encode_lt {first second : List Char} (less : first < second) :
    first.flatMap String.utf8EncodeChar < second.flatMap String.utf8EncodeChar := by
  induction List.lex_lt.mpr less with
  | @nil char rest =>
    obtain ⟨byte, bytes, known⟩ := List.exists_cons_of_ne_nil (@String.utf8EncodeChar_ne_nil char)
    rw [List.flatMap_nil, List.flatMap_cons, known]
    exact List.nil_lt_cons ..
  | rel lower =>
    rw [List.flatMap_cons, List.flatMap_cons]
    exact utf8EncodeChar_lt lower _ _
  | cons later ih =>
    rw [List.flatMap_cons, List.flatMap_cons]
    exact List.append_left_lt (ih (List.lex_lt.mp later))

theorem nameBytes_lt {first second : String} (less : first < second) :
    nameBytes first < nameBytes second := by
  rw [nameBytes_eq, nameBytes_eq]
  exact utf8Encode_lt (String.lt_iff_toList_lt.mp less)

theorem mem_insertName {name other : String} {names : List String} :
    other ∈ insertName name names ↔ other = name ∨ other ∈ names := by
  induction names with
  | nil => simp [insertName]
  | cons first rest ih =>
    simp only [insertName]
    split
    next => simp
    next =>
      split
      next same => simp [same]
      next => simp [ih, or_left_comm]

theorem insertName_ordered {name : String} {names : List String}
    (ordered : names.Pairwise (· < ·)) : (insertName name names).Pairwise (· < ·) := by
  induction names with
  | nil => exact List.pairwise_singleton _ name
  | cons first rest ih =>
    obtain ⟨below, others⟩ := List.pairwise_cons.mp ordered
    simp only [insertName]
    split
    next less =>
      refine List.pairwise_cons.mpr ⟨fun other member => ?_, ordered⟩
      rcases List.mem_cons.mp member with rfl | later
      · exact less
      · exact less.trans (below other later)
    next notLess =>
      split
      next => exact ordered
      next different =>
        have greater : first < name := lt_of_le_of_ne (not_lt.mp notLess) (Ne.symm different)
        refine List.pairwise_cons.mpr ⟨fun other member => ?_, ih others⟩
        rcases mem_insertName.mp member with rfl | later
        · exact greater
        · exact below other later

namespace Catalog

theorem contains_iff {catalog : Catalog} {name : RoleName} {driver : String} :
    catalog.contains name driver = true ↔
      ∃ entry ∈ catalog.registrations, entry.role = name.role ∧ entry.name = driver := by
  simp [contains, find?]

theorem mem_choices {catalog : Catalog} {name : RoleName} {driver : String} :
    driver ∈ catalog.choices name ↔
      driver = dummyName ∨ catalog.contains name driver = true := by
  have inserted (names : List String) :
      driver ∈ names.foldr insertName [dummyName] ↔ driver = dummyName ∨ driver ∈ names := by
    induction names with
    | nil => simp
    | cons first rest ih => simp [mem_insertName, ih, or_left_comm]
  rw [choices, inserted, contains_iff]
  simp [and_assoc]

theorem choices_ordered (catalog : Catalog) (name : RoleName) :
    (catalog.choices name).Pairwise (· < ·) := by
  simp only [choices]
  induction (catalog.registrations.filter fun entry => entry.role == name.role).map
      Registration.name with
  | nil => exact List.pairwise_singleton _ dummyName
  | cons first rest ih => exact insertName_ordered ih

end Catalog

end AudioHost
