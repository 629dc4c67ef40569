import Mathlib.Algebra.Ring.Int.Defs
import ParserSplice.Index
import ParserSplice.Proofs.Traversal

set_option autoImplicit false

namespace ParserSplice

theorem nonneg_iff (value : Int64) : 0 ≤ value ↔ 0 ≤ value.toInt := by
  rw [Int64.le_iff_toInt_le, Int64.toInt_zero]

theorem toInt_widened (index : UInt32) : (Int64.ofNat index.toNat).toInt = index.toNat :=
  Int64.toInt_ofNat_of_lt (Nat.lt_trans index.toNat_lt_size (by decide))

theorem toInt_negated (index : UInt32) : (-Int64.ofNat index.toNat).toInt = -index.toNat :=
  Int64.toInt_neg_ofNat_of_le (Nat.le_trans (Nat.le_of_lt index.toNat_lt_size) (by decide))

theorem toInt_encodeExtension (index : UInt32) :
    (encodeExtension index).toInt = -index.toNat - 1 := by
  have bound : index.toNat < 2 ^ 32 := index.toNat_lt_size
  rw [encodeExtension, Int64.toInt_sub, toInt_negated, Int64.toInt_one]
  exact Int.bmod_eq_of_le (by omega) (by omega)

section Negative

variable {value : Int64} (negative : ¬ 0 ≤ value)

include negative

theorem toInt_next : (value + 1).toInt = value.toInt + 1 := by
  have low := value.le_toInt
  rw [nonneg_iff] at negative
  rw [Int64.toInt_add, Int64.toInt_one]
  exact Int.bmod_eq_of_le (by omega) (by omega)

/-- The negative of the least integer is too large, but not that of the next one. -/
theorem toInt_flipped : (-(value + 1)).toInt = -(value.toInt + 1) := by
  have low := value.le_toInt
  rw [Int64.toInt_neg, toInt_next negative]
  rw [nonneg_iff] at negative
  exact Int.bmod_eq_of_le (by omega) (by omega)

end Negative

theorem decodeExtension_eq_some_iff (value : Int64) (index : UInt32) :
    decodeExtension value = some index ↔ value.toInt = -index.toNat - 1 := by
  unfold decodeExtension
  split
  · next nonneg =>
    rw [nonneg_iff] at nonneg
    exact iff_of_false (by simp) (by omega)
  · next negative =>
    rw [narrow_eq_some_iff, toInt_flipped negative]
    rw [nonneg_iff] at negative
    omega

namespace Decomposed

def signed : Decomposed → Int
  | host h => h.toNat
  | extension e => -e.toNat - 1

theorem signed_neg_iff (d : Decomposed) : d.signed < 0 ↔ d.isExtension = true := by
  cases d with
  | host h => simp [signed, isExtension]
  | extension e => simp only [signed, isExtension, iff_true]; omega

theorem toInt_toRaw (d : Decomposed) : d.toRaw.toInt = d.signed := by
  cases d with
  | host h => exact toInt_widened h
  | extension e => exact toInt_encodeExtension e

theorem ofRaw_eq_host_iff (value : Int64) (h : UInt32) :
    ofRaw value = some (host h) ↔ value.toInt = h.toNat := by
  unfold ofRaw
  split
  · next nonneg =>
    rw [nonneg_iff] at nonneg
    simp only [Option.map_eq_some_iff, host.injEq, exists_eq_right, narrow_eq_some_iff]
    omega
  · next negative =>
    rw [nonneg_iff] at negative
    exact iff_of_false (by simp) (by omega)

theorem ofRaw_eq_extension_iff (value : Int64) (e : UInt32) :
    ofRaw value = some (extension e) ↔ value.toInt = -e.toNat - 1 := by
  unfold ofRaw
  split
  · next nonneg =>
    rw [nonneg_iff] at nonneg
    exact iff_of_false (by simp) (by omega)
  · simp only [Option.map_eq_some_iff, extension.injEq, exists_eq_right,
      decodeExtension_eq_some_iff]

theorem ofRaw_eq_some_iff (value : Int64) (d : Decomposed) :
    ofRaw value = some d ↔ value.toInt = d.signed := by
  cases d with
  | host h => exact ofRaw_eq_host_iff value h
  | extension e => exact ofRaw_eq_extension_iff value e

end Decomposed

/-- A writer and a reader that pair the values of a type with the integers from `low` to `high`. -/
structure Pairs {α : Type} (write : α → Int64) (read : Int64 → Option α) (low high : Int) :
    Prop where
  read_write : ∀ a, read (write a) = some a
  read_eq_some_iff : ∀ value a, read value = some a ↔ write a = value
  read_eq_none_iff : ∀ value, read value = none ↔ value.toInt < low ∨ high < value.toInt

/-- A writer and a reader that agree on the integer of each value pair the values with integers. -/
theorem pairs_of_toInt {α : Type} {write : α → Int64} {read : Int64 → Option α} {low high : Int}
    (signed : α → Int) (written : ∀ a, (write a).toInt = signed a)
    (found : ∀ value a, read value = some a ↔ value.toInt = signed a)
    (range : ∀ n, (∃ a, signed a = n) ↔ low ≤ n ∧ n ≤ high) : Pairs write read low high where
  read_write a := (found _ a).mpr (written a)
  read_eq_some_iff value a := by
    rw [found, ← written, Int64.toInt_inj]
    exact eq_comm
  read_eq_none_iff value := by
    -- What is not read is an integer that stands for no value, so the range decides.
    have missing : read value = none ↔ ¬ ∃ a, signed a = value.toInt := by
      simp only [Option.eq_none_iff_forall_ne_some, ne_eq, found, not_exists, eq_comm]
    rw [missing, range]
    omega

theorem exists_toNat_eq_iff (n : Int) :
    (∃ word : UInt32, (word.toNat : Int) = n) ↔ 0 ≤ n ∧ n < 2 ^ 32 := by
  constructor
  · intro given
    obtain ⟨word, rfl⟩ := given
    have bound : word.toNat < 2 ^ 32 := word.toNat_lt_size
    omega
  · intro given
    obtain ⟨nonneg, small⟩ := given
    have fits : n.toNat < 2 ^ 32 := by omega
    refine ⟨UInt32.ofNat n.toNat, ?_⟩
    rw [UInt32.toNat_ofNat_of_lt' fits]
    omega

theorem exists_extension_eq_iff (n : Int) :
    (∃ word : UInt32, -(word.toNat : Int) - 1 = n) ↔ -2 ^ 32 ≤ n ∧ n ≤ -1 := by
  have moved : (∃ word : UInt32, -(word.toNat : Int) - 1 = n) ↔
      ∃ word : UInt32, (word.toNat : Int) = -n - 1 :=
    exists_congr (fun word => by omega)
  rw [moved, exists_toNat_eq_iff]
  omega

theorem pairs_extension : Pairs encodeExtension decodeExtension (-2 ^ 32) (-1) :=
  pairs_of_toInt (fun index => -index.toNat - 1) toInt_encodeExtension decodeExtension_eq_some_iff
    exists_extension_eq_iff

theorem Decomposed.exists_signed_eq_iff (n : Int) :
    (∃ d : Decomposed, d.signed = n) ↔ -2 ^ 32 ≤ n ∧ n ≤ 2 ^ 32 - 1 := by
  have owners : (∃ d : Decomposed, d.signed = n) ↔
      (∃ h : UInt32, (h.toNat : Int) = n) ∨ ∃ e : UInt32, -(e.toNat : Int) - 1 = n := by
    constructor
    · intro given
      obtain ⟨d, same⟩ := given
      cases d with
      | host h => exact .inl ⟨h, same⟩
      | extension e => exact .inr ⟨e, same⟩
    · intro given
      rcases given with ⟨h, same⟩ | ⟨e, same⟩
      · exact ⟨.host h, same⟩
      · exact ⟨.extension e, same⟩
  rw [owners, exists_toNat_eq_iff, exists_extension_eq_iff]
  omega

theorem pairs_decomposed : Pairs Decomposed.toRaw Decomposed.ofRaw (-2 ^ 32) (2 ^ 32 - 1) :=
  pairs_of_toInt Decomposed.signed Decomposed.toInt_toRaw Decomposed.ofRaw_eq_some_iff
    Decomposed.exists_signed_eq_iff

namespace Checked

/-- A step has a result that is not a 64-bit integer. -/
structure Overflow where
  result : Int

/-- The 64-bit integer that a step results in. -/
def fit (result : Int) : Except Overflow Int64 :=
  if -2 ^ 63 ≤ result ∧ result < 2 ^ 63 then .ok (Int64.ofInt result) else .error ⟨result⟩

theorem fit_eq {result : Int} {value : Int64} (same : value.toInt = result) :
    fit result = .ok value := by
  subst same
  rw [fit, if_pos ⟨value.le_toInt, value.toInt_lt⟩, Int64.ofInt_toInt]

/-- A 64-bit integer as a 32-bit number, if it is one. -/
def word (value : Int64) : Option UInt32 := if 0 ≤ value then narrow value.toInt.toNat else none

def encodeExtension (index : UInt32) : Except Overflow Int64 := do
  let wide ← fit index.toNat
  let negated ← fit (-wide.toInt)
  fit (negated.toInt - 1)

def decodeExtension (value : Int64) : Except Overflow (Option UInt32) :=
  if 0 ≤ value then .ok none
  else do
    let next ← fit (value.toInt + 1)
    let flipped ← fit (-next.toInt)
    return word flipped

def toRaw : Decomposed → Except Overflow Int64
  | .host h => fit h.toNat
  | .extension e => encodeExtension e

def ofRaw (value : Int64) : Except Overflow (Option Decomposed) :=
  if 0 ≤ value then .ok ((word value).map .host)
  else do
    let index ← decodeExtension value
    return index.map .extension

theorem encodeExtension_eq (index : UInt32) :
    encodeExtension index = .ok (ParserSplice.encodeExtension index) := by
  have wide := fit_eq (toInt_widened index)
  have negated : fit (-(Int64.ofNat index.toNat).toInt) = .ok (-Int64.ofNat index.toNat) :=
    fit_eq (by rw [toInt_negated, toInt_widened])
  have moved : fit ((-Int64.ofNat index.toNat).toInt - 1) =
      .ok (ParserSplice.encodeExtension index) :=
    fit_eq (by rw [toInt_encodeExtension, toInt_negated])
  exact (bind_eq_ok_iff _ _ _).mpr ⟨_, wide, (bind_eq_ok_iff _ _ _).mpr ⟨_, negated, moved⟩⟩

theorem decodeExtension_eq (value : Int64) :
    decodeExtension value = .ok (ParserSplice.decodeExtension value) := by
  unfold decodeExtension ParserSplice.decodeExtension
  split
  · rfl
  · next negative =>
    have next := fit_eq (toInt_next negative)
    have flipped : fit (-(value + 1).toInt) = .ok (-(value + 1)) :=
      fit_eq (by rw [toInt_flipped negative, toInt_next negative])
    have nonneg : 0 ≤ -(value + 1) := by
      rw [nonneg_iff, toInt_flipped negative]
      rw [nonneg_iff] at negative
      omega
    have read : word (-(value + 1)) = narrow (-(value + 1)).toInt.toNat := if_pos nonneg
    exact (bind_eq_ok_iff _ _ _).mpr ⟨_, next, (bind_eq_ok_iff _ _ _).mpr
      ⟨_, flipped, (pure_eq_ok_iff _ _).mpr read⟩⟩

theorem toRaw_eq (d : Decomposed) : toRaw d = .ok d.toRaw := by
  cases d with
  | host h => exact fit_eq (toInt_widened h)
  | extension e => exact encodeExtension_eq e

theorem ofRaw_eq (value : Int64) : ofRaw value = .ok (Decomposed.ofRaw value) := by
  unfold ofRaw Decomposed.ofRaw
  split
  · next nonneg => rw [word, if_pos nonneg]
  · exact (bind_eq_ok_iff _ _ _).mpr
      ⟨_, decodeExtension_eq value, (pure_eq_ok_iff _ _).mpr rfl⟩

end Checked

/-- What the signed wire form promises: every number with its owner has an integer of its own, an
extension number a negative one, and no step on the way there and back overflows. -/
structure WrittenOneToOne : Prop where
  numbers : Pairs Decomposed.toRaw Decomposed.ofRaw (-2 ^ 32) (2 ^ 32 - 1)
  extensionNumbers : Pairs encodeExtension decodeExtension (-2 ^ 32) (-1)
  signed : ∀ d : Decomposed, d.toRaw.toInt = d.signed
  negative_iff : ∀ d : Decomposed, d.toRaw < 0 ↔ d.isExtension = true
  writes : ∀ d, Checked.toRaw d = .ok d.toRaw
  reads : ∀ value, Checked.ofRaw value = .ok (Decomposed.ofRaw value)
  writesExtension : ∀ index, Checked.encodeExtension index = .ok (encodeExtension index)
  readsExtension : ∀ value, Checked.decodeExtension value = .ok (decodeExtension value)

theorem writtenOneToOne : WrittenOneToOne where
  numbers := pairs_decomposed
  extensionNumbers := pairs_extension
  signed := Decomposed.toInt_toRaw
  negative_iff d := by
    rw [Int64.lt_iff_toInt_lt, Decomposed.toInt_toRaw, Int64.toInt_zero, d.signed_neg_iff]
  writes := Checked.toRaw_eq
  reads := Checked.ofRaw_eq
  writesExtension := Checked.encodeExtension_eq
  readsExtension := Checked.decodeExtension_eq

/-- The least integer is read as no number. -/
example : Decomposed.ofRaw Int64.minValue = none := by decide

end ParserSplice
