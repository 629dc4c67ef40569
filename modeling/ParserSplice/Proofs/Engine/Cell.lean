import ParserSplice.Engine.Action

set_option autoImplicit false

namespace ParserSplice

namespace EngineAction

theorem toNat_maxParameter : maxParameter.toNat = 536870911 := rfl

theorem toNat_ofNat_of_le {n : Nat} (fits : n ≤ maxParameter.toNat) :
    (UInt32.ofNat n).toNat = n := by
  rw [toNat_maxParameter] at fits
  have small : n < UInt32.size := by
    change n < 2 ^ 32
    omega
  exact UInt32.toNat_ofNat_of_lt' small

theorem toNat_kind_bits (cell : UInt32) : (cell &&& 7).toNat = cell.toNat % 8 := by
  rw [UInt32.toNat_and]
  exact Nat.and_two_pow_sub_one_eq_mod cell.toNat 3

theorem toNat_parameter_bits (cell : UInt32) : (cell >>> 3).toNat = cell.toNat / 8 := by
  rw [UInt32.toNat_shiftRight]
  exact Nat.shiftRight_eq_div_pow cell.toNat 3

/-- A word with a kind in its low bits and a parameter above them. -/
theorem toNat_packed (parameter kind : UInt32) (fits : parameter.toNat ≤ maxParameter.toNat)
    (small : kind.toNat < 8) :
    ((parameter <<< 3) ||| kind).toNat = parameter.toNat * 8 + kind.toNat := by
  rw [toNat_maxParameter] at fits
  have shifted : (parameter <<< 3).toNat = parameter.toNat <<< 3 := by
    rw [UInt32.toNat_shiftLeft]
    change parameter.toNat <<< 3 % 2 ^ 32 = _
    rw [Nat.shiftLeft_eq]
    exact Nat.mod_eq_of_lt (by omega)
  rw [UInt32.toNat_or, shifted, ← Nat.shiftLeft_add_eq_or_of_lt small, Nat.shiftLeft_eq]

theorem packed_kind (parameter kind : UInt32) (fits : parameter.toNat ≤ maxParameter.toNat)
    (small : kind.toNat < 8) : ((parameter <<< 3) ||| kind) &&& 7 = kind := by
  apply UInt32.toNat_inj.mp
  rw [toNat_kind_bits, toNat_packed parameter kind fits small]
  omega

theorem packed_parameter (parameter kind : UInt32) (fits : parameter.toNat ≤ maxParameter.toNat)
    (small : kind.toNat < 8) : ((parameter <<< 3) ||| kind) >>> 3 = parameter := by
  apply UInt32.toNat_inj.mp
  rw [toNat_parameter_bits, toNat_packed parameter kind fits small]
  omega

theorem kind_lt (a : EngineAction) : a.kind.toNat < 8 := by cases a <;> simp [kind]

def packed (a : EngineAction) : UInt32 := (a.parameter <<< 3) ||| a.kind

theorem encode_eq_some_iff (a : EngineAction) (cell : UInt32) :
    a.encode = some cell ↔ a.parameter.toNat ≤ maxParameter.toNat ∧ a.packed = cell := by
  unfold encode packed
  by_cases large : maxParameter < a.parameter
  · have above : ¬ a.parameter.toNat ≤ maxParameter.toNat :=
      Nat.not_le_of_lt (UInt32.lt_iff_toNat_lt.mp large)
    simp [large, above]
  · have below : a.parameter.toNat ≤ maxParameter.toNat :=
      Nat.le_of_not_lt (fun less => large (UInt32.lt_iff_toNat_lt.mpr less))
    simp [large, below]

theorem encode_eq_none_iff (a : EngineAction) :
    a.encode = none ↔ maxParameter.toNat < a.parameter.toNat := by
  unfold encode
  rw [← UInt32.lt_iff_toNat_lt]
  split <;> simp_all

/-- Unpacking gives back what was packed. -/
theorem decode_packed (a : EngineAction) (fits : a.parameter.toNat ≤ maxParameter.toNat) :
    decode a.packed = a := by
  have kind := packed_kind a.parameter a.kind fits a.kind_lt
  have parameter := packed_parameter a.parameter a.kind fits a.kind_lt
  unfold decode packed
  rw [kind, parameter]
  cases a <;> rfl

/-- The action that a cell unpacks to, by the number in its low three bits. -/
inductive Unpacks (cell : UInt32) : EngineAction → Prop where
  | accept (kind : cell.toNat % 8 = 1) : Unpacks cell .accept
  | shift (kind : cell.toNat % 8 = 2) : Unpacks cell (.shift (cell >>> 3))
  | reduce (kind : cell.toNat % 8 = 3) : Unpacks cell (.reduce (cell >>> 3))
  | goto (kind : cell.toNat % 8 = 4) : Unpacks cell (.goto (cell >>> 3))
  | error (kind : cell.toNat % 8 = 0 ∨ 4 < cell.toNat % 8) : Unpacks cell .error

theorem unpacks_decode (cell : UInt32) : Unpacks cell (decode cell) := by
  have bits := toNat_kind_bits cell
  unfold decode
  split
  · next kind => exact .accept (by rw [← bits, kind]; rfl)
  · next kind => exact .shift (by rw [← bits, kind]; rfl)
  · next kind => exact .reduce (by rw [← bits, kind]; rfl)
  · next kind => exact .goto (by rw [← bits, kind]; rfl)
  · next not1 not2 not3 not4 =>
    have other {n : UInt32} (apart : cell &&& 7 ≠ n) : cell.toNat % 8 ≠ n.toNat := by
      rwa [← bits, Ne, UInt32.toNat_inj]
    have unused : cell.toNat % 8 ≠ 1 ∧ cell.toNat % 8 ≠ 2 ∧ cell.toNat % 8 ≠ 3 ∧
        cell.toNat % 8 ≠ 4 := ⟨other not1, other not2, other not3, other not4⟩
    exact .error (by omega)

/-- What stands above the kind is never too large for a cell. -/
theorem parameter_decode_le (cell : UInt32) :
    (decode cell).parameter.toNat ≤ maxParameter.toNat := by
  have above : (cell >>> 3).toNat ≤ maxParameter.toNat := by
    have bound : cell.toNat < 2 ^ 32 := cell.toNat_lt_size
    rw [toNat_parameter_bits, toNat_maxParameter]
    omega
  have unpacked := unpacks_decode cell
  generalize decode cell = a at unpacked
  cases unpacked with
  | shift | reduce | goto => exact above
  | accept | error => exact Nat.zero_le _

/-- The cells that actions have. Errors and acceptance have no parameter, and so one cell each, and
no action has a kind above 4. -/
def Canonical (cell : UInt32) : Prop :=
  cell = 0 ∨ cell = 1 ∨ cell.toNat % 8 = 2 ∨ cell.toNat % 8 = 3 ∨ cell.toNat % 8 = 4

theorem packed_decode_eq_iff (cell : UInt32) : (decode cell).packed = cell ↔ Canonical cell := by
  have number := toNat_packed _ _ (parameter_decode_le cell) (decode cell).kind_lt
  have above := toNat_parameter_bits cell
  have canonical : Canonical cell ↔ cell.toNat = 0 ∨ cell.toNat = 1 ∨ cell.toNat % 8 = 2 ∨
      cell.toNat % 8 = 3 ∨ cell.toNat % 8 = 4 := by
    unfold Canonical
    rw [← UInt32.toNat_inj, ← UInt32.toNat_inj]
    rfl
  rw [← UInt32.toNat_inj, packed, number, canonical]
  have unpacked := unpacks_decode cell
  generalize decode cell = a at unpacked
  -- The number that is packed again keeps the kind and, if the action has one, the parameter.
  cases unpacked with
  | accept => change 0 * 8 + 1 = _ ↔ _; omega
  | shift => change (cell >>> 3).toNat * 8 + 2 = _ ↔ _; omega
  | reduce => change (cell >>> 3).toNat * 8 + 3 = _ ↔ _; omega
  | goto => change (cell >>> 3).toNat * 8 + 4 = _ ↔ _; omega
  | error => change 0 * 8 + 0 = _ ↔ _; omega

theorem encode_decode (cell : UInt32) : (decode cell).encode = some (decode cell).packed :=
  (encode_eq_some_iff _ _).mpr ⟨parameter_decode_le cell, rfl⟩

/-- Of the cells that unpack to an action, the action has the canonical one. -/
theorem encode_eq_some_iff_decode (a : EngineAction) (cell : UInt32) :
    a.encode = some cell ↔ Canonical cell ∧ decode cell = a := by
  rw [encode_eq_some_iff, ← packed_decode_eq_iff]
  constructor
  · intro given
    obtain ⟨fits, rfl⟩ := given
    rw [decode_packed a fits]
    exact ⟨rfl, rfl⟩
  · intro given
    obtain ⟨same, rfl⟩ := given
    exact ⟨parameter_decode_le cell, same⟩

/-- A code for actions in cells that refuses only parameters that are too large and gives no cell to
two actions. Every cell has an action, and the cell of that action has it too. -/
structure Packs (encode : EngineAction → Option UInt32) (decode : UInt32 → EngineAction) :
    Prop where
  refused_iff : ∀ a, encode a = none ↔ maxParameter < a.parameter
  unpacked : ∀ a, a.parameter ≤ maxParameter → ∃ cell, encode a = some cell ∧ decode cell = a
  injective : ∀ a b cell, encode a = some cell → encode b = some cell → a = b
  repacked : ∀ cell, ∃ own, encode (decode cell) = some own ∧ (own = cell ↔ Canonical cell) ∧
    decode own = decode cell

/-- Packing and unpacking are inverse to each other on actions that fit and canonical cells. -/
theorem packsActions : Packs encode decode where
  refused_iff a := by rw [encode_eq_none_iff, UInt32.lt_iff_toNat_lt]
  unpacked a fits := by
    rw [UInt32.le_iff_toNat_le] at fits
    exact ⟨a.packed, (encode_eq_some_iff a _).mpr ⟨fits, rfl⟩, decode_packed a fits⟩
  injective a b cell first second := by
    rw [encode_eq_some_iff_decode] at first second
    exact first.2.symm.trans second.2
  repacked cell :=
    ⟨(decode cell).packed, encode_decode cell, packed_decode_eq_iff cell,
      decode_packed _ (parameter_decode_le cell)⟩

end EngineAction

end ParserSplice
