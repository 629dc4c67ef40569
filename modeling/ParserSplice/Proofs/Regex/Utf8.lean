import Mathlib.Algebra.Order.Group.Nat

set_option autoImplicit false

namespace ParserSplice.Regex

/-- The last bytes of the UTF-8 form of a code point, with six of its bits in each. -/
def trail : Nat → Nat → List UInt8
  | 0, _ => []
  | count + 1, n => UInt8.ofNat (0x80 + n / 0x40 ^ count % 0x40) :: trail count n

/-- The UTF-8 form of a code point. -/
def utf8 (n : Nat) : List UInt8 :=
  if n < 0x80 then [UInt8.ofNat n]
  else if n < 0x800 then UInt8.ofNat (0xC0 + n / 0x40) :: trail 1 n
  else if n < 0x10000 then UInt8.ofNat (0xE0 + n / 0x1000) :: trail 2 n
  else UInt8.ofNat (0xF0 + n / 0x40000) :: trail 3 n

theorem ofNat_eq_iff {n : Nat} (small : n < 0x100) (b : UInt8) : UInt8.ofNat n = b ↔ n = b.toNat := by
  rw [UInt8.ofNat_eq_iff_mod_eq_toNat, Nat.mod_eq_of_lt small]

/-- The last bytes hold the low bits only. -/
theorem trail_add (count n high : Nat) : trail count (n + 0x40 ^ count * high) = trail count n := by
  induction count generalizing high with
  | zero => rfl
  | succ count ih =>
    have bits : (n + 0x40 ^ (count + 1) * high) / 0x40 ^ count % 0x40 =
        n / 0x40 ^ count % 0x40 := by
      rw [Nat.pow_succ, Nat.mul_assoc, Nat.add_mul_div_left _ _ (Nat.pow_pos (by decide)),
        Nat.add_mul_mod_self_left]
    rw [trail, trail, bits, Nat.pow_succ, Nat.mul_assoc, ih]

/-- The last bytes of a number with few enough bits by the first of them. -/
theorem trail_eq_cons_iff (count n : Nat) (b : UInt8) (rest : List UInt8) :
    n < 0x40 ^ (count + 1) ∧ trail (count + 1) n = b :: rest ↔
      (0x80 ≤ b.toNat ∧ b.toNat < 0xC0) ∧ n / 0x40 ^ count = b.toNat - 0x80 ∧
        trail count n = rest := by
  have positive : 0 < 0x40 ^ count := Nat.pow_pos (by decide)
  have few : n < 0x40 ^ (count + 1) ↔ n / 0x40 ^ count < 0x40 := by
    rw [Nat.pow_succ, Nat.mul_comm, Nat.div_lt_iff_lt_mul positive]
  rw [few, trail, List.cons.injEq]
  generalize n / 0x40 ^ count = high
  rw [ofNat_eq_iff (by omega)]
  constructor
  · rintro ⟨small, first, rfl⟩
    exact ⟨by omega, by omega, rfl⟩
  · rintro ⟨_, first, rfl⟩
    exact ⟨by omega, by omega, rfl⟩

theorem trail_ne_nil {count : Nat} (some : 0 < count) (n : Nat) : trail count n ≠ [] := by
  cases count with
  | zero => cases some
  | succ count => exact List.cons_ne_nil _ _

theorem utf8_ne_nil (n : Nat) : utf8 n ≠ [] := by
  unfold utf8
  split
  · exact List.cons_ne_nil _ _
  · split
    · exact List.cons_ne_nil _ _
    · split <;> exact List.cons_ne_nil _ _

/-- The UTF-8 form of a code point by its first byte. -/
theorem utf8_eq_cons_iff {n : Nat} (last : n ≤ 0x10FFFF) (b : UInt8) (rest : List UInt8) :
    utf8 n = b :: rest ↔
      (b.toNat < 0x80 ∧ n = b.toNat ∧ [] = rest) ∨
      ((0xC2 ≤ b.toNat ∧ b.toNat < 0xE0) ∧ n / 0x40 = b.toNat - 0xC0 ∧ trail 1 n = rest) ∨
      ((0xE0 ≤ b.toNat ∧ b.toNat < 0xF0) ∧ 0x800 ≤ n ∧ n / 0x1000 = b.toNat - 0xE0 ∧
        trail 2 n = rest) ∨
      ((0xF0 ≤ b.toNat ∧ b.toNat < 0xF5) ∧ 0x10000 ≤ n ∧ n / 0x40000 = b.toNat - 0xF0 ∧
        trail 3 n = rest) := by
  unfold utf8
  split
  · rw [List.cons.injEq, ofNat_eq_iff (by omega)]
    constructor
    · rintro ⟨first, rfl⟩
      exact Or.inl ⟨by omega, first, rfl⟩
    · rintro (⟨_, first, rfl⟩ | ⟨_, _, _⟩ | ⟨_, _, _, _⟩ | ⟨_, _, _, _⟩)
      · exact ⟨first, rfl⟩
      all_goals omega
  · split
    · rw [List.cons.injEq, ofNat_eq_iff (by omega)]
      constructor
      · rintro ⟨first, rfl⟩
        exact Or.inr (Or.inl ⟨by omega, by omega, rfl⟩)
      · rintro (⟨_, _, _⟩ | ⟨_, high, rfl⟩ | ⟨_, _, _, _⟩ | ⟨_, _, _, _⟩)
        · omega
        · exact ⟨by omega, rfl⟩
        all_goals omega
    · split
      · rw [List.cons.injEq, ofNat_eq_iff (by omega)]
        constructor
        · rintro ⟨first, rfl⟩
          exact Or.inr (Or.inr (Or.inl ⟨by omega, by omega, by omega, rfl⟩))
        · rintro (⟨_, _, _⟩ | ⟨_, _, _⟩ | ⟨_, _, high, rfl⟩ | ⟨_, _, _, _⟩)
          · omega
          · omega
          · exact ⟨by omega, rfl⟩
          · omega
      · rw [List.cons.injEq, ofNat_eq_iff (by omega)]
        constructor
        · rintro ⟨first, rfl⟩
          exact Or.inr (Or.inr (Or.inr ⟨by omega, by omega, by omega, rfl⟩))
        · rintro (⟨_, _, _⟩ | ⟨_, _, _⟩ | ⟨_, _, _, _⟩ | ⟨_, _, high, rfl⟩)
          · omega
          · omega
          · omega
          · exact ⟨by omega, rfl⟩

end ParserSplice.Regex
