import ParserSplice.Ordered.Set

set_option autoImplicit false

namespace ParserSplice

/-- A number within the fragment that owns it. -/
inductive Decomposed where
  | host (index : UInt32)
  | extension (index : UInt32)
deriving DecidableEq, Repr, Inhabited

/-- Host numbers come before all extension numbers. -/
instance : Ranked Decomposed where
  rank
    | .host i => i.toNat
    | .extension i => UInt32.size + i.toNat
  rank_injective := by
    intro a b same
    cases a with
    | host i =>
      cases b with
      | host j => simpa [UInt32.toNat_inj] using same
      | extension j => have := i.toNat_lt_size; simp only at same; omega
    | extension i =>
      cases b with
      | host j => have := j.toNat_lt_size; simp only at same; omega
      | extension j => simpa [UInt32.toNat_inj] using same

/-- The number as a 32-bit word, where it fits. -/
def narrow (index : Nat) : Option UInt32 :=
  if index < UInt32.size then some (UInt32.ofNat index) else none

theorem narrow_eq_some_iff (n : Nat) (word : UInt32) : narrow n = some word ↔ word.toNat = n := by
  unfold narrow
  split
  · next fits =>
    rw [Option.some.injEq, ← UInt32.toNat_inj, UInt32.toNat_ofNat_of_lt' fits]
    exact eq_comm
  · next large =>
    have bound := word.toNat_lt_size
    constructor
    · intro impossible
      cases impossible
    · intro same
      omega

theorem narrow_eq_none_iff (n : Nat) : narrow n = none ↔ UInt32.size ≤ n := by
  unfold narrow
  split <;> simp_all

/-- The wire form of an extension number; always strictly negative. -/
def encodeExtension (index : UInt32) : Int64 := -(Int64.ofNat index.toNat) - 1

/-- The extension number that a wire value stands for, if any. -/
def decodeExtension (value : Int64) : Option UInt32 :=
  if 0 ≤ value then none else narrow (-(value + 1)).toInt.toNat

namespace Decomposed

def index : Decomposed → Nat
  | host i => i.toNat
  | extension i => i.toNat

def isExtension : Decomposed → Bool
  | host _ => false
  | extension _ => true

def toRaw : Decomposed → Int64
  | host h => Int64.ofNat h.toNat
  | extension e => encodeExtension e

/-- The owner and number that a wire value stands for, if any. -/
def ofRaw (value : Int64) : Option Decomposed :=
  if 0 ≤ value then (narrow value.toInt.toNat).map host
  else (decodeExtension value).map extension

end Decomposed

end ParserSplice
