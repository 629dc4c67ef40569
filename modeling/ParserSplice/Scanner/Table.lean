import ParserSplice.Ordered.Set

set_option autoImplicit false

namespace ParserSplice

/-- A transition table with its start state. -/
structure ScannerTable where
  start : Nat
  rows : List (List Nat)
deriving DecidableEq, Repr

namespace ScannerTable

/-- The state that nothing leads out of. -/
def dead : Nat := 0

def deadRow : List Nat := List.replicate 256 dead

def blank : ScannerTable := ⟨1, [deadRow, deadRow]⟩

instance : Inhabited ScannerTable := ⟨blank⟩

def size (t : ScannerTable) : Nat := t.rows.length

/-- The state after a byte; a state or byte without an entry leads to the dead state. -/
def next (t : ScannerTable) (state : Nat) (b : UInt8) : Nat :=
  ((t.rows[state]?).bind (fun row => row[b.toNat]?)).getD dead

/-- The state after some bytes, from the start state. -/
def run (t : ScannerTable) (input : List UInt8) : Nat := input.foldl t.next t.start

theorem run_append (t : ScannerTable) (front : List UInt8) (b : UInt8) :
    t.run (front ++ [b]) = t.next (t.run front) b := by
  simp [run]

end ScannerTable

/-- Terminal sets per state. -/
structure ScannerSets where
  accepts : List IndexSet := []
  rejects : List IndexSet := []
  possible : List IndexSet := []
deriving DecidableEq

def ScannerSets.blank (states : Nat) : ScannerSets :=
  ⟨List.replicate states ∅, List.replicate states ∅, List.replicate states ∅⟩

end ParserSplice
