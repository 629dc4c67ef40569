import Std.Data.HashMap
import ParserSplice.Scanner.Table

set_option autoImplicit false

namespace ParserSplice

/-- A deterministic automaton over bytes. Nothing is read past a stuck state. -/
structure Automaton (σ : Type) where
  start : σ
  step : σ → UInt8 → σ
  stuck : σ → Bool
  accepts : σ → IndexSet

/-- Numbered states: the state with number `k + 1` at place `k`, with its row of targets. -/
structure Numbering (σ : Type) where
  states : Array σ
  rows : Array (List Nat)

namespace Automaton

variable {σ : Type} [BEq σ] [Hashable σ]

/-- A numbering under way. States past the rows wait for their rows. -/
structure Search (σ : Type) [BEq σ] [Hashable σ] where
  numbers : Std.HashMap σ Nat
  states : Array σ
  rows : Array (List Nat)

/-- The number of the state that a byte leads to, which gets one if it has none yet. -/
def visit (A : Automaton σ) (from_ : σ) (s : Search σ) (b : UInt8) : Nat × Search σ :=
  let target := A.step from_ b
  if A.stuck target then (ScannerTable.dead, s)
  else match s.numbers[target]? with
    | some n => (n, s)
    | none =>
      let n := s.states.size + 1
      (n, { s with numbers := s.numbers.insert target n, states := s.states.push target })

/-- The numbers of the states that some bytes lead to, in order. -/
def visitAll (A : Automaton σ) (from_ : σ) : Search σ → List UInt8 → List Nat × Search σ
  | s, [] => ([], s)
  | s, b :: rest =>
    let (n, next) := A.visit from_ s b
    let (others, last) := visitAll A from_ next rest
    (n :: others, last)

def allBytes : List UInt8 := (List.range 256).map UInt8.ofNat

/-- Writes rows until no state waits for one. Gives up when there are more states than `limit`. -/
def search (A : Automaton σ) : Nat → Search σ → Option (Numbering σ)
  | limit, s =>
    match s.states[s.rows.size]?, limit with
    | none, _ => some ⟨s.states, s.rows⟩
    | some _, 0 => none
    | some state, limit + 1 =>
      let (row, next) := A.visitAll state s allBytes
      search A limit { next with rows := next.rows.push row }

/-- Numbers the states that can be reached, unless there are more than `limit`. -/
def number (A : Automaton σ) (limit : Nat) : Option (Numbering σ) :=
  A.search limit ⟨(∅ : Std.HashMap σ Nat).insert A.start 1, #[A.start], #[]⟩

def tableOf (n : Numbering σ) : ScannerTable := ⟨1, ScannerTable.deadRow :: n.rows.toList⟩

def acceptsOf (A : Automaton σ) (n : Numbering σ) : List IndexSet :=
  ∅ :: n.states.toList.map A.accepts

end Automaton

end ParserSplice
