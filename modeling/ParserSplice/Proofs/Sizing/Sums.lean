import ParserSplice.Fragment.Column
import ParserSplice.Proofs.Indexing.Basic

set_option autoImplicit false

namespace ParserSplice

namespace Sized

open Indexed (Stop)

/-- What becomes of a number that does not fit 64 bits. A build with overflow checks stops there, as
at a place that a list does not have; a build without them goes on with the low bits. -/
inductive Overflow where
  | stops
  | wraps
deriving DecidableEq, Repr

section Numbers

variable (o : Overflow)

/-- A number, held in 64 bits. -/
def hold (n : Nat) : Except Stop Nat :=
  if n < UInt64.size then .ok n
  else match o with
    | .stops => .error .outOfRange
    | .wraps => .ok (n % UInt64.size)

def add (a b : Nat) : Except Stop Nat := hold o (a + b)

def span (s : IndexSet) : Except Stop Nat :=
  match s.elems.getLast? with
  | none => .ok 0
  | some highest => add o highest 1

/-- Number of columns that the host table may use. -/
def hostWidth (g : Grammar) : Except Stop Nat := do
  let terminals ← span o g.terminals
  let nonterminals ← span o g.nonterminals
  return max terminals nonterminals

/-- Number of columns that the table of an extension may use. -/
def partitionWidth (p : Partition) : Except Stop Nat := do
  let terminals ← span o (p.extensionIndices .terminal)
  let nonterminals ← span o (p.extensionIndices .nonterminal)
  add o p.columnOffset (max terminals nonterminals)

def terminalCount (owner : Owner) (host : Grammar) : Except Stop Nat :=
  match owner with
  | .host => span o host.terminals
  | .extension p => do
    let own ← span o (p.extensionIndices .terminal)
    add o p.columnOffset own

end Numbers

variable {o : Overflow}

theorem hold_eq {n : Nat} (fits : n < UInt64.size) : hold o n = .ok n := if_pos fits

theorem add_eq {a b : Nat} (fits : a + b < UInt64.size) : add o a b = .ok (a + b) := hold_eq fits

theorem span_eq_hold (s : IndexSet) : span o s = hold o s.span := by
  unfold span OrderedSet.span
  cases s.elems.getLast? with
  | none => rfl
  | some highest => rfl

theorem hostWidth_eq {g : Grammar} (fits : g.tableWidth < UInt64.size) :
    hostWidth o g = .ok g.tableWidth := by
  rw [Grammar.tableWidth] at fits
  rw [hostWidth, span_eq_hold, span_eq_hold, hold_eq (by omega), hold_eq (by omega)]
  rfl

theorem partitionWidth_eq {p : Partition} (fits : p.tableWidth < UInt64.size) :
    partitionWidth o p = .ok p.tableWidth := by
  rw [Partition.tableWidth, Partition.columnOf] at fits
  rw [partitionWidth, span_eq_hold, span_eq_hold, hold_eq (by omega), hold_eq (by omega)]
  exact add_eq fits

theorem terminalCount_eq {owner : Owner} {host : Grammar}
    (fits : owner.terminalCount host < UInt64.size) :
    terminalCount o owner host = .ok (owner.terminalCount host) := by
  cases owner with
  | host => exact (span_eq_hold _).trans (hold_eq fits)
  | extension p =>
    have sum : p.columnOffset + (p.extensionIndices .terminal).span < UInt64.size := fits
    rw [terminalCount, span_eq_hold, hold_eq (by omega)]
    exact add_eq sum

end Sized

end ParserSplice
