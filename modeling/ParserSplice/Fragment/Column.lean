import ParserSplice.Fragment.Basic

set_option autoImplicit false

namespace ParserSplice

/-- The fragment that a table belongs to. -/
inductive Owner where
  | host
  | extension (partition : Partition)

/-- The kind of symbol that a column stands for. -/
inductive ColumnClass where
  | terminal
  | nonterminal
deriving DecidableEq, Repr

namespace Owner

def classifyHost (host : Grammar) (column : Nat) : Option ColumnClass :=
  if host.terminals.contains column then some .terminal
  else if host.nonterminals.contains column then some .nonterminal
  else none

/-- The class of a column, if it stands for a terminal or a nonterminal. -/
def classify (owner : Owner) (host : Grammar) (column : Nat) : Option ColumnClass :=
  match owner with
  | .host => classifyHost host column
  | .extension p =>
    if p.columnOffset ≤ column then
      (p.columnCategory column).map
        (fun c => if c = .terminal then .terminal else .nonterminal)
    else classifyHost host column

def terminalCount (owner : Owner) (host : Grammar) : Nat :=
  match owner with
  | .host => host.terminalCount
  | .extension p => p.terminalCount

end Owner

end ParserSplice
