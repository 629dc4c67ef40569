import ParserSplice.Engine.Basic
import ParserSplice.Engine.ParseTables

set_option autoImplicit false

namespace ParserSplice

/-- The names of the symbol with a number, if it is a terminal. -/
def SymbolTable.terminalName? (t : SymbolTable) (index : Nat) : Option TerminalName :=
  match t.get? index with
  | some s => if s.kind = .terminal then some ⟨s.name, s.display⟩ else none
  | none => none

/-- The names of the first terminals of a set, at their numbers. -/
def SymbolTable.terminalNames (t : SymbolTable) (terminals : IndexSet) :
    List (Option TerminalName) :=
  (List.range terminals.span).map
    (fun index => if terminals.contains index then t.terminalName? index else none)

def ExtensionFragment.terminalNames (e : ExtensionFragment) : List (Option TerminalName) :=
  e.partition.symbolTable.terminalNames (e.partition.extensionIndices .terminal)

/-- The names of the terminals of an engine. -/
structure NameTables where
  markingColumn : Nat
  extensionColumns : List Nat
  host : List (Option TerminalName)
  extensions : List (List (Option TerminalName))
  markings : List (Option TerminalName)
deriving DecidableEq, Repr

namespace NameTables

def ofMarking (extensions : List ExtensionFragment) (m : PlacedMarking) : Option TerminalName :=
  (extensions[m.extension]?).bind (fun e => e.partition.symbolTable.terminalName? m.terminal)

def ofEngine (engine : Engine) (host : HostFragment) (extensions : List ExtensionFragment) :
    NameTables where
  markingColumn := engine.layout.ordinaryColumns
  extensionColumns := extensions.map (fun e => e.partition.columnOffset)
  host := host.symbolTable.terminalNames host.grammar.terminals
  extensions := extensions.map ExtensionFragment.terminalNames
  markings := engine.scanner.terminals.map (ofMarking extensions)

def entry? (names : List (Option TerminalName)) (index : Nat) : Option TerminalName :=
  (names[index]?).getD none

/-- The names of a terminal in a fragment. Marking columns go first; in an extension, columns at or
past its own first column come next; all other columns are those of the host. -/
def name? (t : NameTables) (fragment terminal : Nat) : Option TerminalName :=
  if t.markingColumn ≤ terminal then entry? t.markings (terminal - t.markingColumn)
  else match fragment with
    | 0 => entry? t.host terminal
    | extension + 1 =>
      match t.extensionColumns[extension]? with
      | none => none
      | some first =>
        if first ≤ terminal then
          entry? (t.extensions[extension]?.getD []) (terminal - first)
        else entry? t.host terminal

end NameTables

end ParserSplice
