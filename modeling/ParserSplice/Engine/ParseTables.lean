import ParserSplice.Engine.Action
import ParserSplice.Ordered.Set
import ParserSplice.Report.SyntaxError

set_option autoImplicit false

namespace ParserSplice

/-- The tables of an engine as a parse loop sees them. -/
structure ParseTables where
  fragmentOf : Nat → Nat
  cells : List (List UInt32)
  layouts : Nat → List IndexSet
  terminalName? : Nat → Nat → Option TerminalName

namespace ParseTables

/-- The action in a cell; a cell outside of the table is an error. -/
def action (t : ParseTables) (state column : Nat) : EngineAction :=
  EngineAction.decode (((t.cells[state]?).bind (fun row => row[column]?)).getD 0)

/-- The columns on which a state can shift, reduce or accept. -/
def shiftable (t : ParseTables) (state : Nat) : IndexSet :=
  OrderedSet.ofList ((((t.cells[state]?).getD []).zipIdx.filter
    (fun entry => (EngineAction.decode entry.1).isTerminalAction)).map Prod.snd)

def layout (t : ParseTables) (state : Nat) : IndexSet :=
  (t.layouts (t.fragmentOf state))[state]?.getD ∅

/-- The names that terminals have in a fragment. A terminal without a name is left out. -/
def names (t : ParseTables) (fragment : Nat) (terminals : IndexSet) : TerminalNames :=
  TerminalNames.ofList (terminals.elems.filterMap (t.terminalName? fragment))

/-- The error of a state in which the scanner matched some terminals. -/
def syntaxError (t : ParseTables) (shown real : Location) (state : Nat) (matched : IndexSet) :
    SyntaxError :=
  let fragment := t.fragmentOf state
  ⟨shown, real, state, t.names fragment (t.shiftable state), t.names fragment matched⟩

end ParseTables

end ParserSplice
