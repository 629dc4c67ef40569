import ParserSplice.Fragment.Table
import ParserSplice.Partition.Basic
import ParserSplice.Scanner.Table

set_option autoImplicit false

namespace ParserSplice

/-- A marking terminal. Where the host can start `hook`, text that `regex` matches leads into the
state `entry`. -/
structure MarkingTerminal where
  hook : Nat
  entry : Decomposed
  regex : String
deriving DecidableEq, Repr

/-- The parts that every fragment has. Sets per state may be missing at the end and then count as
empty. -/
structure Fragment where
  table : FragmentTable := {}
  lookaheads : List IndexSet := []
  layouts : List IndexSet := []
  transparents : List IndexSet := []
  scanner : ScannerTable := .blank
  scannerSets : ScannerSets := {}
  startable : List IndexSet := []
  reducible : List (OrderedMap IndexSet) := []
deriving DecidableEq

namespace Fragment

def size (f : Fragment) : Nat := f.table.size

/-- Terminals that may stand between tokens in a state. -/
def layout (f : Fragment) (state : Nat) : IndexSet := f.layouts[state]?.getD ∅

def lookahead (f : Fragment) (state : Nat) : IndexSet := f.lookaheads[state]?.getD ∅

def transparent (f : Fragment) (state : Nat) : IndexSet := f.transparents[state]?.getD ∅

/-- Nonterminals whose derivations can start in a state. -/
def startableIn (f : Fragment) (state : Nat) : IndexSet := f.startable[state]?.getD ∅

/-- Productions that can be reduced in a state when a nonterminal is about to start. -/
def reducibleOn (f : Fragment) (state hook : Nat) : IndexSet :=
  ((f.reducible[state]?).bind (fun sources => sources.get? hook)).getD ∅

end Fragment

/-- The host fragment. -/
structure HostFragment extends Fragment where
  grammar : Grammar := {}
  symbolTable : SymbolTable := {}
deriving DecidableEq

/-- A partitioned extension. -/
structure ExtensionFragment extends Fragment where
  name : String
  partition : Partition
  markings : OrderedMap MarkingTerminal
deriving DecidableEq

/-- An extension as its generator ships it. -/
structure ExtensionBundle extends Fragment where
  name : String := ""
  grammar : Grammar := {}
  symbolTable : SymbolTable := {}
  hostStates : OrderedMap Nat := ∅
  extensionStates : IndexSet := ∅
  markings : OrderedMap MarkingTerminal := ∅
deriving DecidableEq

def ExtensionBundle.partitioned (b : ExtensionBundle) (host : Grammar) :
    Except CompositionError ExtensionFragment := do
  let partition ← Partition.build b.grammar b.symbolTable host b.hostStates b.extensionStates
  return { b.toFragment with name := b.name, partition := partition, markings := b.markings }

/-- The input of a composition: a host and the extensions to be merged into it. -/
structure Composition where
  host : HostFragment
  extensions : List ExtensionBundle := []
deriving DecidableEq

def Composition.fragments (c : Composition) :
    Except CompositionError (HostFragment × List ExtensionFragment) := do
  let extensions ← c.extensions.mapM (fun b => b.partitioned c.host.grammar)
  return (c.host, extensions)

end ParserSplice
