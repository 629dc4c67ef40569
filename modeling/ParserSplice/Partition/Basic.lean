import ParserSplice.Partition.Data

set_option autoImplicit false

namespace ParserSplice

/-- A composed numbering split between the host and one extension. -/
structure Partition where
  states : OrderedMap Decomposed
  extensionStates : IndexSet
  symbols : OrderedMap Decomposed
  hostOwned : List CategorizedSymbol
  extensionOwned : List CategorizedSymbol
  data : ExtensionData
  symbolTable : SymbolTable
  productionLengths : List Nat
deriving DecidableEq

namespace Partition

def checkEntry (table : SymbolTable) (s : CategorizedSymbol) : Except CompositionError Unit :=
  match table.get? s.2 with
  | none => .error (.uncoveredSymbol s.1 s.2)
  | some entry =>
    if entry.kind = s.1 then .ok () else .error (.symbolKindMismatch s.1 s.2 entry.kind)

def ownEntries (table : SymbolTable) (owned : List CategorizedSymbol) :
    Except CompositionError SymbolTable := do
  let entries ← owned.mapM (fun (s : CategorizedSymbol) =>
    match table.get? s.2 with
    | some entry => (.ok entry : Except CompositionError Symbol)
    | none => .error (.unknownReference s.2 "symbol table"))
  return ⟨entries⟩

/-- Splits a composed grammar and its states between a host and an extension. -/
def build (full : Grammar) (table : SymbolTable) (host : Grammar) (hostStates : OrderedMap Nat)
    (extensionStates : IndexSet) : Except CompositionError Partition := do
  let states ← StatePartition.build hostStates extensionStates
  let symbols ← SymbolPartition.build full host
  let owned := SymbolPartition.extensionOwned full host
  (SymbolPartition.composed full).forM (checkEntry table)
  let ownTable ← ownEntries table owned
  let data ← ExtensionData.build full symbols owned
  return {
    states := states
    extensionStates := extensionStates
    symbols := symbols
    hostOwned := SymbolPartition.hostOwned full host
    extensionOwned := owned
    data := data
    symbolTable := ownTable
    productionLengths := full.productionLengths }

variable (p : Partition)

def ownStates : List Nat := p.extensionStates.elems

def ownSymbols : List Nat := p.extensionOwned.map Prod.snd

def extensionIndices (category : Category) : IndexSet := placesOf p.extensionOwned category

def hostIndices (category : Category) : IndexSet := placesOf p.hostOwned category

def extensionCount : Nat := p.extensionOwned.length

def hostCount : Nat := p.hostOwned.length

/-- First table column of the extension's own symbols. -/
def columnOffset : Nat := p.hostCount

def stateCount : Nat := p.ownStates.length

def categoryOffset (category : Category) : Nat :=
  (category.earlier.map (fun c => (p.extensionIndices c).size)).foldr (· + ·) 0

def columnOf (index : Nat) : Nat := p.columnOffset + index

/-- Number of terminals that the extension may refer to, the host's included. -/
def terminalCount : Nat := p.columnOf (p.extensionIndices .terminal).span

/-- Number of columns that the table of the extension may use. -/
def tableWidth : Nat :=
  p.columnOf (max (p.extensionIndices .terminal).span (p.extensionIndices .nonterminal).span)

def symbol? (composed : Nat) : Option Decomposed := p.symbols.get? composed

def state? (composed : Nat) : Option Decomposed := p.states.get? composed

/-- Whether a column belongs to a terminal or a nonterminal of the extension, if to any. -/
def columnCategory (column : Nat) : Option Category :=
  if column < p.columnOffset then none
  else [Category.terminal, .nonterminal].find?
    (fun c => (p.extensionIndices c).contains (column - p.columnOffset))

end Partition

end ParserSplice
