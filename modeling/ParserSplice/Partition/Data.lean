import ParserSplice.Grammar.Symbol
import ParserSplice.Partition.Symbols

set_option autoImplicit false

namespace ParserSplice

/-- Grammar data of the symbols of an extension. -/
structure ExtensionData where
  terminals : OrderedMap (TerminalData Decomposed) := ∅
  nonterminals : OrderedMap (NonterminalData Decomposed) := ∅
  productions : OrderedMap (ProductionData Decomposed) := ∅
  disambiguations : OrderedMap (DisambiguationData Decomposed) := ∅
  terminalClasses : OrderedMap (TerminalClassData Decomposed) := ∅
  longestRhs : Nat := 2
deriving DecidableEq

namespace ExtensionData

def resolve (symbols : OrderedMap Decomposed) (context : String) (index : Nat) :
    Except CompositionError Decomposed :=
  match symbols.get? index with
  | some d => .ok d
  | none => .error (.unknownReference index context)

def resolveSet (symbols : OrderedMap Decomposed) (context : String) (set : IndexSet) :
    Except CompositionError (OrderedSet Decomposed) := do
  let members ← set.elems.mapM (resolve symbols context)
  return OrderedSet.ofList members

def resolveOption (symbols : OrderedMap Decomposed) (context : String) :
    Option Nat → Except CompositionError (Option Decomposed)
  | none => .ok none
  | some index => do
    let d ← resolve symbols context index
    return some d

def resolveTerminal (symbols : OrderedMap Decomposed) (a : TerminalData Nat) :
    Except CompositionError (TerminalData Decomposed) := do
  let classes ← resolveSet symbols "terminal classes" a.classes
  let leading ← resolveOption symbols "transparent prefix" a.transparentPrefix
  let operatorClass ← resolveOption symbols "operator class" a.operatorClass
  return ⟨a.regex, classes, leading, operatorClass, a.precedence, a.associativity⟩

def resolveNonterminal (symbols : OrderedMap Decomposed) (a : NonterminalData Nat) :
    Except CompositionError (NonterminalData Decomposed) := do
  let productions ← resolveSet symbols "nonterminal productions" a.productions
  return ⟨productions⟩

def resolveProduction (symbols : OrderedMap Decomposed) (a : ProductionData Nat) :
    Except CompositionError (ProductionData Decomposed) := do
  let rhs ← a.rhs.mapM (resolve symbols "production right-hand side")
  let lhs ← resolve symbols "production left-hand side" a.lhs
  let operator ← resolveOption symbols "production operator" a.operator
  let layouts ← resolveSet symbols "production layout" a.layouts
  return ⟨lhs, rhs, operator, a.precedence, a.hasLayout, layouts⟩

def resolveDisambiguation (symbols : OrderedMap Decomposed) (a : DisambiguationData Nat) :
    Except CompositionError (DisambiguationData Decomposed) := do
  let members ← resolveSet symbols "disambiguation function members" a.members
  let target ← resolveOption symbols "disambiguation target" a.target
  return ⟨members, target, a.appliesToSubsets⟩

def resolveTerminalClass (symbols : OrderedMap Decomposed) (a : TerminalClassData Nat) :
    Except CompositionError (TerminalClassData Decomposed) := do
  let members ← resolveSet symbols "terminal class members" a.members
  return ⟨members⟩

def ofCategory (owned : List CategorizedSymbol) (category : Category) : List (Nat × Nat) :=
  (owned.zipIdx.filter (fun entry => entry.1.1 == category)).map
    (fun entry => (entry.2, entry.1.2))

/-- Reads the data of each symbol of a category and resolves its references. -/
def collect {α β : Type} (owned : List CategorizedSymbol) (category : Category)
    (find : Nat → Except CompositionError α) (translate : α → Except CompositionError β) :
    Except CompositionError (OrderedMap β) := do
  let entries ← (ofCategory owned category).mapM (fun (entry : Nat × Nat) => do
    let data ← find entry.2
    let resolved ← translate data
    return (entry.1, resolved))
  return OrderedMap.ofList entries

def need {α : Type} (data : OrderedMap α) (category : Category) (index : Nat) :
    Except CompositionError α :=
  match data.get? index with
  | some a => .ok a
  | none => .error (.missingSymbolData category index)

/-- Length of the longest right-hand side, at least 2, which is the length of the start
production. -/
def longest (productions : OrderedMap (ProductionData Decomposed)) : Nat :=
  productions.entries.foldl (fun most entry => max most entry.2.rhs.length) 2

/-- The data of the symbols that an extension owns. Terminals and productions need to have data;
other symbols without data have empty sets. -/
def build (full : Grammar) (symbols : OrderedMap Decomposed) (owned : List CategorizedSymbol) :
    Except CompositionError ExtensionData := do
  let terminals ← collect owned .terminal (need full.terminalData .terminal)
    (resolveTerminal symbols)
  let nonterminals ← collect owned .nonterminal
    (fun index => .ok ((full.nonterminalData.get? index).getD {})) (resolveNonterminal symbols)
  let productions ← collect owned .production (need full.productionData .production)
    (resolveProduction symbols)
  let disambiguations ← collect owned .disambiguationFunction
    (fun index => .ok ((full.disambiguationData.get? index).getD {}))
    (resolveDisambiguation symbols)
  let terminalClasses ← collect owned .terminalClass
    (fun index => .ok ((full.terminalClassData.get? index).getD {})) (resolveTerminalClass symbols)
  return ⟨terminals, nonterminals, productions, disambiguations, terminalClasses,
    longest productions⟩

end ExtensionData

end ParserSplice
