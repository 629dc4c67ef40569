import ParserSplice.Category
import ParserSplice.Ordered.Map

set_option autoImplicit false

namespace ParserSplice

/-- How operators of equal precedence group. -/
inductive Associativity where
  | none
  | left
  | right
  | nonAssociative
deriving DecidableEq, Repr, Inhabited

/-- What a grammar says about a terminal. -/
structure TerminalData (S : Type) [Ranked S] where
  regex : String := ""
  classes : OrderedSet S := ∅
  transparentPrefix : Option S := .none
  operatorClass : Option S := .none
  precedence : Int := 0
  associativity : Associativity := .none
deriving DecidableEq

/-- What a grammar says about a nonterminal. -/
structure NonterminalData (S : Type) [Ranked S] where
  productions : OrderedSet S := ∅
deriving DecidableEq

/-- What a grammar says about a production. -/
structure ProductionData (S : Type) [Ranked S] where
  lhs : S
  rhs : List S
  operator : Option S := .none
  precedence : Int := 0
  hasLayout : Bool := false
  layouts : OrderedSet S := ∅
deriving DecidableEq

/-- What a grammar says about a disambiguation function. -/
structure DisambiguationData (S : Type) [Ranked S] where
  members : OrderedSet S := ∅
  target : Option S := .none
  appliesToSubsets : Bool := false
deriving DecidableEq

/-- What a grammar says about a terminal class. -/
structure TerminalClassData (S : Type) [Ranked S] where
  members : OrderedSet S := ∅
deriving DecidableEq

/-- A resolved grammar in one numbering. -/
structure Grammar where
  terminals : IndexSet := ∅
  nonterminals : IndexSet := ∅
  productions : IndexSet := ∅
  disambiguationFunctions : IndexSet := ∅
  terminalClasses : IndexSet := ∅
  operatorClasses : IndexSet := ∅
  parserAttributes : IndexSet := ∅
  terminalData : OrderedMap (TerminalData Nat) := ∅
  nonterminalData : OrderedMap (NonterminalData Nat) := ∅
  productionData : OrderedMap (ProductionData Nat) := ∅
  disambiguationData : OrderedMap (DisambiguationData Nat) := ∅
  terminalClassData : OrderedMap (TerminalClassData Nat) := ∅
  startProduction : Nat := 0
  endOfInput : Nat := 0
deriving DecidableEq

namespace Grammar

def symbols (g : Grammar) : Category → IndexSet
  | .terminal => g.terminals
  | .nonterminal => g.nonterminals
  | .production => g.productions
  | .disambiguationFunction => g.disambiguationFunctions
  | .terminalClass => g.terminalClasses
  | .operatorClass => g.operatorClasses
  | .parserAttribute => g.parserAttributes

def addSymbol (g : Grammar) (c : Category) (index : Nat) : Grammar :=
  match c with
  | .terminal => { g with terminals := g.terminals.insert index }
  | .nonterminal => { g with nonterminals := g.nonterminals.insert index }
  | .production => { g with productions := g.productions.insert index }
  | .disambiguationFunction =>
    { g with disambiguationFunctions := g.disambiguationFunctions.insert index }
  | .terminalClass => { g with terminalClasses := g.terminalClasses.insert index }
  | .operatorClass => { g with operatorClasses := g.operatorClasses.insert index }
  | .parserAttribute => { g with parserAttributes := g.parserAttributes.insert index }

/-- Number of symbols on the right-hand side of a production, 0 without production data. -/
def rhsLength (g : Grammar) (production : Nat) : Nat :=
  match g.productionData.get? production with
  | none => 0
  | some data => data.rhs.length

/-- Right-hand-side lengths, dense by production number. -/
def productionLengths (g : Grammar) : List Nat :=
  (List.range g.productions.span).map g.rhsLength

theorem length_productionLengths (g : Grammar) :
    g.productionLengths.length = g.productions.span := by
  simp [productionLengths]

theorem getElem?_productionLengths (g : Grammar) (p : Nat) (inside : p < g.productions.span) :
    g.productionLengths[p]? = some (g.rhsLength p) := by
  simp [productionLengths, inside]

/-- Number of terminal columns that a table of this grammar may use. -/
def terminalCount (g : Grammar) : Nat := g.terminals.span

/-- Number of columns that a table of this grammar may use. -/
def tableWidth (g : Grammar) : Nat := max g.terminals.span g.nonterminals.span

end Grammar

end ParserSplice
