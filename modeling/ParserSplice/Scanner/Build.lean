import ParserSplice.Regex.Meaning
import ParserSplice.Regex.Reader
import ParserSplice.Scanner.Library
import ParserSplice.Scanner.Minimal

set_option autoImplicit false

namespace ParserSplice.Scanner

open Regex (Term Side)

/-- How far several terminals have been matched. `sensitive` tells whether any expression depends on
the byte before a position. -/
structure Progress where
  sensitive : Bool
  before : Side
  pending : List (Nat × Term)
  matched : List Nat
deriving DecidableEq, Hashable, Inhabited

namespace Progress

def sideOf (p : Progress) (b : UInt8) : Side := if p.sensitive then Side.ofByte b else .other

/-- The terminals that match if what follows makes a side. -/
def matchedBefore (p : Progress) (after : Side) : List Nat :=
  ((p.pending.filter (fun t => t.2.nullable p.before after)).map Prod.fst).eraseDups

def initial (terms : List (Nat × Term)) : Progress :=
  let sensitive := terms.any (fun t => t.2.hasLook)
  ⟨sensitive, if sensitive then .edge else .other, terms, []⟩

def step (p : Progress) (b : UInt8) : Progress :=
  { p with
    before := p.sideOf b
    pending := (p.pending.flatMap (fun t =>
      (t.2.step p.before b).map (fun rest => (t.1, rest)))).eraseDups
    matched := p.matchedBefore (Side.ofByte b) }

/-- Whether nothing can follow and nothing matched one byte earlier. -/
def stuck (p : Progress) : Bool := p.pending.isEmpty && p.matched.isEmpty

/-- The terminals that match if nothing follows. -/
def accepts (p : Progress) : IndexSet := OrderedSet.ofList (p.matchedBefore .edge)

def automaton (terms : List (Nat × Term)) : Automaton Progress :=
  ⟨initial terms, step, stuck, accepts⟩

end Progress

/-- Largest number of states that an automaton may have before states are merged. -/
def stateLimit : Nat := 2097152

def termsOf (expressions : List Regex.Meaning) : List (Nat × Term) :=
  expressions.zipIdx.map (fun entry => (entry.2, entry.1.term))

/-- What tells the states of a numbering apart before any state is merged. -/
def keysOf (wide : Numbering Progress) : List (List Nat × List Nat) :=
  ([], []) ::
    wide.states.toList.map (fun p => (p.accepts.elems, (OrderedSet.ofList p.matched).elems))

/-- The automaton of several terms with its states merged, as one that reports at the end. -/
def merged (terms : List (Nat × Term)) (wide : Numbering Progress) :
    (n : Nat) × ByteAutomaton (Fin n) :=
  let rows := ScannerTable.deadRow :: wide.rows.toList
  ⟨2 * rows.length + 1,
    Minimal.reporting rows (Minimal.groups (keysOf wide) rows)
      ((Progress.automaton terms).acceptsOf wide)⟩

def compile (expressions : List Regex.Meaning) :
    Except String ((n : Nat) × ByteAutomaton (Fin n)) :=
  if expressions.any (fun e => e.unicodeWords) then
    .error "a boundary of Unicode words cannot be decided byte by byte"
  else match (Progress.automaton (termsOf expressions)).number stateLimit with
    | none => .error "the automaton has too many states"
    | some wide => .ok (merged (termsOf expressions) wide)

/-- The library that the program is run with, one of those that could be taken: what is said about
scanners is said for any. It works out expressions from their progress, with as few states as
possible. -/
def compiler : Compiler where
  Expression := Regex.Meaning
  read text := ((Regex.Pattern.read text).bind Regex.Meaning.ofPatternText).mapError Regex.Fault.text
  compile := compile

/-- The scanner that the program makes. -/
def build (regexes : OrderedMap String) : Except CompositionError (ScannerTable × ScannerSets) :=
  compiler.build regexes

end ParserSplice.Scanner
