import ParserSplice.Error
import ParserSplice.Ordered.Map
import ParserSplice.Scanner.Automaton
import ParserSplice.Scanner.Possible

set_option autoImplicit false

namespace ParserSplice

/-- An automaton over bytes as a matching library gives it. After the last byte it takes one more
step, which tells the patterns that match what was read. Nothing is read past a dead state or one
that makes the automaton quit. -/
structure ByteAutomaton (σ : Type) where
  start : σ
  next : σ → UInt8 → σ
  atEnd : σ → σ
  dead : σ → Bool
  quit : σ → Bool
  matching : σ → Bool
  patterns : σ → List Nat

namespace ByteAutomaton

variable {σ : Type}

def accepts (D : ByteAutomaton σ) (terminals : List Nat) (state : σ) : IndexSet :=
  if D.matching (D.atEnd state) then
    OrderedSet.ofList ((D.patterns (D.atEnd state)).filterMap (fun pattern => terminals[pattern]?))
  else ∅

/-- The automaton that a scanner is built from, given the terminals of the patterns. -/
def forTerminals (D : ByteAutomaton σ) (terminals : List Nat) : Automaton σ :=
  ⟨D.start, D.next, fun state => D.dead state || D.quit state, D.accepts terminals⟩

end ByteAutomaton

/-- The scanner of a numbered automaton: its table, the terminals accepted in each state, none ruled
out in any, and those that may still follow. -/
def Automaton.scanner {σ : Type} (A : Automaton σ) (n : Numbering σ) :
    ScannerTable × ScannerSets :=
  (tableOf n, ⟨A.acceptsOf n, List.replicate (tableOf n).size ∅,
    PossibleSets.compute (tableOf n).rows (A.acceptsOf n)⟩)

/-- A library that makes automata. It reads the text of a regular expression, and compiles several
expressions to a finite automaton that reports the places of those that match. It may refuse both,
with a message. -/
structure Compiler where
  Expression : Type
  read : String → Except String Expression
  compile : List Expression → Except String ((n : Nat) × ByteAutomaton (Fin n))

namespace Compiler

variable (library : Compiler)

/-- The expression of a terminal. -/
def readEntry (entry : Nat × String) : Except CompositionError library.Expression :=
  match library.read entry.2 with
  | .ok expression => .ok expression
  | .error message => .error (.invalidRegex entry.1 entry.2 message)

/-- The expressions of all terminals. The first bad one in ascending order of terminals is an
error. -/
def readAll (regexes : OrderedMap String) : Except CompositionError (List library.Expression) :=
  regexes.entries.mapM library.readEntry

def flattened {n : Nat} (D : ByteAutomaton (Fin n)) (terminals : List Nat) :
    Except CompositionError (ScannerTable × ScannerSets) :=
  -- The search for the states of an automaton with `n` states ends within `n` rounds.
  match (D.forTerminals terminals).number n with
  | none => .error (.scanner "the automaton has too many states")
  | some numbering => .ok ((D.forTerminals terminals).scanner numbering)

/-- The scanner that recognizes regular expressions, each kept under its terminal. No expression goes
before another: a state accepts every terminal whose expression matches the bytes read so far.
Without expressions there is nothing to compile. -/
def build (regexes : OrderedMap String) : Except CompositionError (ScannerTable × ScannerSets) :=
  if regexes.entries.isEmpty then .ok (.blank, .blank 2)
  else do
    let expressions ← library.readAll regexes
    match library.compile expressions with
    | .error message => .error (.scanner message)
    | .ok compiled => flattened compiled.2 regexes.keys.elems

end Compiler

end ParserSplice
