import ParserSplice.Engine.Conflict
import ParserSplice.Engine.Tables
import ParserSplice.Scanner.Build

set_option autoImplicit false

namespace ParserSplice

/-- What a state does on a marking terminal: it shifts to a merged state, or reduces a production. -/
inductive MarkingAction where
  | shift (target : Nat)
  | reduce (production : Nat)
deriving DecidableEq, Repr

/-- The action for a cell, if its parameter fits 32 bits. -/
def MarkingAction.engineAction : MarkingAction → Except CompositionError EngineAction
  | shift target => do
    let state ← MergedTables.parameter target
    return .shift state
  | reduce production => do
    let p ← MergedTables.parameter production
    return .reduce p

/-- An action that is written to a cell. -/
structure MarkingWrite where
  row : Nat
  column : Nat
  action : MarkingAction
deriving DecidableEq, Repr

namespace MarkingWrite

def shifts (l : Layout) (f : Fragment) (state row : Nat) : List MarkingWrite :=
  (l.markings.filter (fun m => (f.startableIn state).contains m.hook)).map
    (fun m => ⟨row, m.column, .shift m.target⟩)

/-- The reductions that a state writes, in order of columns and of productions. -/
def reductions (l : Layout) (f : Fragment) (state row : Nat) : List MarkingWrite :=
  l.markings.flatMap (fun m =>
    (f.reducibleOn state m.hook).elems.map (fun production => ⟨row, m.column, .reduce production⟩))

def ofMember (l : Layout) (m : Member) : List MarkingWrite :=
  (List.range m.fragment.size).flatMap (fun state =>
    shifts l m.fragment state (state + m.offset) ++
      reductions l m.fragment state (state + m.offset))

def all (host : HostFragment) (extensions : List ExtensionFragment) (l : Layout) :
    List MarkingWrite :=
  (Member.all host extensions l).flatMap (ofMember l)

end MarkingWrite

/-- Merged cells while marking columns are written, and the conflicts so far. -/
structure Filling where
  cells : List (List UInt32)
  conflicts : List Conflict
deriving DecidableEq

namespace Filling

def cell (s : Filling) (row column : Nat) : UInt32 :=
  ((s.cells[row]?).bind (fun r => r[column]?)).getD 0

/-- The conflict between what a cell holds and what is written to it, if there is one. -/
def conflictWith (s : Filling) (w : MarkingWrite) (action : EngineAction) : List Conflict :=
  let held := EngineAction.decode (s.cell w.row w.column)
  if !held.isError && held != action then [⟨w.row, w.column, held, action⟩] else []

def write (s : Filling) (w : MarkingWrite) : Except CompositionError Filling := do
  let action ← w.action.engineAction
  let cell ← MergedTables.pack action
  return {
    cells := s.cells.modify w.row (fun r => r.set w.column cell)
    conflicts := s.conflicts ++ s.conflictWith w action }

/-- Writes actions up to the first that does not fit a cell. -/
def writeAll (s : Filling) : List MarkingWrite → Filling × Option CompositionError
  | [] => (s, none)
  | w :: rest =>
    match s.write w with
    | .ok next => next.writeAll rest
    | .error e => (s, some e)

end Filling

/-- Writes the marking columns of every state. If an action does not fit a cell, the tables keep what
was written before it. -/
def MergedTables.fill (t : MergedTables) (host : HostFragment)
    (extensions : List ExtensionFragment) (l : Layout) :
    MergedTables × Except CompositionError (List Conflict) :=
  let done := (Filling.mk t.cells []).writeAll (MarkingWrite.all host extensions l)
  ({ t with cells := done.1.cells },
    match done.2 with
    | some e => .error e
    | none => .ok done.1.conflicts)

/-- The scanner that recognizes the marking terminals of all extensions. No layout is passed over
while it scans. -/
structure MarkingScanner where
  terminals : List PlacedMarking
  table : ScannerTable
  sets : ScannerSets
  layouts : List IndexSet
deriving DecidableEq

namespace MarkingScanner

def regexOf (extensions : List ExtensionFragment) (m : PlacedMarking) :
    Except CompositionError (Nat × String) :=
  match (extensions[m.extension]?).bind (fun e => e.markings.get? m.terminal) with
  | some marking => .ok (m.column, marking.regex)
  | none => .error (.unknownReference m.terminal "marking terminal")

def ordered (l : Layout) : List PlacedMarking :=
  l.markings.mergeSort (fun a b => decide (a.column ≤ b.column))

/-- Builds the scanner of all marking terminals, by some way to make scanners. -/
def buildBy (scan : OrderedMap String → Except CompositionError (ScannerTable × ScannerSets))
    (extensions : List ExtensionFragment) (l : Layout) :
    Except CompositionError MarkingScanner := do
  let terminals := ordered l
  let regexes ← terminals.mapM (regexOf extensions)
  let (table, sets) ← scan (OrderedMap.ofList regexes)
  return ⟨terminals, table, sets, List.replicate l.totalStates ∅⟩

def build (extensions : List ExtensionFragment) (l : Layout) :
    Except CompositionError MarkingScanner :=
  buildBy Scanner.build extensions l

end MarkingScanner

end ParserSplice
