import ParserSplice.Engine.Action
import ParserSplice.Fragment.Basic

set_option autoImplicit false

namespace ParserSplice

/-- A marking terminal with its place in the merged table: the host nonterminal that it hooks into,
the merged state that it leads to, and its column. -/
structure PlacedMarking where
  extension : Nat
  terminal : Nat
  hook : Nat
  target : Nat
  column : Nat
deriving DecidableEq, Repr

/-- Where everything is in the merged table. -/
structure Layout where
  hostStates : Nat
  offsets : List Nat
  counts : List Nat
  totalStates : Nat
  ordinaryColumns : Nat
  width : Nat
  markings : List PlacedMarking
deriving DecidableEq, Repr

namespace Layout

/-- The first state of each extension, when the extensions have these numbers of states. -/
def offsetsFrom (start : Nat) : List Nat → List Nat
  | [] => []
  | count :: rest => start :: offsetsFrom (start + count) rest

theorem length_offsetsFrom (start : Nat) (counts : List Nat) :
    (offsetsFrom start counts).length = counts.length := by
  induction counts generalizing start with
  | nil => rfl
  | cons count rest ih => simp [offsetsFrom, ih]

/-- The merged state that a marking terminal leads to. -/
def target (hostStates offset : Nat) (extension : ExtensionFragment) (entry : Decomposed) :
    Except CompositionError Nat :=
  match entry with
  | .host h =>
    if h.toNat < hostStates then .ok h.toNat
    else .error (.stateOutOfRange extension.name h.toNat extension.size)
  | .extension e =>
    if e.toNat < extension.size then .ok (e.toNat + offset)
    else .error (.stateOutOfRange extension.name e.toNat extension.size)

def placeMarking (host : HostFragment) (index offset : Nat) (extension : ExtensionFragment)
    (marking : Nat × MarkingTerminal) : Except CompositionError (Nat → PlacedMarking) := do
  if host.grammar.nonterminals.contains marking.2.hook then
    let target ← target host.size offset extension marking.2.entry
    return fun column => ⟨index, marking.1, marking.2.hook, target, column⟩
  else .error (.unknownHookNonterminal extension.name marking.1 marking.2.hook)

def placeMarkings (host : HostFragment) (member : (ExtensionFragment × Nat) × Nat) :
    Except CompositionError (List (Nat → PlacedMarking)) :=
  member.1.1.markings.entries.mapM (placeMarking host member.2 member.1.2 member.1.1)

/-- The layout for a host and its extensions. -/
def compute (host : HostFragment) (extensions : List ExtensionFragment) :
    Except CompositionError Layout := do
  let counts := extensions.map (fun e => e.size)
  let offsets := offsetsFrom host.size counts
  let total := host.size + counts.foldr (· + ·) 0
  let columns := (extensions.map (fun e => e.partition.tableWidth)).foldl max
    host.grammar.tableWidth
  let placed ← (extensions.zip offsets).zipIdx.mapM (placeMarkings host)
  let markings := placed.flatten.zipIdx.map (fun entry => entry.1 (columns + entry.2))
  let width := columns + markings.length
  let largest := max total width
  if EngineAction.maxParameter.toNat < largest then .error (.actionParameterOverflow largest)
  else return ⟨host.size, offsets, counts, total, columns, width, markings⟩

variable (l : Layout)

def fragmentCount : Nat := l.offsets.length + 1

/-- The fragment of a state: 0 for the host, `i + 1` for extension `i`. -/
def fragmentOf (state : Nat) : Nat :=
  if state < l.hostStates then 0
  else match (l.offsets.drop 1).findIdx? (fun offset => decide (state < offset)) with
    | some i => i + 1
    | none => l.offsets.length

def offset (extension : Nat) : Nat := l.offsets[extension]?.getD l.totalStates

end Layout

end ParserSplice
