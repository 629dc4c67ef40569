import ParserSplice.Engine.Layout
import ParserSplice.Engine.TerminalUse
import ParserSplice.Fragment.Column

set_option autoImplicit false

namespace ParserSplice

/-- A fragment as a part of the merged engine: its owner, its name, and its first merged state. -/
structure Member where
  owner : Owner
  name : String
  fragment : Fragment
  offset : Nat

namespace Member

/-- The host as the first member. -/
def ofHost (host : HostFragment) : Member := ⟨.host, "host", host.toFragment, 0⟩

def ofExtension (extension : ExtensionFragment) (offset : Nat) : Member :=
  ⟨.extension extension.partition, extension.name, extension.toFragment, offset⟩

def all (host : HostFragment) (extensions : List ExtensionFragment) (l : Layout) : List Member :=
  ofHost host :: extensions.zipIdx.map (fun entry => ofExtension entry.1 (l.offset entry.2))

end Member

/-- The merged tables: packed cells and layout sets by state, use masks by fragment. -/
structure MergedTables where
  cells : List (List UInt32)
  layouts : List IndexSet
  hostUses : List UInt8
  extensionUses : List (List UInt8)
deriving DecidableEq

namespace MergedTables

def pack (action : EngineAction) : Except CompositionError UInt32 :=
  match action.encode with
  | some cell => .ok cell
  | none => .error (.actionParameterOverflow action.parameter.toNat)

/-- A number as an action parameter, if it fits 32 bits. -/
def parameter (value : Nat) : Except CompositionError UInt32 :=
  match narrow value with
  | some word => .ok word
  | none => .error (.actionParameterOverflow value)

/-- The merged state that a target of a fragment table stands for. -/
def resolve (l : Layout) (m : Member) (target : Decomposed) : Except CompositionError UInt32 :=
  match target, m.owner with
  | .host h, _ =>
    if h.toNat < l.hostStates then parameter h.toNat
    else .error (.stateOutOfRange m.name h.toNat l.hostStates)
  | .extension e, .host => .error (.unexpectedExtensionState m.name e.toNat)
  | .extension e, .extension _ =>
    if e.toNat < m.fragment.size then parameter (e.toNat + m.offset)
    else .error (.stateOutOfRange m.name e.toNat m.fragment.size)

/-- The merged action for an action on a column. Only terminals are shifted, reduced on and, at the
end of input, accepted; only nonterminals have gotos. -/
def translate (l : Layout) (m : Member) (host : Grammar) (column : Nat) (kind : ColumnClass)
    (action : FragmentAction) : Except CompositionError EngineAction :=
  match kind, action with
  | .terminal, .accept => .ok (if column = host.endOfInput then .accept else .error)
  | .terminal, .shift target => do
    let state ← resolve l m target
    return .shift state
  | .terminal, .reduce production => do
    let p ← parameter production
    return .reduce p
  | .nonterminal, .goto target => do
    let state ← resolve l m target
    return .goto state
  | _, _ => .ok .error

def appearance (m : Member) (count : Nat) (role : TerminalUse) (terminal : Nat) :
    Except CompositionError (Nat × TerminalUse) :=
  if terminal < count then .ok (terminal, role)
  else .error (.terminalOutOfRange m.name terminal count)

/-- The cell of an entry of a fragment table, and the role in which its column appears. -/
def copyEntry (l : Layout) (m : Member) (host : Grammar) (state : Nat)
    (entry : Nat × FragmentAction) :
    Except CompositionError ((Nat × UInt32) × List (Nat × TerminalUse)) := do
  if l.ordinaryColumns ≤ entry.1 then
    .error (.columnOutOfRange m.name entry.1 l.ordinaryColumns)
  else match m.owner.classify host entry.1 with
    | none => .error (.unclassifiedColumn m.name state entry.1)
    | some kind =>
      let action ← translate l m host entry.1 kind entry.2
      let cell ← pack action
      match kind with
      | .nonterminal => return ((entry.1, cell), [])
      | .terminal =>
        let use ← appearance m (m.owner.terminalCount host) .shiftable entry.1
        return ((entry.1, cell), [use])

/-- A merged row with the roles in which terminals appear in it. -/
structure CopiedState where
  cells : List (Nat × UInt32)
  layout : IndexSet
  uses : List (Nat × TerminalUse)
deriving DecidableEq

def copyState (l : Layout) (m : Member) (host : Grammar) (state : Nat) :
    Except CompositionError CopiedState := do
  let count := m.owner.terminalCount host
  let entries ← (m.fragment.table.row state).entries.mapM (copyEntry l m host state)
  let layout := m.fragment.layout state
  let layoutUses ← layout.elems.mapM (appearance m count .layout)
  let prefixUses ← (m.fragment.transparent state).elems.mapM (appearance m count .transparent)
  return ⟨entries.map Prod.fst, layout,
    (entries.map Prod.snd).flatten ++ layoutUses ++ prefixUses⟩

/-- Translates every state of a fragment and places it in the merged table. -/
def copyMember (l : Layout) (host : Grammar) (m : Member) :
    Except CompositionError (List (Nat × CopiedState)) :=
  (List.range m.fragment.size).mapM (fun state => do
    let copied ← copyState l m host state
    return (state + m.offset, copied))

/-- A row of cells, where columns without an entry are errors. -/
def denseRow (width : Nat) (cells : List (Nat × UInt32)) : List UInt32 :=
  (List.range width).map (fun column => (cells.lookup column).getD 0)

theorem length_denseRow (width : Nat) (cells : List (Nat × UInt32)) :
    (denseRow width cells).length = width := by
  simp [denseRow]

/-- The states that are placed on a merged row. A layout gives each row at most one. -/
def placedOn (placed : List (Nat × CopiedState)) (row : Nat) : List CopiedState :=
  (placed.filter (fun entry => entry.1 == row)).map Prod.snd

/-- The cells of a merged row. Of two states on one row the later one goes first. -/
def mergedRow (width : Nat) (states : List CopiedState) : List UInt32 :=
  denseRow width (states.reverse.flatMap (fun s => s.cells))

def mergedLayout (states : List CopiedState) : IndexSet :=
  states.foldl (fun total s => total.union s.layout) ∅

def usesOf (host : Grammar) (m : Member) (states : List (Nat × CopiedState)) : List UInt8 :=
  TerminalUse.masks (m.owner.terminalCount host) (states.flatMap (fun entry => entry.2.uses))

/-- Merges the tables of a host and its extensions. -/
def copy (host : HostFragment) (extensions : List ExtensionFragment) (l : Layout) :
    Except CompositionError MergedTables := do
  let members := Member.all host extensions l
  let copied ← members.mapM (copyMember l host.grammar)
  let rows := (List.range l.totalStates).map (placedOn copied.flatten)
  let uses := List.zipWith (usesOf host.grammar) members copied
  return {
    cells := rows.map (mergedRow l.width)
    layouts := rows.map mergedLayout
    hostUses := uses.headD []
    extensionUses := uses.tail }

/-- The action in a cell; a cell outside of the table is an error. -/
def action (t : MergedTables) (state column : Nat) : EngineAction :=
  EngineAction.decode (((t.cells[state]?).bind (fun row => row[column]?)).getD 0)

def setCell (t : MergedTables) (state column : Nat) (cell : UInt32) : MergedTables :=
  { t with cells := t.cells.modify state (fun row => row.set column cell) }

end MergedTables

end ParserSplice
