import ParserSplice.Proofs.Engine.Faults
import ParserSplice.Proofs.Sizing.Layout

set_option autoImplicit false

namespace ParserSplice

namespace Sized

open Indexed (Stop Copying fetch change lift restrict)
open MergedTables (parameter pack stateFault_of_copy exists_copy_iff statementFragment
  markedFragment)

section Copy

variable (o : Overflow) (l : Layout) (m : Member) (host : Grammar)

/-- The merged state that a target of a fragment table stands for. -/
def resolve (target : Decomposed) : Except Stop UInt32 :=
  match target, m.owner with
  | .host h, _ =>
    if h.toNat < l.hostStates then lift (parameter h.toNat)
    else .error (.reported (.stateOutOfRange m.name h.toNat l.hostStates))
  | .extension e, .host => .error (.reported (.unexpectedExtensionState m.name e.toNat))
  | .extension e, .extension _ =>
    if e.toNat < m.fragment.size then do
      let state ← add o e.toNat m.offset
      lift (parameter state)
    else .error (.reported (.stateOutOfRange m.name e.toNat m.fragment.size))

def translate (column : Nat) (kind : ColumnClass) (action : FragmentAction) :
    Except Stop EngineAction :=
  match kind, action with
  | .terminal, .accept => .ok (if column = host.endOfInput then .accept else .error)
  | .terminal, .shift target => do
    let state ← resolve o l m target
    return .shift state
  | .terminal, .reduce production => do
    let p ← lift (parameter production)
    return .reduce p
  | .nonterminal, .goto target => do
    let state ← resolve o l m target
    return .goto state
  | _, _ => .ok .error

/-- Writes the cell of an entry to a row, and notes the role of its column. -/
def copyEntry (state row : Nat) (s : Copying) (entry : Nat × FragmentAction) :
    Except Stop Copying := do
  if l.ordinaryColumns ≤ entry.1 then
    .error (.reported (.columnOutOfRange m.name entry.1 l.ordinaryColumns))
  else match m.owner.classify host entry.1 with
    | none => .error (.reported (.unclassifiedColumn m.name state entry.1))
    | some kind =>
      let action ← translate o l m host entry.1 kind entry.2
      let cell ← lift (pack action)
      let cells ← change s.board.cells row (fun held => change held entry.1 (fun _ => .ok cell))
      match kind with
      | .nonterminal => return ⟨⟨cells, s.board.layouts⟩, s.uses⟩
      | .terminal =>
        let uses ← restrict m.name .shiftable s.uses entry.1
        return ⟨⟨cells, s.board.layouts⟩, uses⟩

def copyState (s : Copying) (state : Nat) : Except Stop Copying := do
  let row ← add o state m.offset
  let s ← (m.fragment.table.row state).entries.foldlM (copyEntry o l m host state row) s
  let layout := m.fragment.layout state
  let uses ← layout.elems.foldlM (restrict m.name .layout) s.uses
  let layouts ← change s.board.layouts row (fun held => .ok (held.union layout))
  let uses ← (m.fragment.transparent state).elems.foldlM (restrict m.name .transparent) uses
  return ⟨⟨s.board.cells, layouts⟩, uses⟩

def copyMember (b : Board) : Except Stop Copying := do
  let terminals ← terminalCount o m.owner host
  (List.range m.fragment.size).foldlM (copyState o l m host)
    ⟨b, List.replicate terminals TerminalUse.unconstrained⟩

def copyExtension (s : Board × List (List UInt8)) (entry : ExtensionFragment × Nat) :
    Except Stop (Board × List (List UInt8)) := do
  let offset ← fetch l.offsets entry.2
  let done ← copyMember o l (Member.ofExtension entry.1 offset) host s.1
  return (done.board, s.2 ++ [done.uses])

/-- Merges the tables of a host and its extensions. -/
def copy (host : HostFragment) (extensions : List ExtensionFragment) :
    Except Stop MergedTables := do
  let first ← copyMember o l (Member.ofHost host) host.grammar
    (Board.blank l.totalStates l.width)
  let done ← extensions.zipIdx.foldlM (copyExtension o l host.grammar) (first.board, [])
  return ⟨done.1.cells, done.1.layouts, first.uses, done.2⟩

end Copy

variable {o : Overflow} {l : Layout} {m : Member} {host : Grammar}

theorem sum_fits (room : m.Room host l) {state : Nat} (inside : state < m.fragment.size) :
    state + m.offset < UInt64.size := by
  have largest : EngineAction.maxParameter.toNat < UInt64.size := by decide
  have ownStates := room.ownStates
  omega

theorem resolve_eq (room : m.Room host l) (target : Decomposed) :
    resolve o l m target = lift (MergedTables.resolve l m target) := by
  cases target with
  | host h =>
    by_cases inside : h.toNat < l.hostStates <;> simp [resolve, MergedTables.resolve, inside]
  | extension e =>
    cases owner : m.owner with
    | host => simp [resolve, MergedTables.resolve, owner]
    | extension p =>
      by_cases inside : e.toNat < m.fragment.size
      · simp [resolve, MergedTables.resolve, owner, inside, add_eq (sum_fits room inside)]
      · simp [resolve, MergedTables.resolve, owner, inside]

theorem translate_eq (room : m.Room host l) (column : Nat) (kind : ColumnClass)
    (action : FragmentAction) :
    translate o l m host column kind action =
      lift (MergedTables.translate l m host column kind action) := by
  cases kind <;> cases action <;>
    simp only [translate, MergedTables.translate, resolve_eq room, Indexed.lift_bind,
      Indexed.lift_pure, Indexed.lift_ok]

theorem copyEntry_eq (room : m.Room host l) (state : Nat) (s : Copying)
    (entry : Nat × FragmentAction) :
    copyEntry o l m host state (state + m.offset) s entry =
      Indexed.copyEntry l m host state s entry := by
  have translated : translate o l m host = fun column kind action =>
      lift (MergedTables.translate l m host column kind action) := by
    funext column kind action
    exact translate_eq room column kind action
  rw [copyEntry, translated]
  rfl

theorem copyState_eq (room : m.Room host l) (s : Copying) {state : Nat}
    (inside : state < m.fragment.size) :
    copyState o l m host s state = Indexed.copyState l m host s state := by
  have entries : copyEntry o l m host state (state + m.offset) =
      Indexed.copyEntry l m host state := by
    funext s entry
    exact copyEntry_eq room state s entry
  rw [copyState, add_eq (sum_fits room inside), Indexed.ok_bind, entries]
  rfl

theorem copyMember_eq (room : m.Room host l)
    (terminals : m.owner.terminalCount host < UInt64.size) (b : Board) :
    copyMember o l m host b = Indexed.copyMember l host b m := by
  rw [copyMember, terminalCount_eq terminals, Indexed.ok_bind]
  exact Indexed.foldlM_congr
    (fun _ listed s => copyState_eq room s (List.mem_range.mp listed)) _

section Copied

variable {host : HostFragment} {extensions : List ExtensionFragment}

/-- The terminals of a fragment are among the columns of the merged table. -/
theorem terminals_fit (laid : Layout.Laid host extensions l)
    (inside : m ∈ Member.all host extensions l) :
    m.owner.terminalCount host.grammar < UInt64.size := by
  have largest : EngineAction.maxParameter.toNat < UInt64.size := by decide
  have width := Nat.le_trans laid.ordinaryColumns_le (Nat.le_trans (Nat.le_max_right _ _) laid.fits)
  have columns : m.owner.terminalCount host.grammar ≤ l.ordinaryColumns := by
    rcases (Member.mem_all_iff m).mp inside with rfl | ⟨i, e, listed, rfl⟩
    · exact Nat.le_trans (Nat.le_max_left _ _) laid.host_tableWidth_le
    · have own := laid.extension_tableWidth_le (List.mem_of_getElem? listed)
      exact Nat.le_trans (Nat.add_le_add_left (Nat.le_max_left _ _) _) own
  omega

/-- With the sizes of a layout, holding numbers in 64 bits changes nothing. -/
theorem copy_eq (laid : Layout.Laid host extensions l) :
    copy o l host extensions = lift (MergedTables.copy host extensions l) := by
  have member {m : Member} (inside : m ∈ Member.all host extensions l) (b : Board) :
      copyMember o l m host.grammar b = Indexed.copyMember l host.grammar b m :=
    copyMember_eq (Member.room_of_mem laid inside) (terminals_fit laid inside) b
  have extension : ∀ entry ∈ extensions.zipIdx, ∀ s,
      copyExtension o l host.grammar s entry = Indexed.copyExtension l host.grammar s entry := by
    intro entry listed s
    rw [copyExtension, Indexed.copyExtension,
      Indexed.fetch_eq (Indexed.getElem?_offsets_of_mem laid listed), Indexed.ok_bind,
      Indexed.ok_bind, member (Indexed.ofExtension_mem listed)]
  rw [← Indexed.copy_eq laid, copy, Indexed.copy, member Member.ofHost_mem_all]
  simp only [Indexed.foldlM_congr extension]

theorem copyEntry_eq_error_iff (laid : Layout.Laid host extensions l)
    (inside : m ∈ Member.all host extensions l) {state : Nat} (own : state < m.fragment.size)
    {s : Copying} (fits : s.Fits l.totalStates l.width (m.owner.terminalCount host.grammar))
    (entry : Nat × FragmentAction) (stop : Stop) :
    copyEntry o l m host.grammar state (state + m.offset) s entry = .error stop ↔
      ∃ fault, stop = .reported fault ∧ m.EntryFault host.grammar l state entry fault := by
  have room := Member.room_of_mem laid inside
  have rows := Member.offset_add_size_le laid inside
  have row : state + m.offset < l.totalStates := by omega
  rw [copyEntry_eq room, Indexed.copyEntry_eq laid.ordinaryColumns_le fits row, bind_eq_error_iff,
    Indexed.lift_eq_error_iff]
  simp only [MergedTables.copyEntry_eq_error_iff room]
  refine or_iff_left (fun given => ?_)
  obtain ⟨_, _, finished⟩ := given
  cases finished

/-- A host whose highest terminal is the highest number of 64 bits. -/
def overfullFragment : HostFragment where
  grammar := { Partition.statementHost with terminals := .ofList [0, UInt64.size - 1] }
  table := ⟨[.ofList [(0, .accept)]]⟩

-- A build with overflow checks has no layout for it. One without them lays out too few columns, and
-- then refuses a column that is a terminal's: this is why the numbers have to fit.
example : layout .stops overfullFragment [] = .error .outOfRange := by decide +kernel

example : (do
    let l ← layout .wraps overfullFragment []
    copy .wraps l overfullFragment []) =
      .error (.reported (.terminalOutOfRange "host" 0 0)) := by
  decide +kernel

end Copied

end Sized

end ParserSplice
