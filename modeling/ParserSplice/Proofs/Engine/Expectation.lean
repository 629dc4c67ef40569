import ParserSplice.Engine.ParseTables
import ParserSplice.Proofs.Engine.Confinement

set_option autoImplicit false

namespace ParserSplice

def FragmentAction.Triggered (host : Grammar) (column : Nat) : FragmentAction → Prop
  | .shift _ | .reduce _ => True
  | .accept => column = host.endOfInput
  | .error | .goto _ => False

theorem MarkingAction.isTerminalAction_merged (a : MarkingAction) :
    a.merged.isTerminalAction = true := by
  cases a <;> rfl

namespace Fragment

variable (f : Fragment)

/-- A marking terminal is open in a state if its hook can start there, or if a production waits for
the hook. -/
def Opens (state hook : Nat) : Prop :=
  f.Starts state hook ∨ ∃ production, f.Pending state hook production

theorem opens_iff (state : Nat) (mk : PlacedMarking) :
    f.Opens state mk.hook ↔ f.actionsOn state mk ≠ [] := by
  constructor
  · intro given
    rcases given with starts | ⟨production, pending⟩
    · exact List.ne_nil_of_mem ((f.mem_actionsOn_iff state mk _).mpr (Or.inl ⟨starts, rfl⟩))
    · exact List.ne_nil_of_mem
        ((f.mem_actionsOn_iff state mk _).mpr (Or.inr ⟨production, pending, rfl⟩))
  · intro some
    obtain ⟨a, own⟩ := List.exists_mem_of_ne_nil _ some
    rcases (f.mem_actionsOn_iff state mk a).mp own with ⟨starts, _⟩ | ⟨production, pending, _⟩
    · exact Or.inl starts
    · exact Or.inr ⟨production, pending⟩

end Fragment

namespace Member

variable (m : Member) (host : Grammar)

/-- A terminal on which a state of the fragment shifts, reduces or accepts. -/
def Triggered (state column : Nat) : Prop :=
  m.owner.classify host column = some .terminal ∧
    (m.fragment.table.action state column).Triggered host column

theorem isTerminalAction_merged_iff (column : Nat) (action : FragmentAction) :
    (m.merged host column action).isTerminalAction = true ↔
      m.owner.classify host column = some .terminal ∧ action.Triggered host column := by
  unfold merged FragmentAction.Triggered
  cases m.owner.classify host column with
  | none => simp [EngineAction.isTerminalAction]
  | some kind =>
    cases kind with
    | terminal =>
      cases action with
      | accept =>
        by_cases atEnd : column = host.endOfInput <;> simp [atEnd, EngineAction.isTerminalAction]
      | error | shift _ | reduce _ | goto _ => simp [EngineAction.isTerminalAction]
    | nonterminal => cases action <;> simp [EngineAction.isTerminalAction]

end Member

namespace ParseTables

variable (t : ParseTables) (row column : Nat)

theorem mem_shiftable_iff :
    column ∈ t.shiftable row ↔ (t.action row column).isTerminalAction = true := by
  simp only [shiftable, action, OrderedSet.mem_ofList, List.mem_map, List.mem_filter,
    List.mem_zipIdx_iff_getElem?]
  cases t.cells[row]? with
  | none => simp [EngineAction.decode, EngineAction.isTerminalAction]
  | some cells =>
    simp only [Option.getD_some, Option.bind_some]
    constructor
    · intro given
      obtain ⟨⟨cell, _⟩, ⟨found, active⟩, rfl⟩ := given
      rwa [show cells[_]? = some cell from found]
    · intro active
      cases found : cells[column]? with
      | none =>
        rw [found] at active
        cases active
      | some cell =>
        rw [found] at active
        exact ⟨(cell, column), ⟨found, active⟩, rfl⟩

end ParseTables

/-- What a parse loop expects in the states of a fragment. -/
structure Member.Expects (m : Member) (host : Grammar) (l : Layout) (t : ParseTables) : Prop where
  shiftable : ∀ s < m.fragment.size, ∀ c, c ∈ t.shiftable (s + m.offset) ↔
    m.Triggered host s c ∨ ∃ mk ∈ l.markings, mk.column = c ∧ m.fragment.Opens s mk.hook
  noNonterminals : ∀ s < m.fragment.size, ∀ c, m.owner.classify host c = some .nonterminal →
    c ∉ t.shiftable (s + m.offset)

namespace MergedTables

variable {host : HostFragment} {extensions : List ExtensionFragment} {l : Layout}
  {t t' : MergedTables} {conflicts : List Conflict}

section

variable (laid : Layout.Laid host extensions l) (merged : Merged host extensions l t)
  (filled : t.fill host extensions l = (t', .ok conflicts)) {m : Member}
  (member : m ∈ Member.all host extensions l) {s : Nat} (inside : s < m.fragment.size)

include laid merged filled member inside

/-- On a marking column a state does something exactly when the marking terminal is open. -/
theorem isTerminalAction_marking_iff {mk : PlacedMarking} (marking : mk ∈ l.markings) :
    (t'.action (s + m.offset) mk.column).isTerminalAction = true ↔
      m.fragment.Opens s mk.hook := by
  rw [action_marking laid merged filled member inside marking, Fragment.opens_iff,
    ← List.getLast?_isSome]
  cases (m.fragment.actionsOn s mk).getLast? with
  | none => simp [EngineAction.isTerminalAction]
  | some a => simp [a.isTerminalAction_merged]

theorem isTerminalAction_iff (column : Nat) :
    (t'.action (s + m.offset) column).isTerminalAction = true ↔ m.Triggered host.grammar s column ∨
      ∃ mk ∈ l.markings, mk.column = column ∧ m.fragment.Opens s mk.hook := by
  refine laid.iff_on_columns (fun mk marking same => ?_) (fun other => ?_)
    (fun triggered => laid.column_ne_of_classified member triggered.1)
  · rw [← same]
    exact isTerminalAction_marking_iff laid merged filled member inside marking
  · rw [action_ordinary laid merged filled member inside other]
    exact m.isTerminalAction_merged_iff host.grammar column _

end

/-- A parse loop expects exactly what the fragments can do. -/
structure ExpectsSources (host : HostFragment) (extensions : List ExtensionFragment) (l : Layout)
    (t : ParseTables) : Prop where
  ofHost : (Member.ofHost host).Expects host.grammar l t
  ofExtension : ∀ (i : Nat) e, extensions[i]? = some e → ∃ offset : Nat,
    l.offsets[i]? = some offset ∧ (Member.ofExtension e offset).Expects host.grammar l t
  elsewhere : ∀ row, ¬ l.OfHost row → (∀ i, ¬ l.OfExtension i row) → t.shiftable row = ∅

theorem expects_of_filled (laid : Layout.Laid host extensions l)
    (merged : Merged host extensions l t)
    (filled : t.fill host extensions l = (t', .ok conflicts)) {tables : ParseTables}
    (loaded : tables.cells = t'.cells) {m : Member} (member : m ∈ Member.all host extensions l) :
    m.Expects host.grammar l tables := by
  have shiftable : ∀ s < m.fragment.size, ∀ c, c ∈ tables.shiftable (s + m.offset) ↔
      m.Triggered host.grammar s c ∨
        ∃ mk ∈ l.markings, mk.column = c ∧ m.fragment.Opens s mk.hook := by
    intro s inside c
    rw [ParseTables.mem_shiftable_iff, ← isTerminalAction_iff laid merged filled member inside,
      ParseTables.action, loaded]
    rfl
  refine ⟨shiftable, fun s inside c nonterminal expected => ?_⟩
  rcases (shiftable s inside c).mp expected with ⟨terminal, _⟩ | ⟨mk, marking, rfl, _⟩
  · rw [nonterminal] at terminal
    cases terminal
  · exact laid.column_ne_of_classified member nonterminal mk marking rfl

/-- The columns that a parse loop expects in an engine are the real ones. -/
theorem expectsSources_of_build
    {scan : OrderedMap String → Except CompositionError (ScannerTable × ScannerSets)}
    {engine : Engine} (built : Engine.buildBy scan host extensions = .ok engine) (tables : ParseTables)
    (loaded : tables.cells = engine.tables.cells) :
    ExpectsSources host extensions engine.layout tables := by
  obtain ⟨computed, ⟨t, copied, filled⟩, _⟩ := (Engine.buildBy_eq_ok_iff engine).mp built
  have laid := Layout.compute_eq_ok_iff.mp computed
  have merged := (copy_eq_ok_iff laid).mp copied
  refine {
    ofHost := expects_of_filled laid merged filled loaded Member.ofHost_mem_all
    ofExtension := fun i e found => ⟨engine.layout.offset i,
      laid.getElem?_offsets i (List.getElem?_eq_some_iff.mp found).1,
      expects_of_filled laid merged filled loaded (Member.ofExtension_mem_all found)⟩
    elsewhere := fun row notHost notExtension => ?_ }
  have past : engine.layout.totalStates ≤ row := by
    by_contra within
    rcases laid.ofHost_or_ofExtension (Nat.lt_of_not_le within) with own | ⟨i, own⟩
    · exact notHost own
    · exact notExtension i own
  apply OrderedSet.ext_mem
  intro column
  have held := isSome_cell?_of_fill filled row column
  rw [merged.cell?_of_totalStates_le past, Option.isSome_none, Option.isSome_eq_false_iff,
    Option.isNone_iff_eq_none] at held
  have error : tables.action row column = .error := by
    rw [ParseTables.action, loaded]
    exact congrArg (fun cell : Option UInt32 => EngineAction.decode (cell.getD 0)) held
  rw [ParseTables.mem_shiftable_iff, error]
  exact iff_of_false Bool.false_ne_true (OrderedSet.not_mem_empty column)

/-- The first host state expects its terminal and the marking terminal, but not the nonterminal 2
that it has a goto for. -/
theorem expectsSources_waitingFragment : ∃ (engine : Engine) (tables : ParseTables),
    Engine.buildBy Scanner.build waitingFragment [waitingExtension] = .ok engine ∧
    tables.cells = engine.tables.cells ∧ tables.shiftable 0 = .ofList [1, 7] ∧
    ExpectsSources waitingFragment [waitingExtension] engine.layout tables := by
  have computed : Layout.compute waitingFragment [waitingExtension] = .ok _ := rfl
  obtain ⟨engine, built, _, cells, _⟩ :=
    Engine.exists_buildBy computed rfl rfl rfl Engine.exists_waitingScanner
  let tables : ParseTables :=
    ⟨engine.layout.fragmentOf, engine.tables.cells, fun _ => [], fun _ _ => none⟩
  refine ⟨engine, tables, built, rfl, ?_, expectsSources_of_build built tables rfl⟩
  show (ParseTables.mk _ engine.tables.cells _ _).shiftable 0 = _
  rw [cells]
  rfl

end MergedTables

end ParserSplice
