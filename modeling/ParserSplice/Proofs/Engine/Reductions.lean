import ParserSplice.Proofs.Engine.ComposedStates
import ParserSplice.Proofs.Partition.Bijection

set_option autoImplicit false

namespace ParserSplice

namespace Member

variable (m : Member)

/-- The sources of a fragment let a state reduce a production on a column: its table does so on a
terminal, or the column is that of a marking terminal, the production waits for its hook and no
larger one does. -/
def Reduces (host : Grammar) (l : Layout) (state column production : Nat) : Prop :=
  (m.owner.classify host column = some .terminal ∧
      m.fragment.table.action state column = .reduce production) ∨
    ∃ mk ∈ l.markings, mk.column = column ∧ m.fragment.Pending state mk.hook production ∧
      ∀ other, m.fragment.Pending state mk.hook other → other ≤ production

/-- Every reduction of a fragment is by a production of its grammar, and the length that is kept for
the production is that of its right-hand side. -/
def Executes (t : MergedTables) (own : Grammar) (lengths : List Nat) : Prop :=
  ∀ s < m.fragment.size, ∀ c p, t.action (s + m.offset) c = .reduce p →
    p.toNat ∈ own.productions ∧ lengths[p.toNat]? = some (own.rhsLength p.toNat)

theorem exists_reduce_of_merged {host : Grammar} {column : Nat} {action : FragmentAction}
    {p : UInt32} (reduced : m.merged host column action = .reduce p) :
    m.owner.classify host column = some .terminal ∧ ∃ q, action = .reduce q := by
  unfold merged at reduced
  split at reduced
  · split at reduced <;> cases reduced
  · cases reduced
  · next production terminal => exact ⟨terminal, production, rfl⟩
  · cases reduced
  · cases reduced

end Member

theorem Grammar.getElem?_productionLengths_of_mem {g : Grammar} {q : Nat}
    (declared : q ∈ g.productions) : g.productionLengths[q]? = some (g.rhsLength q) :=
  g.getElem?_productionLengths q (OrderedSet.lt_span declared)

theorem EngineContents.lookup_artifacts (c : EngineContents) (k : ArtifactKind) :
    c.artifacts.lookup k = some (.ofContent (c.content k)) := by
  cases k <;> rfl

/-- What a fragment reduces in merged tables, and when that can be carried out. -/
structure Member.TracesReductions (m : Member) (host : Grammar) (l : Layout) (t : MergedTables)
    (own : Grammar) (lengths : List Nat) : Prop where
  sources : ∀ s < m.fragment.size, ∀ c q,
    (∃ p : UInt32, p.toNat = q ∧ t.action (s + m.offset) c = .reduce p) ↔ m.Reduces host l s c q
  listed : ∀ q ∈ own.productions, lengths[q]? = some (own.rhsLength q)
  executable : m.Executes t own lengths ↔
    ∀ s < m.fragment.size, ∀ c q, m.Reduces host l s c q → q ∈ own.productions

namespace MergedTables

variable {host : HostFragment} {extensions : List ExtensionFragment} {l : Layout}
  {t t' : MergedTables} {conflicts : List Conflict}

section

variable (laid : Layout.Laid host extensions l) (merged : Merged host extensions l t)
  (filled : t.fill host extensions l = (t', .ok conflicts)) {m : Member}
  (member : m ∈ Member.all host extensions l) {s : Nat} (inside : s < m.fragment.size)

include laid merged filled member inside

/-- On a marking column a state reduces the largest production that waits for the hook. -/
theorem reduces_marking_iff {mk : PlacedMarking} (marking : mk ∈ l.markings) (q : Nat) :
    (∃ p : UInt32, p.toNat = q ∧ t'.action (s + m.offset) mk.column = .reduce p) ↔
      m.fragment.Pending s mk.hook q ∧ ∀ other, m.fragment.Pending s mk.hook other → other ≤ q := by
  have columns := filledInto laid merged filled member
  constructor
  · intro given
    obtain ⟨p, rfl, held⟩ := given
    by_cases waiting : ∃ other, m.fragment.Pending s mk.hook other
    · obtain ⟨other, pending⟩ := waiting
      obtain ⟨largest, own, bound, stands⟩ := columns.reduces s inside mk marking other pending
      obtain rfl : largest = p := EngineAction.reduce.inj (stands.symm.trans held)
      exact ⟨own, bound⟩
    · have none := not_exists.mp waiting
      by_cases starts : m.fragment.Starts s mk.hook
      · obtain ⟨target, _, stands⟩ := columns.shifts s inside mk marking none starts
        cases stands.symm.trans held
      · cases (columns.otherwise s inside mk marking none starts).2.symm.trans held
  · intro given
    obtain ⟨pending, bound⟩ := given
    obtain ⟨largest, own, least, stands⟩ := columns.reduces s inside mk marking q pending
    exact ⟨largest, Nat.le_antisymm (bound _ own) (least _ pending), stands⟩

/-- On all other columns a state reduces what its own table reduces there. -/
theorem reduces_ordinary_iff {column : Nat} (other : ∀ mk ∈ l.markings, mk.column ≠ column)
    (q : Nat) : (∃ p : UInt32, p.toNat = q ∧ t'.action (s + m.offset) column = .reduce p) ↔
      m.owner.classify host.grammar column = some .terminal ∧
        m.fragment.table.action s column = .reduce q := by
  have unchanged := action_congr (cell?_of_not_marking filled other (s + m.offset))
  have copied := (merged.copiedInto laid member).reduce s inside column
  rw [unchanged]
  constructor
  · intro given
    obtain ⟨p, rfl, held⟩ := given
    obtain ⟨terminal, q, own⟩ :=
      m.exists_reduce_of_merged ((merged.action_eq laid member inside column).symm.trans held)
    obtain ⟨production, number, stands⟩ := copied q own terminal
    obtain rfl : production = p := EngineAction.reduce.inj (stands.symm.trans held)
    exact ⟨terminal, number ▸ own⟩
  · intro given
    obtain ⟨terminal, own⟩ := given
    exact copied q own terminal

/-- The reductions of a state are those of its sources. -/
theorem reduces_iff (column q : Nat) :
    (∃ p : UInt32, p.toNat = q ∧ t'.action (s + m.offset) column = .reduce p) ↔
      m.Reduces host.grammar l s column q := by
  refine laid.iff_on_columns (fun mk marking same => ?_) (fun other => ?_)
    (fun own => laid.column_ne_of_classified member own.1)
  · rw [← same]
    exact reduces_marking_iff laid merged filled member inside marking q
  · exact reduces_ordinary_iff laid merged filled member inside other q

end

/-- The reductions of a fragment come from its sources, whatever grammar it has. -/
theorem tracesReductions_of_filled (laid : Layout.Laid host extensions l)
    (merged : Merged host extensions l t)
    (filled : t.fill host extensions l = (t', .ok conflicts)) {m : Member}
    (member : m ∈ Member.all host extensions l) (own : Grammar) :
    m.TracesReductions host.grammar l t' own own.productionLengths := by
  have sources : ∀ s < m.fragment.size, ∀ c q,
      (∃ p : UInt32, p.toNat = q ∧ t'.action (s + m.offset) c = .reduce p) ↔
        m.Reduces host.grammar l s c q :=
    fun s inside c q => reduces_iff laid merged filled member inside c q
  refine {
    sources := sources
    listed := fun q => Grammar.getElem?_productionLengths_of_mem
    executable := ⟨fun executes s inside c q given => ?_, fun closed s inside c p held => ?_⟩ }
  · obtain ⟨p, rfl, held⟩ := (sources s inside c q).mpr given
    exact (executes s inside c p held).1
  · have declared := closed s inside c p.toNat ((sources s inside c p.toNat).mp ⟨p, rfl, held⟩)
    exact ⟨declared, Grammar.getElem?_productionLengths_of_mem declared⟩

end MergedTables

namespace Engine

variable {host : HostFragment} {extensions : List ExtensionFragment}

/-- The production lengths that an engine carries, and what its fragments reduce. -/
structure KeepsReductions (host : HostFragment) (extensions : List ExtensionFragment)
    (engine : Engine) (lengths : List (List Nat)) : Prop where
  carried : engine.artifacts.lookup .productionLengths = some (.ofContent (.lengths lengths))
  fragments : lengths.length = extensions.length + 1
  ofHost : ∃ own, lengths[0]? = some own ∧
    (Member.ofHost host).TracesReductions host.grammar engine.layout engine.tables host.grammar own
  ofExtension : ∀ (i : Nat) e, extensions[i]? = some e → ∃ (offset : Nat) (own : List Nat),
    engine.layout.offsets[i]? = some offset ∧ lengths[i + 1]? = some own ∧
      ∀ full table hostGrammar hostStates extensionStates,
        Partition.build full table hostGrammar hostStates extensionStates = .ok e.partition →
          (Member.ofExtension e offset).TracesReductions host.grammar engine.layout engine.tables
            full own

/-- The reductions of an engine are those of its sources, and the lengths that it carries are those
of the declared productions. So all reductions can be carried out exactly if all are declared. -/
theorem keepsReductions_of_build
    {scan : OrderedMap String → Except CompositionError (ScannerTable × ScannerSets)}
    {engine : Engine} (built : buildBy scan host extensions = .ok engine) :
    ∃ lengths, KeepsReductions host extensions engine lengths := by
  obtain ⟨computed, ⟨t, copied, filled⟩, _, artifacts⟩ := (buildBy_eq_ok_iff engine).mp built
  have laid := Layout.compute_eq_ok_iff.mp computed
  have merged := (MergedTables.copy_eq_ok_iff laid).mp copied
  let contents : EngineContents := ⟨host, extensions, engine.tables, engine.scanner⟩
  refine ⟨contents.productionLengths, {
    carried := ?_
    fragments := ?_
    ofHost := ⟨host.grammar.productionLengths, rfl, ?_⟩
    ofExtension := fun i e found => ?_ }⟩
  · rw [← artifacts]
    exact contents.lookup_artifacts .productionLengths
  · simp [EngineContents.productionLengths, contents]
  · exact MergedTables.tracesReductions_of_filled laid merged filled Member.ofHost_mem_all _
  · refine ⟨engine.layout.offset i, e.partition.productionLengths,
      laid.getElem?_offsets i (List.getElem?_eq_some_iff.mp found).1, ?_, ?_⟩
    · simp [EngineContents.productionLengths, contents, found]
    · intro full table hostGrammar hostStates extensionStates split
      rw [(Partition.build_eq_ok_iff.mp split).lengths]
      exact MergedTables.tracesReductions_of_filled laid merged filled
        (Member.ofExtension_mem_all found) full

/-- In state 3, the first one of the extension, the marking terminal lets production 9 be reduced,
which has a right-hand side of five symbols. -/
theorem keepsReductions_waitingFragment : ∃ engine lengths own,
    buildBy Scanner.build MergedTables.waitingFragment [MergedTables.waitingExtension] =
      .ok engine ∧
    engine.tables.action 3 7 = .reduce 9 ∧ lengths[1]? = some own ∧ own[9]? = some 5 ∧
    KeepsReductions MergedTables.waitingFragment [MergedTables.waitingExtension] engine
      lengths := by
  have computed : Layout.compute MergedTables.waitingFragment [MergedTables.waitingExtension] =
      .ok _ := rfl
  obtain ⟨engine, built, _, tables, _⟩ := exists_buildBy computed rfl rfl rfl exists_waitingScanner
  obtain ⟨lengths, keeps⟩ := keepsReductions_of_build built
  obtain ⟨_, own, _, entry, traces⟩ := keeps.ofExtension 0 _ rfl
  have split : Partition.extendedPartition = .ok MergedTables.waitingExtension.partition := rfl
  have length := (traces _ _ _ _ _ split).listed 9
    ((OrderedSet.mem_ofList 9 [3, 9]).mpr (by decide))
  exact ⟨engine, lengths, own, built, by rw [tables]; rfl, entry, length, keeps⟩

/-- A host whose only state reduces a production that its grammar does not have. -/
def strayFragment : HostFragment :=
  { MergedTables.statementFragment with table := ⟨[.ofList [(0, .reduce 5)]]⟩ }

/-- The engine is built, but there is no length for production 5. -/
theorem unlisted_strayFragment : ∃ engine,
    buildBy Scanner.build strayFragment [] = .ok engine ∧ engine.tables.action 0 0 = .reduce 5 ∧
    5 ∉ strayFragment.grammar.productions ∧
    engine.artifacts.lookup .productionLengths = some (.ofContent (.lengths [[0, 0, 0, 1]])) ∧
    ¬ (Member.ofHost strayFragment).Executes engine.tables strayFragment.grammar [0, 0, 0, 1] := by
  have computed : Layout.compute strayFragment [] = .ok _ := rfl
  obtain ⟨engine, built, _, tables, _⟩ := exists_buildBy computed rfl rfl rfl exists_blankScanner
  have held : engine.tables.action 0 0 = .reduce 5 := by
    rw [tables]
    rfl
  have undeclared : 5 ∉ strayFragment.grammar.productions :=
    fun inside => absurd ((OrderedSet.mem_ofList 5 [3]).mp inside) (by decide)
  refine ⟨engine, built, held, undeclared, ?_, fun executes => ?_⟩
  · rw [← ((buildBy_eq_ok_iff engine).mp built).2.2.2, EngineContents.lookup_artifacts]
    rfl
  · exact undeclared (executes 0 Nat.one_pos 0 5 held).1

end Engine

end ParserSplice
