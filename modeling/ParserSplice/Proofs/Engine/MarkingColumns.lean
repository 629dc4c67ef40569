import ParserSplice.Proofs.Engine.Filling

set_option autoImplicit false

namespace ParserSplice

namespace MergedTables

variable {host : HostFragment} {extensions : List ExtensionFragment} {l : Layout}
  {t t' : MergedTables} {conflicts : List Conflict}

/-- The cells after all writes to marking columns, and the conflicts. -/
def filling (t : MergedTables) (host : HostFragment) (extensions : List ExtensionFragment)
    (l : Layout) : Filling :=
  (Filling.mk t.cells []).wroteAll (MarkingWrite.all host extensions l)

theorem fill_eq_ok_iff (t t' : MergedTables) (conflicts : List Conflict) :
    t.fill host extensions l = (t', .ok conflicts) ↔
      (∀ w ∈ MarkingWrite.all host extensions l, w.action.Fits) ∧
      { t with cells := (t.filling host extensions l).cells } = t' ∧
      (t.filling host extensions l).conflicts = conflicts := by
  have spec := Filling.writeAll_eq_none_iff (Filling.mk t.cells []) (t.filling host extensions l)
    (MarkingWrite.all host extensions l)
  rw [fill]
  constructor
  · intro given
    cases run : (Filling.mk t.cells []).writeAll (MarkingWrite.all host extensions l) with
    | mk done fault =>
      rw [run] at given
      cases fault with
      | some e => cases given
      | none =>
        obtain ⟨fits, rfl⟩ := (Filling.writeAll_eq_none_iff _ _ _).mp run
        cases given
        exact ⟨fits, rfl, rfl⟩
  · intro given
    obtain ⟨fits, rfl, rfl⟩ := given
    rw [spec.mpr ⟨fits, rfl⟩]

/-- Filling succeeds exactly when each action that is written fits a cell. -/
theorem exists_fill_iff (t : MergedTables) :
    (∃ conflicts, (t.fill host extensions l).2 = .ok conflicts) ↔
      ∀ w ∈ MarkingWrite.all host extensions l, w.action.Fits := by
  constructor
  · intro given
    obtain ⟨conflicts, filled⟩ := given
    exact ((fill_eq_ok_iff t _ conflicts).mp (Prod.ext rfl filled)).1
  · intro fits
    exact ⟨_, congrArg Prod.snd ((fill_eq_ok_iff t _ _).mpr ⟨fits, rfl, rfl⟩)⟩

/-- Only reductions can be too large for a cell, since all states are within the table. -/
theorem fits_all_iff (laid : Layout.Laid host extensions l) :
    (∀ w ∈ MarkingWrite.all host extensions l, w.action.Fits) ↔
      ∀ m ∈ Member.all host extensions l, ∀ s < m.fragment.size, ∀ mk ∈ l.markings, ∀ p,
        m.fragment.Pending s mk.hook p → p ≤ EngineAction.maxParameter.toNat := by
  constructor
  · intro fits m member s inside mk marking p pending
    have own := (m.fragment.mem_actionsOn_iff s mk _).mpr (Or.inr ⟨p, pending, rfl⟩)
    exact fits _ ((MarkingWrite.mem_all _).mpr
      ⟨m, member, s, inside, mk, marking, .reduce p, own, rfl⟩)
  · intro bounded w written
    obtain ⟨m, member, s, inside, mk, marking, a, own, rfl⟩ := (MarkingWrite.mem_all w).mp written
    rcases (m.fragment.mem_actionsOn_iff s mk a).mp own with ⟨_, rfl⟩ | ⟨p, pending, rfl⟩
    · exact Nat.le_trans (Nat.le_of_lt (laid.target_lt marking)) laid.totalStates_le
    · exact bounded m member s inside mk marking p pending

section

variable (laid : Layout.Laid host extensions l) (merged : Merged host extensions l t)

include laid merged

/-- Copying leaves marking columns empty. -/
theorem cell?_fresh_marking {m : Member} (member : m ∈ Member.all host extensions l) {s : Nat}
    (inside : s < m.fragment.size) {mk : PlacedMarking} (marking : mk ∈ l.markings) :
    (Filling.mk t.cells []).cell? (s + m.offset, mk.column) = some 0 := by
  obtain ⟨past, within⟩ := laid.column_bounds marking
  exact (merged.copiedInto laid member).past s inside mk.column within past

theorem grid_fresh_marking {m : Member} (member : m ∈ Member.all host extensions l) {s : Nat}
    (inside : s < m.fragment.size) {mk : PlacedMarking} (marking : mk ∈ l.markings) :
    (Filling.mk t.cells []).grid (s + m.offset, mk.column) = .error := by
  rw [Filling.grid, cell?_fresh_marking laid merged member inside marking]
  rfl

theorem inside_all : ∀ w ∈ MarkingWrite.all host extensions l,
    ((Filling.mk t.cells []).cell? w.cell).isSome := by
  intro w written
  obtain ⟨m, member, s, inside, mk, marking, a, own, rfl⟩ := (MarkingWrite.mem_all w).mp written
  exact Option.isSome_of_eq_some (cell?_fresh_marking laid merged member inside marking)

variable (filled : t.fill host extensions l = (t', .ok conflicts))

include filled

/-- A marking cell holds the last thing that its state does on the marking terminal. -/
theorem action_marking {m : Member} (member : m ∈ Member.all host extensions l) {s : Nat}
    (inside : s < m.fragment.size) {mk : PlacedMarking} (marking : mk ∈ l.markings) :
    t'.action (s + m.offset) mk.column =
      (((m.fragment.actionsOn s mk).getLast?).map MarkingAction.merged).getD .error := by
  obtain ⟨fits, rfl, _⟩ := (fill_eq_ok_iff t t' conflicts).mp filled
  have held := (Filling.wroteAll_spec _ _ fits (inside_all laid merged)).1
  have fresh := grid_fresh_marking laid merged member inside marking
  calc ((Filling.mk t.cells []).wroteAll (MarkingWrite.all host extensions l)).grid
        (s + m.offset, mk.column)
    _ = (Filling.mk t.cells []).grid.writeAll (MarkingWrite.all host extensions l)
          (s + m.offset, mk.column) := by rw [held]
    _ = _ := by
      rw [Grid.writeAll_apply, MarkingWrite.actionsAt_all laid member inside marking, fresh]

theorem cell?_marking_of_quiet {m : Member} (member : m ∈ Member.all host extensions l) {s : Nat}
    (inside : s < m.fragment.size) {mk : PlacedMarking} (marking : mk ∈ l.markings)
    (quiet : m.fragment.actionsOn s mk = []) : t'.cell? (s + m.offset) mk.column = some 0 := by
  obtain ⟨_, rfl, _⟩ := (fill_eq_ok_iff t t' conflicts).mp filled
  have untouched : ∀ w ∈ MarkingWrite.all host extensions l,
      w.cell ≠ (s + m.offset, mk.column) := by
    rw [← MarkingWrite.actionsAt_eq_nil_iff,
      MarkingWrite.actionsAt_all laid member inside marking, quiet]
  exact (Filling.cell?_wroteAll_of_untouched (Filling.mk t.cells []) untouched).trans
    (cell?_fresh_marking laid merged member inside marking)

/-- The conflicts of a fill, state by state and column by column. -/
theorem conflicts_eq : conflicts =
    (Member.states (Member.all host extensions l)).flatMap (Member.conflictsAt l) := by
  obtain ⟨fits, _, rfl⟩ := (fill_eq_ok_iff t t' conflicts).mp filled
  have raised := (Filling.wroteAll_spec _ _ fits (inside_all laid merged)).2
  rw [filling, raised, List.nil_append, MarkingWrite.conflicts_all laid _ fits]
  intro row below mk marking
  obtain ⟨m, member, s, inside, rfl⟩ := Member.exists_of_lt_totalStates laid row below
  exact grid_fresh_marking laid merged member inside marking

omit laid merged in
theorem cell?_of_not_marking {column : Nat} (other : ∀ mk ∈ l.markings, mk.column ≠ column)
    (row : Nat) : t'.cell? row column = t.cell? row column := by
  obtain ⟨_, rfl, _⟩ := (fill_eq_ok_iff t t' conflicts).mp filled
  exact Filling.cell?_wroteAll_of_untouched (Filling.mk t.cells [])
    (MarkingWrite.elsewhere_all other row)

/-- On all other columns a state keeps doing what its own table does there, translated. -/
theorem action_ordinary {m : Member} (member : m ∈ Member.all host extensions l) {s : Nat}
    (inside : s < m.fragment.size) {column : Nat}
    (other : ∀ mk ∈ l.markings, mk.column ≠ column) :
    t'.action (s + m.offset) column =
      m.merged host.grammar column (m.fragment.table.action s column) := by
  rw [action_congr (cell?_of_not_marking filled other _), merged.action_eq laid member inside]

omit laid merged in
/-- Filling changes cells only. -/
theorem eq_of_fill : { t with cells := t'.cells } = t' := by
  obtain ⟨_, rfl, _⟩ := (fill_eq_ok_iff t t' conflicts).mp filled
  rfl

omit laid merged in
theorem isSome_cell?_of_fill (row column : Nat) :
    (t'.cell? row column).isSome = (t.cell? row column).isSome := by
  obtain ⟨_, rfl, _⟩ := (fill_eq_ok_iff t t' conflicts).mp filled
  exact Filling.isSome_cell?_wroteAll (Filling.mk t.cells []) _ (row, column)

end

end MergedTables

/-- The marking columns of a fragment in filled tables. -/
structure Member.FilledInto (m : Member) (l : Layout) (t : MergedTables) : Prop where
  reduces : ∀ s < m.fragment.size, ∀ mk ∈ l.markings, ∀ p, m.fragment.Pending s mk.hook p →
    ∃ largest : UInt32, m.fragment.Pending s mk.hook largest.toNat ∧
      (∀ q, m.fragment.Pending s mk.hook q → q ≤ largest.toNat) ∧
      t.action (s + m.offset) mk.column = .reduce largest
  shifts : ∀ s < m.fragment.size, ∀ mk ∈ l.markings, (∀ p, ¬ m.fragment.Pending s mk.hook p) →
    m.fragment.Starts s mk.hook → ∃ target : UInt32, target.toNat = mk.target ∧
      t.action (s + m.offset) mk.column = .shift target
  otherwise : ∀ s < m.fragment.size, ∀ mk ∈ l.markings, (∀ p, ¬ m.fragment.Pending s mk.hook p) →
    ¬ m.fragment.Starts s mk.hook →
      t.cell? (s + m.offset) mk.column = some 0 ∧ t.action (s + m.offset) mk.column = .error

namespace MergedTables

variable {host : HostFragment} {extensions : List ExtensionFragment} {l : Layout}
  {t t' : MergedTables} {conflicts : List Conflict}

theorem filledInto (laid : Layout.Laid host extensions l) (merged : Merged host extensions l t)
    (filled : t.fill host extensions l = (t', .ok conflicts)) {m : Member}
    (member : m ∈ Member.all host extensions l) : m.FilledInto l t' := by
  have held : ∀ s < m.fragment.size, ∀ mk ∈ l.markings, t'.action (s + m.offset) mk.column =
      (((m.fragment.actionsOn s mk).getLast?).map MarkingAction.merged).getD .error :=
    fun s inside mk marking => action_marking laid merged filled member inside marking
  refine {
    reduces := fun s inside mk marking p pending => ?_
    shifts := fun s inside mk marking none starts => ?_
    otherwise := fun s inside mk marking none idle => ?_ }
  · obtain ⟨largest, own, bound, last⟩ := m.fragment.getLast?_actionsOn_of_pending pending
    have fits := (fits_all_iff laid).mp ((fill_eq_ok_iff t t' conflicts).mp filled).1
      m member s inside mk marking largest own
    have number := EngineAction.toNat_ofNat_of_le fits
    refine ⟨UInt32.ofNat largest, by rwa [number], by rwa [number], ?_⟩
    rw [held s inside mk marking, last]
    rfl
  · have number := EngineAction.toNat_ofNat_of_le
      (Nat.le_trans (Nat.le_of_lt (laid.target_lt marking)) laid.totalStates_le)
    refine ⟨UInt32.ofNat mk.target, number, ?_⟩
    rw [held s inside mk marking, m.fragment.actionsOn_of_not_pending none, Fragment.shiftsOn,
      if_pos ((m.fragment.contains_startableIn_iff s mk.hook).mpr starts)]
    rfl
  · have quiet : m.fragment.actionsOn s mk = [] := by
      rw [m.fragment.actionsOn_of_not_pending none, Fragment.shiftsOn,
        if_neg (fun found => idle ((m.fragment.contains_startableIn_iff s mk.hook).mp found))]
    refine ⟨cell?_marking_of_quiet laid merged filled member inside marking quiet, ?_⟩
    rw [held s inside mk marking, quiet]
    rfl

/-- Filled tables agree with the copied ones outside of marking columns. -/
structure Filled (host : HostFragment) (extensions : List ExtensionFragment) (l : Layout)
    (t t' : MergedTables) : Prop where
  ofHost : (Member.ofHost host).FilledInto l t'
  ofExtension : ∀ (i : Nat) e, extensions[i]? = some e → ∃ offset : Nat,
    l.offsets[i]? = some offset ∧ (Member.ofExtension e offset).FilledInto l t'
  elsewhere : ∀ row column, (∀ mk ∈ l.markings, mk.column ≠ column) →
    t'.cell? row column = t.cell? row column
  shape : ∀ row column, (t'.cell? row column).isSome = (t.cell? row column).isSome
  layouts : t'.layouts = t.layouts
  hostUses : t'.hostUses = t.hostUses
  extensionUses : t'.extensionUses = t.extensionUses

/-- When marking columns can be filled, and what stands in them then. -/
structure FillsMarkings (host : HostFragment) (extensions : List ExtensionFragment) (l : Layout)
    (t : MergedTables) : Prop where
  succeeds : (∃ conflicts, (t.fill host extensions l).2 = .ok conflicts) ↔ l.markings = [] ∨
    ∀ m ∈ Member.all host extensions l, ∀ s < m.fragment.size, ∀ mk ∈ l.markings, ∀ p,
      m.fragment.Pending s mk.hook p → p ≤ EngineAction.maxParameter.toNat
  filled : ∀ t' conflicts, t.fill host extensions l = (t', .ok conflicts) →
    Filled host extensions l t t'

/-- Filling writes the marking columns of copied tables and nothing else. -/
theorem fillsMarkings_of_copy (computed : Layout.compute host extensions = .ok l)
    (copied : copy host extensions l = .ok t) : FillsMarkings host extensions l t := by
  have laid := Layout.compute_eq_ok_iff.mp computed
  have merged := (copy_eq_ok_iff laid).mp copied
  refine {
    succeeds := ?_
    filled := fun t' conflicts filled => {
      ofHost := filledInto laid merged filled Member.ofHost_mem_all
      ofExtension := fun i e found => ⟨l.offset i, ?_, ?_⟩
      elsewhere := fun row column other => cell?_of_not_marking filled other row
      shape := isSome_cell?_of_fill filled
      layouts := by rw [← eq_of_fill filled]
      hostUses := by rw [← eq_of_fill filled]
      extensionUses := by rw [← eq_of_fill filled] } }
  · rw [exists_fill_iff, fits_all_iff laid]
    constructor
    · exact Or.inr
    · intro given
      rcases given with empty | bounded
      · intro m member s inside mk marking
        rw [empty] at marking
        cases marking
      · exact bounded
  · exact laid.getElem?_offsets i (List.getElem?_eq_some_iff.mp found).1
  · exact filledInto laid merged filled (Member.ofExtension_mem_all found)

/-- A host with a state that can shift a marking terminal and reduce on it. -/
def waitingFragment : HostFragment :=
  { statementFragment with
    startable := [.ofList [2], .ofList [2]]
    reducible := [.ofList [(2, .ofList [3])]] }

/-- An extension with a state that can reduce two productions on a marking terminal. -/
def waitingExtension : ExtensionFragment :=
  { markedFragment with reducible := [.ofList [(2, .ofList [3, 9])]] }

theorem fillsMarkings_waitingFragment : ∃ l t t' conflicts,
    Layout.compute waitingFragment [waitingExtension] = .ok l ∧
    copy waitingFragment [waitingExtension] l = .ok t ∧
    t.fill waitingFragment [waitingExtension] l = (t', .ok conflicts) ∧
    t'.action 0 7 = .reduce 3 ∧ t'.action 1 7 = .shift 3 ∧ t'.action 3 7 = .reduce 9 ∧
    FillsMarkings waitingFragment [waitingExtension] l t :=
  ⟨_, _, _, _, rfl, rfl, rfl, rfl, rfl, rfl, fillsMarkings_of_copy rfl rfl⟩

/-- Each action of a state on a marking terminal conflicts with the next one, and nothing else does. -/
structure ReportsOverwrites (host : HostFragment) (extensions : List ExtensionFragment) (l : Layout)
    (conflicts : List Conflict) : Prop where
  listed : conflicts =
    (Member.states (Member.all host extensions l)).flatMap (Member.conflictsAt l)
  rows : (Member.states (Member.all host extensions l)).map Member.rowOf = List.range l.totalStates
  columns : l.markings.map (fun mk => mk.column) =
    List.range' l.ordinaryColumns l.markings.length
  exact : ∀ m ∈ Member.all host extensions l, ∀ s < m.fragment.size, ∀ mk ∈ l.markings,
    ∀ a ∈ m.fragment.actionsOn s mk, a.merged.parameter.toNat = a.number
  kind : ∀ c ∈ conflicts, c.kind = if c.first.isShift then .shiftReduce else .reduceReduce

/-- A fill of copied tables reports every overwritten action once. -/
theorem reportsOverwrites_of_fill (computed : Layout.compute host extensions = .ok l)
    (copied : copy host extensions l = .ok t)
    (filled : t.fill host extensions l = (t', .ok conflicts)) :
    ReportsOverwrites host extensions l conflicts := by
  have laid := Layout.compute_eq_ok_iff.mp computed
  have merged := (copy_eq_ok_iff laid).mp copied
  have listed := conflicts_eq laid merged filled
  refine {
    listed := listed
    rows := Member.rows_states laid
    columns := laid.columns_markings
    exact := fun m member s inside mk marking a own => ?_
    kind := fun c raised => ?_ }
  · have fits := ((fill_eq_ok_iff t t' conflicts).mp filled).1
    exact (fits _ ((MarkingWrite.mem_all _).mpr
      ⟨m, member, s, inside, mk, marking, a, own, rfl⟩)).parameter_merged
  · rw [listed] at raised
    obtain ⟨place, _, own⟩ := List.mem_flatMap.mp raised
    exact Member.kind_of_mem_conflictsAt own

theorem reportsOverwrites_waitingFragment : ∃ l t t',
    Layout.compute waitingFragment [waitingExtension] = .ok l ∧
    copy waitingFragment [waitingExtension] l = .ok t ∧
    t.fill waitingFragment [waitingExtension] l =
      (t', .ok [⟨0, 7, .shift 3, .reduce 3⟩, ⟨3, 7, .reduce 3, .reduce 9⟩]) ∧
    ReportsOverwrites waitingFragment [waitingExtension] l
      [⟨0, 7, .shift 3, .reduce 3⟩, ⟨3, 7, .reduce 3, .reduce 9⟩] :=
  ⟨_, _, _, rfl, rfl, rfl, reportsOverwrites_of_fill rfl rfl rfl⟩

end MergedTables

end ParserSplice
