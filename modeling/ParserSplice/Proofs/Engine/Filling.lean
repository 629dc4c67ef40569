import ParserSplice.Proofs.Engine.Copy
import ParserSplice.Proofs.Engine.Placement
import ParserSplice.Proofs.Engine.Trace

set_option autoImplicit false

namespace ParserSplice

/-- Of items with distinct keys only the one with the key contributes. -/
theorem flatMap_eq_of_key {α β : Type} (key : α → Nat) {items : List α}
    (distinct : (items.map key).Nodup) {item : α} (inside : item ∈ items) (f : α → List β)
    (elsewhere : ∀ other, key other ≠ key item → f other = []) : items.flatMap f = f item := by
  induction items with
  | nil => cases inside
  | cons first rest ih =>
    rw [List.map_cons, List.nodup_cons] at distinct
    rw [List.flatMap_cons]
    rcases List.mem_cons.mp inside with rfl | later
    · have none : rest.flatMap f = [] := by
        rw [List.flatMap_eq_nil_iff]
        intro other found
        exact elsewhere other (fun same => distinct.1 (same ▸ List.mem_map_of_mem found))
      rw [none, List.append_nil]
    · have apart : key first ≠ key item :=
        fun same => distinct.1 (same ▸ List.mem_map_of_mem later)
      rw [elsewhere first apart, List.nil_append]
      exact ih distinct.2 later

namespace Fragment

variable (f : Fragment)

def Starts (state nonterminal : Nat) : Prop :=
  ∃ set, f.startable[state]? = some set ∧ nonterminal ∈ set

def Pending (state hook production : Nat) : Prop :=
  ∃ sources set, f.reducible[state]? = some sources ∧ sources.get? hook = some set ∧
    production ∈ set

theorem contains_startableIn_iff (state nonterminal : Nat) :
    (f.startableIn state).contains nonterminal = true ↔ f.Starts state nonterminal := by
  rw [OrderedSet.contains_iff_mem, startableIn, Starts]
  cases f.startable[state]? with
  | none => simp [OrderedSet.not_mem_empty]
  | some set => simp

theorem mem_reducibleOn_iff (state hook production : Nat) :
    production ∈ f.reducibleOn state hook ↔ f.Pending state hook production := by
  rw [reducibleOn, Pending]
  cases f.reducible[state]? with
  | none => simp [OrderedSet.not_mem_empty]
  | some sources =>
    cases found : sources.get? hook with
    | none => simp [found, OrderedSet.not_mem_empty]
    | some set => simp [found]

def shiftsOn (state : Nat) (mk : PlacedMarking) : List MarkingAction :=
  if (f.startableIn state).contains mk.hook then [.shift mk.target] else []

/-- What a state reduces on a marking terminal, in ascending order. -/
def reductionsOn (state : Nat) (mk : PlacedMarking) : List MarkingAction :=
  (f.reducibleOn state mk.hook).elems.map .reduce

/-- All that a state does on a marking terminal: its shift, then its reductions. -/
def actionsOn (state : Nat) (mk : PlacedMarking) : List MarkingAction :=
  f.shiftsOn state mk ++ f.reductionsOn state mk

theorem mem_actionsOn_iff (state : Nat) (mk : PlacedMarking) (a : MarkingAction) :
    a ∈ f.actionsOn state mk ↔ (f.Starts state mk.hook ∧ .shift mk.target = a) ∨
      ∃ production, f.Pending state mk.hook production ∧ .reduce production = a := by
  have reductions : a ∈ f.reductionsOn state mk ↔
      ∃ production, f.Pending state mk.hook production ∧ .reduce production = a := by
    simp only [reductionsOn, List.mem_map, ← mem_reducibleOn_iff]
    rfl
  rw [actionsOn, List.mem_append, reductions, shiftsOn, ← contains_startableIn_iff]
  cases (f.startableIn state).contains mk.hook <;> simp [eq_comm]

theorem nodup_actionsOn (state : Nat) (mk : PlacedMarking) : (f.actionsOn state mk).Nodup := by
  have reductions : (f.reductionsOn state mk).Nodup :=
    (f.reducibleOn state mk.hook).nodup_elems.map (fun _ _ same => MarkingAction.reduce.inj same)
  rw [actionsOn, shiftsOn]
  split
  · rw [List.singleton_append, List.nodup_cons]
    refine ⟨fun inside => ?_, reductions⟩
    obtain ⟨_, _, impossible⟩ := List.mem_map.mp inside
    cases impossible
  · exact reductions

/-- The last action is the reduction of the largest production, if there is one. -/
theorem getLast?_actionsOn_of_pending {state : Nat} {mk : PlacedMarking} {production : Nat}
    (pending : f.Pending state mk.hook production) :
    ∃ largest, f.Pending state mk.hook largest ∧
      (∀ other, f.Pending state mk.hook other → other ≤ largest) ∧
      (f.actionsOn state mk).getLast? = some (.reduce largest) := by
  simp only [← mem_reducibleOn_iff] at pending ⊢
  have some : (f.reducibleOn state mk.hook).elems ≠ [] := List.ne_nil_of_mem pending
  obtain ⟨largest, last⟩ : ∃ p, (f.reducibleOn state mk.hook).elems.getLast? = .some p :=
    ⟨_, List.getLast?_eq_some_getLast some⟩
  refine ⟨largest, List.mem_of_getLast? last, fun other inside => ?_, ?_⟩
  · have bound := OrderedSet.lt_span inside
    rw [OrderedSet.span, last] at bound
    exact Nat.le_of_lt_succ bound
  · rw [actionsOn, List.getLast?_append, reductionsOn, List.getLast?_map, last]
    rfl

theorem actionsOn_of_not_pending {state : Nat} {mk : PlacedMarking}
    (none : ∀ production, ¬ f.Pending state mk.hook production) :
    f.actionsOn state mk = f.shiftsOn state mk := by
  have empty : (f.reducibleOn state mk.hook).elems = [] := by
    rw [List.eq_nil_iff_forall_not_mem]
    exact fun p inside => none p ((f.mem_reducibleOn_iff _ _ p).mp inside)
  rw [actionsOn, reductionsOn, empty, List.map_nil, List.append_nil]

/-- All but the first thing that a state does on a marking terminal are reductions. -/
theorem exists_reduce_of_mem_tail {state : Nat} {mk : PlacedMarking} {a : MarkingAction}
    (later : a ∈ (f.actionsOn state mk).tail) : ∃ production, .reduce production = a := by
  have own : a ∈ f.reductionsOn state mk := by
    rw [actionsOn, shiftsOn] at later
    split at later
    · exact later
    · exact List.mem_of_mem_tail later
  obtain ⟨production, _, same⟩ := List.mem_map.mp own
  exact ⟨production, same⟩

end Fragment

namespace Member

def states (members : List Member) : List (Member × Nat) :=
  members.flatMap (fun m => (List.range m.fragment.size).map (fun s => (m, s)))

def rowOf (place : Member × Nat) : Nat := place.2 + place.1.offset

theorem mem_states (members : List Member) (m : Member) (s : Nat) :
    (m, s) ∈ states members ↔ m ∈ members ∧ s < m.fragment.size := by
  simp only [states, List.mem_flatMap, List.mem_map, List.mem_range, Prod.mk.injEq]
  constructor
  · rintro ⟨_, member, _, inside, rfl, rfl⟩
    exact ⟨member, inside⟩
  · rintro ⟨member, inside⟩
    exact ⟨m, member, s, inside, rfl, rfl⟩

/-- The conflicts of a state: in each marking column, one between each action and the next. -/
def conflictsAt (l : Layout) (place : Member × Nat) : List Conflict :=
  l.markings.flatMap (fun mk => Conflict.successive (rowOf place) mk.column
    ((place.1.fragment.actionsOn place.2 mk).map MarkingAction.merged))

variable {host : HostFragment} {extensions : List ExtensionFragment} {l : Layout}

/-- The states of all members stand in the order of their merged rows. -/
theorem rows_states (laid : Layout.Laid host extensions l) :
    (states (all host extensions l)).map rowOf = List.range l.totalStates := by
  rw [← flatMap_rows_all laid, states, List.map_flatMap]
  simp only [List.map_map]
  rfl

theorem kind_of_mem_conflictsAt {place : Member × Nat} {c : Conflict}
    (raised : c ∈ conflictsAt l place) :
    c.kind = if c.first.isShift then .shiftReduce else .reduceReduce := by
  obtain ⟨mk, _, between⟩ := List.mem_flatMap.mp raised
  obtain ⟨a, later, second⟩ := List.mem_map.mp (List.map_tail ▸ Conflict.second_mem_tail between)
  obtain ⟨production, rfl⟩ := place.1.fragment.exists_reduce_of_mem_tail later
  have reduced : c.second.isShift = false := by rw [← second]; rfl
  rw [Conflict.kind, ConflictKind.between, reduced, Bool.or_false]

theorem nodup_rows_states (laid : Layout.Laid host extensions l) :
    ((states (all host extensions l)).map rowOf).Nodup := by
  rw [rows_states laid]
  exact List.nodup_range

end Member

namespace MarkingWrite

def onRow (row : Nat) (markings : List PlacedMarking)
    (actions : PlacedMarking → List MarkingAction) : List MarkingWrite :=
  markings.flatMap (fun mk => (actions mk).map (fun a => ⟨row, mk.column, a⟩))

theorem mem_onRow {row : Nat} {markings : List PlacedMarking}
    {actions : PlacedMarking → List MarkingAction} (w : MarkingWrite) :
    w ∈ onRow row markings actions ↔
      ∃ mk ∈ markings, ∃ a ∈ actions mk, (⟨row, mk.column, a⟩ : MarkingWrite) = w := by
  simp only [onRow, List.mem_flatMap, List.mem_map]

variable {row : Nat} {markings : List PlacedMarking}
  (distinct : (markings.map (fun mk => mk.column)).Nodup)

include distinct

theorem actionsAt_onRow (actions : PlacedMarking → List MarkingAction) {mk : PlacedMarking}
    (inside : mk ∈ markings) :
    actionsAt (row, mk.column) (onRow row markings actions) = actions mk := by
  rw [onRow, actionsAt_flatMap,
    flatMap_eq_of_key (fun mk => mk.column) distinct inside, actionsAt_cell]
  intro other apart
  apply actionsAt_eq_nil_iff.mpr
  intro w written same
  obtain ⟨_, _, rfl⟩ := List.mem_map.mp written
  exact apart (Prod.mk.inj same).2

theorem conflicts_onRow (g : Grid) (actions : PlacedMarking → List MarkingAction) :
    g.conflicts (onRow row markings actions) = markings.flatMap
      (fun mk => g.conflicts ((actions mk).map (fun a => ⟨row, mk.column, a⟩))) := by
  apply Grid.conflicts_flatMap
  rw [List.Nodup, List.pairwise_map] at distinct
  refine distinct.imp (fun apart w written v written' same => ?_)
  obtain ⟨_, _, rfl⟩ := List.mem_map.mp written
  obtain ⟨_, _, rfl⟩ := List.mem_map.mp written'
  exact apart (Prod.mk.inj same).2

/-- Two passes over the columns of a row conflict like one, if nothing conflicts in the first. -/
theorem conflicts_passes (g : Grid) (first second : PlacedMarking → List MarkingAction)
    (quiet : ∀ mk ∈ markings,
      g.conflicts ((first mk).map (fun a => ⟨row, mk.column, a⟩)) = []) :
    g.conflicts (onRow row markings first ++ onRow row markings second) = markings.flatMap
      (fun mk => g.conflicts ((first mk ++ second mk).map (fun a => ⟨row, mk.column, a⟩))) := by
  have silent : g.conflicts (onRow row markings first) = [] := by
    rw [conflicts_onRow distinct, List.flatMap_eq_nil_iff]
    exact quiet
  rw [Grid.conflicts_append, silent, List.nil_append, conflicts_onRow distinct]
  apply List.flatMap_congr
  intro mk inside
  rw [List.map_append, Grid.conflicts_append, quiet mk inside, List.nil_append]
  -- Before the second pass a column holds what the first one wrote there, in either order.
  apply Grid.conflicts_congr
  intro w written
  obtain ⟨_, _, rfl⟩ := List.mem_map.mp written
  show g.writeAll _ (row, mk.column) = g.writeAll _ (row, mk.column)
  rw [Grid.writeAll_apply, Grid.writeAll_apply, actionsAt_onRow distinct first inside,
    actionsAt_cell]

omit distinct

theorem shifts_eq_onRow (l : Layout) (f : Fragment) (state row : Nat) :
    shifts l f state row = onRow row l.markings (f.shiftsOn state) := by
  rw [shifts, onRow]
  induction l.markings with
  | nil => rfl
  | cons mk rest ih =>
    rw [List.flatMap_cons, ← ih, List.filter_cons, Fragment.shiftsOn]
    split <;> rfl

theorem reductions_eq_onRow (l : Layout) (f : Fragment) (state row : Nat) :
    reductions l f state row = onRow row l.markings (f.reductionsOn state) := by
  simp only [reductions, onRow, Fragment.reductionsOn, List.map_map, Function.comp_def]

def ofState (l : Layout) (place : Member × Nat) : List MarkingWrite :=
  onRow (Member.rowOf place) l.markings (place.1.fragment.shiftsOn place.2) ++
    onRow (Member.rowOf place) l.markings (place.1.fragment.reductionsOn place.2)

theorem row_of_mem_ofState {l : Layout} {place : Member × Nat} {w : MarkingWrite}
    (inside : w ∈ ofState l place) : w.row = Member.rowOf place := by
  rcases List.mem_append.mp inside with first | second
  · obtain ⟨_, _, _, _, rfl⟩ := (mem_onRow w).mp first
    rfl
  · obtain ⟨_, _, _, _, rfl⟩ := (mem_onRow w).mp second
    rfl

variable {host : HostFragment} {extensions : List ExtensionFragment} {l : Layout}

theorem all_eq (host : HostFragment) (extensions : List ExtensionFragment) (l : Layout) :
    all host extensions l = (Member.states (Member.all host extensions l)).flatMap (ofState l) := by
  rw [all, Member.states, List.flatMap_assoc]
  apply List.flatMap_congr
  intro m _
  rw [List.flatMap_map, ofMember]
  simp only [shifts_eq_onRow, reductions_eq_onRow]
  rfl

theorem mem_all (w : MarkingWrite) : w ∈ all host extensions l ↔
    ∃ m ∈ Member.all host extensions l, ∃ s < m.fragment.size, ∃ mk ∈ l.markings,
      ∃ a ∈ m.fragment.actionsOn s mk, (⟨s + m.offset, mk.column, a⟩ : MarkingWrite) = w := by
  rw [all_eq, List.mem_flatMap]
  constructor
  · rintro ⟨⟨m, s⟩, place, written⟩
    obtain ⟨member, inside⟩ := (Member.mem_states _ m s).mp place
    refine ⟨m, member, s, inside, ?_⟩
    rcases List.mem_append.mp written with first | second
    · obtain ⟨mk, marking, a, own, same⟩ := (mem_onRow w).mp first
      exact ⟨mk, marking, a, List.mem_append_left _ own, same⟩
    · obtain ⟨mk, marking, a, own, same⟩ := (mem_onRow w).mp second
      exact ⟨mk, marking, a, List.mem_append_right _ own, same⟩
  · rintro ⟨m, member, s, inside, mk, marking, a, own, same⟩
    refine ⟨(m, s), (Member.mem_states _ m s).mpr ⟨member, inside⟩, List.mem_append.mpr ?_⟩
    rcases List.mem_append.mp own with first | second
    · exact Or.inl ((mem_onRow w).mpr ⟨mk, marking, a, first, same⟩)
    · exact Or.inr ((mem_onRow w).mpr ⟨mk, marking, a, second, same⟩)

/-- All that is written to a marking cell is what its state does on the marking terminal. -/
theorem actionsAt_all (laid : Layout.Laid host extensions l) {m : Member}
    (member : m ∈ Member.all host extensions l) {s : Nat} (inside : s < m.fragment.size)
    {mk : PlacedMarking} (marking : mk ∈ l.markings) :
    actionsAt (s + m.offset, mk.column) (all host extensions l) = m.fragment.actionsOn s mk := by
  have place := (Member.mem_states (Member.all host extensions l) m s).mpr ⟨member, inside⟩
  rw [all_eq, actionsAt_flatMap,
    flatMap_eq_of_key Member.rowOf (Member.nodup_rows_states laid) place]
  · show actionsAt (Member.rowOf (m, s), mk.column) (ofState l (m, s)) = _
    rw [ofState, actionsAt_append, actionsAt_onRow laid.nodup_columns _ marking,
      actionsAt_onRow laid.nodup_columns _ marking, Fragment.actionsOn]
  · intro other apart
    apply actionsAt_eq_nil_iff.mpr
    intro w written same
    rw [cell, Prod.mk.injEq] at same
    exact apart ((row_of_mem_ofState written).symm.trans same.1)

theorem elsewhere_all {column : Nat} (other : ∀ mk ∈ l.markings, mk.column ≠ column) (row : Nat) :
    ∀ w ∈ all host extensions l, w.cell ≠ (row, column) := by
  intro w written same
  obtain ⟨_, _, _, _, mk, marking, _, _, rfl⟩ := (mem_all w).mp written
  exact other mk marking (Prod.mk.inj same).2

/-- One state conflicts with itself only, action by action on each marking terminal. -/
theorem conflicts_ofState (laid : Layout.Laid host extensions l) (g : Grid) (place : Member × Nat)
    (fits : ∀ mk ∈ l.markings, ∀ a ∈ place.1.fragment.actionsOn place.2 mk, a.Fits)
    (fresh : ∀ mk ∈ l.markings, g (Member.rowOf place, mk.column) = .error) :
    g.conflicts (ofState l place) = Member.conflictsAt l place := by
  rw [ofState, conflicts_passes laid.nodup_columns]
  · apply List.flatMap_congr
    intro mk inside
    apply Grid.conflicts_fresh _ _ _ _ (fresh mk inside)
    have own := fits mk inside
    have apart := (place.1.fragment.nodup_actionsOn place.2 mk).map_on
      (fun a found b found' => (MarkingAction.merged_inj (own a found) (own b found')).mp)
    exact List.Pairwise.isChain apart
  · intro mk inside
    rw [Grid.conflicts_fresh _ _ _ _ (fresh mk inside), Fragment.shiftsOn]
    · split <;> rfl
    · rw [Fragment.shiftsOn]
      split
      · exact .singleton _
      · exact .nil

/-- The conflicts of all writes to fresh marking columns. -/
theorem conflicts_all (laid : Layout.Laid host extensions l) (g : Grid)
    (fits : ∀ w ∈ all host extensions l, w.action.Fits)
    (fresh : ∀ row < l.totalStates, ∀ mk ∈ l.markings, g (row, mk.column) = .error) :
    g.conflicts (all host extensions l) =
      (Member.states (Member.all host extensions l)).flatMap (Member.conflictsAt l) := by
  rw [all_eq, Grid.conflicts_flatMap]
  · apply List.flatMap_congr
    rintro ⟨m, s⟩ place
    obtain ⟨member, inside⟩ := (Member.mem_states _ m s).mp place
    apply conflicts_ofState laid
    · intro mk marking a own
      exact fits _ ((mem_all _).mpr ⟨m, member, s, inside, mk, marking, a, own, rfl⟩)
    · intro mk marking
      have below := Member.offset_add_size_le laid member
      exact fresh (s + m.offset) (by omega) mk marking
  · -- No two states share a row, so no two of them share a cell.
    have distinct := Member.nodup_rows_states laid
    rw [List.Nodup, List.pairwise_map] at distinct
    refine distinct.imp (fun apart w written v written' same => apart ?_)
    rw [cell, cell, Prod.mk.injEq] at same
    exact (row_of_mem_ofState written).symm.trans (same.1.trans (row_of_mem_ofState written'))

end MarkingWrite

end ParserSplice
