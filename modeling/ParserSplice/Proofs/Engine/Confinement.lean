import ParserSplice.Proofs.Engine.Building

set_option autoImplicit false

namespace ParserSplice

namespace Layout

variable (l : Layout)

def OfHost (state : Nat) : Prop := state < l.hostStates

def OfExtension (i state : Nat) : Prop :=
  ∃ offset count, l.offsets[i]? = some offset ∧ l.counts[i]? = some count ∧
    offset ≤ state ∧ state < offset + count

variable {l} {host : HostFragment} {extensions : List ExtensionFragment}

theorem Laid.ofExtension_iff (laid : Laid host extensions l) (i state : Nat) :
    l.OfExtension i state ↔
      ∃ e, extensions[i]? = some e ∧ state ∈ (Member.ofExtension e (l.offset i)).rows := by
  simp only [Member.mem_rows, OfExtension]
  constructor
  · intro given
    obtain ⟨offset, count, first, size, lower, upper⟩ := given
    rw [laid.counts, List.getElem?_map, Option.map_eq_some_iff] at size
    obtain ⟨e, listed, rfl⟩ := size
    rw [laid.getElem?_offsets i (List.getElem?_eq_some_iff.mp listed).1] at first
    cases first
    exact ⟨e, listed, state - l.offset i, show _ < e.size by omega, Nat.sub_add_cancel lower⟩
  · intro given
    obtain ⟨e, listed, s, inside, rfl⟩ := given
    refine ⟨l.offset i, e.size, laid.getElem?_offsets i (List.getElem?_eq_some_iff.mp listed).1, ?_,
      Nat.le_add_left _ _, ?_⟩
    · rw [laid.counts, List.getElem?_map, listed, Option.map_some]
    · rw [Nat.add_comm]
      exact Nat.add_lt_add_left inside _

theorem Laid.not_ofHost_of_ofExtension (laid : Laid host extensions l) {i state : Nat}
    (own : l.OfExtension i state) : ¬ l.OfHost state := by
  obtain ⟨e, listed, own⟩ := (laid.ofExtension_iff i state).mp own
  obtain ⟨s, _, rfl⟩ := (Member.mem_rows _ state).mp own
  show ¬ s + l.offset i < l.hostStates
  rw [laid.hostStates, laid.offset_eq i (List.getElem?_eq_some_iff.mp listed).1]
  omega

theorem Laid.lt_of_ofExtension (laid : Laid host extensions l) {i state : Nat}
    (own : l.OfExtension i state) : state < l.totalStates := by
  obtain ⟨e, listed, own⟩ := (laid.ofExtension_iff i state).mp own
  obtain ⟨s, inside, rfl⟩ := (Member.mem_rows _ state).mp own
  have within := Member.offset_add_size_le laid (Member.ofExtension_mem_all listed)
  omega

/-- A later extension starts behind all states of an earlier one. -/
theorem Laid.offset_add_size_le (laid : Laid host extensions l) {i j : Nat} (before : i < j)
    {e : ExtensionFragment} (listed : extensions[i]? = some e) (inside : j < extensions.length) :
    l.offset i + e.size ≤ l.offset j := by
  have taken : (extensions.take (i + 1)).Sublist (extensions.take j) :=
    List.take_sublist_take_left before
  have sizes := sum_map_le_of_sublist (fun e => e.size) taken
  rw [List.take_add_one, listed, List.map_append, List.sum_append] at sizes
  rw [laid.offset_eq i (Nat.lt_trans before inside), laid.offset_eq j inside, Nat.add_assoc]
  exact Nat.add_le_add_left (by simpa using sizes) _

/-- No state belongs to two extensions. -/
theorem Laid.ofExtension_unique (laid : Laid host extensions l) {i j state : Nat}
    (first : l.OfExtension i state) (second : l.OfExtension j state) : i = j := by
  obtain ⟨e, listed, first⟩ := (laid.ofExtension_iff i state).mp first
  obtain ⟨e', listed', second⟩ := (laid.ofExtension_iff j state).mp second
  obtain ⟨s, inside, rfl⟩ := (Member.mem_rows _ state).mp first
  obtain ⟨s', inside', same⟩ := (Member.mem_rows _ _).mp second
  have row : s' + l.offset j = s + l.offset i := same
  have below : s < e.size := inside
  have below' : s' < e'.size := inside'
  rcases Nat.lt_trichotomy i j with before | equal | after
  · have apart := laid.offset_add_size_le before listed (List.getElem?_eq_some_iff.mp listed').1
    omega
  · exact equal
  · have apart := laid.offset_add_size_le after listed' (List.getElem?_eq_some_iff.mp listed).1
    omega

/-- Every state of the table belongs to the host or to an extension. -/
theorem Laid.ofHost_or_ofExtension (laid : Laid host extensions l) {state : Nat}
    (inside : state < l.totalStates) : l.OfHost state ∨ ∃ i, l.OfExtension i state := by
  obtain ⟨m, member, s, within, rfl⟩ := Member.exists_of_lt_totalStates laid state inside
  rcases (Member.mem_all_iff m).mp member with rfl | ⟨i, e, listed, rfl⟩
  · exact Or.inl (Nat.lt_of_lt_of_eq within laid.hostStates.symm)
  · exact Or.inr ⟨i, (laid.ofExtension_iff i _).mpr
      ⟨e, listed, (Member.mem_rows _ _).mpr ⟨s, within, rfl⟩⟩⟩

/-- The targets of an extension are states of the host or its own. -/
theorem Laid.ofExtension_place (laid : Laid host extensions l) {i : Nat} {e : ExtensionFragment}
    (listed : extensions[i]? = some e) {target : Decomposed}
    (reached : (Member.ofExtension e (l.offset i)).Reaches l.hostStates target) :
    l.OfHost ((Member.ofExtension e (l.offset i)).place target) ∨
      l.OfExtension i ((Member.ofExtension e (l.offset i)).place target) := by
  cases target with
  | host h => exact Or.inl reached
  | extension s =>
    refine Or.inr ((laid.ofExtension_iff i _).mpr ⟨e, listed, (Member.mem_rows _ _).mpr ?_⟩)
    exact ⟨s.toNat, reached.2, rfl⟩

/-- The targets of the host are its own states. -/
theorem ofHost_place {target : Decomposed}
    (reached : (Member.ofHost host).Reaches l.hostStates target) :
    l.OfHost ((Member.ofHost host).place target) := by
  cases target with
  | host h => exact reached
  | extension s =>
    obtain ⟨⟨_, impossible⟩, _⟩ := reached
    cases impossible

theorem Laid.target_marking (laid : Laid host extensions l) {mk : PlacedMarking}
    (inside : mk ∈ l.markings) : l.OfHost mk.target ∨ l.OfExtension mk.extension mk.target := by
  obtain ⟨e, declared, listed, _, _, _, reached, target⟩ := laid.declared inside
  rw [target]
  exact laid.ofExtension_place listed reached

end Layout

namespace EngineAction

def LeadsTo (a : EngineAction) (state : UInt32) : Prop := a = shift state ∨ a = goto state

@[simp] theorem shift_leadsTo_iff (state other : UInt32) :
    (shift state).LeadsTo other ↔ state = other := by
  simp [LeadsTo]

@[simp] theorem goto_leadsTo_iff (state other : UInt32) :
    (goto state).LeadsTo other ↔ state = other := by
  simp [LeadsTo]

@[simp] theorem not_reduce_leadsTo (production state : UInt32) :
    ¬ (reduce production).LeadsTo state := by
  simp [LeadsTo]

@[simp] theorem not_accept_leadsTo (state : UInt32) : ¬ accept.LeadsTo state := by
  simp [LeadsTo]

@[simp] theorem not_error_leadsTo (state : UInt32) : ¬ error.LeadsTo state := by
  simp [LeadsTo]

end EngineAction

/-- A translated entry that leads to a state has a target that exists. -/
theorem Member.exists_target_of_merged {m : Member} {host : Grammar} {hostStates column : Nat}
    {action : FragmentAction} {word : UInt32}
    (fits : m.EntryFits host hostStates (column, action))
    (leads : (m.merged host column action).LeadsTo word) :
    ∃ target, m.Reaches hostStates target ∧ word = UInt32.ofNat (m.place target) := by
  unfold EntryFits at fits
  unfold merged at leads
  split at leads
  · split at leads <;> simp at leads
  · next target found =>
    simp only [found] at fits
    exact ⟨target, fits, ((EngineAction.shift_leadsTo_iff _ _).mp leads).symm⟩
  · simp at leads
  · next target found =>
    simp only [found] at fits
    exact ⟨target, fits, ((EngineAction.goto_leadsTo_iff _ _).mp leads).symm⟩
  · simp at leads

namespace MergedTables

def Shifts (t : MergedTables) (row column target : Nat) : Prop :=
  ∃ word : UInt32, word.toNat = target ∧ t.action row column = .shift word

/-- A state shifts or goes to another one on a column. -/
def Steps (t : MergedTables) (row column target : Nat) : Prop :=
  ∃ word : UInt32, word.toNat = target ∧ (t.action row column).LeadsTo word

/-- A run over columns below a bound, with all states that it visits. -/
inductive Run (t : MergedTables) (bound : Nat) : Nat → List Nat → Prop
  | stop (state : Nat) : Run t bound state [state]
  | step {state column target : Nat} {visited : List Nat} (below : column < bound)
      (first : t.Steps state column target) (rest : Run t bound target visited) :
      Run t bound state (state :: visited)

variable {host : HostFragment} {extensions : List ExtensionFragment} {l : Layout}
  {t t' : MergedTables} {conflicts : List Conflict} {row column target : Nat}

/-- A step of copied tables is a step of the fragment whose row it starts in. -/
theorem Merged.exists_target (merged : Merged host extensions l t)
    (laid : Layout.Laid host extensions l) {m : Member}
    (member : m ∈ Member.all host extensions l) (own : row ∈ m.rows)
    (step : t.Steps row column target) :
    ∃ d, m.Reaches l.hostStates d ∧ m.place d = target := by
  obtain ⟨s, inside, rfl⟩ := (m.mem_rows row).mp own
  obtain ⟨word, rfl, leads⟩ := step
  rw [merged.action_eq laid member inside] at leads
  have sensible : m.fragment.table.action s column ≠ .error := by
    intro error
    rw [error, Member.merged_error] at leads
    exact EngineAction.not_error_leadsTo word leads
  have fits := Member.entryFits_of_action (merged.wellFormed m member s inside) rfl sensible
  obtain ⟨d, reached, rfl⟩ := Member.exists_target_of_merged fits leads
  refine ⟨d, reached, (EngineAction.toNat_ofNat_of_le ?_).symm⟩
  exact Member.place_le (Member.room_of_mem laid member) reached

theorem Merged.cell?_of_totalStates_le (merged : Merged host extensions l t)
    (past : l.totalStates ≤ row) : t.cell? row column = none := by
  have rows : t.cells[row]? = none := by
    rw [List.getElem?_eq_none_iff, merged.cells, List.length_map, List.length_range]
    exact past
  rw [cell?, rows, Option.bind_none]

theorem isSome_cell?_of_steps (step : t.Steps row column target) :
    (t.cell? row column).isSome := by
  rw [Option.isSome_iff_ne_none]
  intro missing
  obtain ⟨word, _, leads⟩ := step
  have error : t.action row column = .error := by
    show EngineAction.decode ((t.cell? row column).getD 0) = .error
    rw [missing]
    rfl
  rw [error] at leads
  exact EngineAction.not_error_leadsTo word leads

theorem steps_congr (same : t'.cell? row column = t.cell? row column) :
    t'.Steps row column target ↔ t.Steps row column target := by
  rw [Steps, Steps, action_congr same]

/-- The only steps in a marking column are shifts to where the marking terminal leads. -/
theorem shifts_of_steps_marking {m : Member} (filled : m.FilledInto l t') (own : row ∈ m.rows)
    {mk : PlacedMarking} (marking : mk ∈ l.markings) (step : t'.Steps row mk.column target) :
    mk.target = target ∧ t'.Shifts row mk.column target := by
  obtain ⟨s, inside, rfl⟩ := (m.mem_rows row).mp own
  obtain ⟨word, rfl, leads⟩ := step
  by_cases pending : ∃ p, m.fragment.Pending s mk.hook p
  · obtain ⟨p, pending⟩ := pending
    obtain ⟨_, _, _, reduce⟩ := filled.reduces s inside mk marking p pending
    rw [reduce] at leads
    exact absurd leads (EngineAction.not_reduce_leadsTo _ word)
  · have none := not_exists.mp pending
    by_cases starts : m.fragment.Starts s mk.hook
    · obtain ⟨word', number, shift⟩ := filled.shifts s inside mk marking none starts
      rw [shift, EngineAction.shift_leadsTo_iff] at leads
      subst leads
      exact ⟨number.symm, word', rfl, shift⟩
    · obtain ⟨_, error⟩ := filled.otherwise s inside mk marking none starts
      rw [error] at leads
      exact absurd leads (EngineAction.not_error_leadsTo word)

/-- A step starts in the table. It leads into the host, to another state of the same extension, or
through a marking terminal into the extension of that terminal. -/
theorem step_cases (laid : Layout.Laid host extensions l) (merged : Merged host extensions l t)
    (filled : t.fill host extensions l = (t', .ok conflicts)) (step : t'.Steps row column target) :
    row < l.totalStates ∧ (l.OfHost target ∨
      (∃ i, l.OfExtension i row ∧ l.OfExtension i target) ∨
      ∃ mk ∈ l.markings, mk.column = column ∧ l.OfExtension mk.extension target ∧
        t'.Shifts row column target) := by
  have inside : row < l.totalStates := by
    by_contra past
    have held := isSome_cell?_of_steps step
    rw [isSome_cell?_of_fill filled, merged.cell?_of_totalStates_le (Nat.le_of_not_lt past)] at held
    cases held
  refine ⟨inside, ?_⟩
  obtain ⟨m, member, s, state, same⟩ := Member.exists_of_lt_totalStates laid row inside
  have own : row ∈ m.rows := (m.mem_rows row).mpr ⟨s, state, same⟩
  by_cases marking : ∃ mk ∈ l.markings, mk.column = column
  · obtain ⟨mk, marking, rfl⟩ := marking
    obtain ⟨rfl, shift⟩ :=
      shifts_of_steps_marking (filledInto laid merged filled member) own marking step
    rcases laid.target_marking marking with home | foreign
    · exact Or.inl home
    · exact Or.inr (Or.inr ⟨mk, marking, rfl, foreign, shift⟩)
  · have other : ∀ mk ∈ l.markings, mk.column ≠ column :=
      fun mk listed same => marking ⟨mk, listed, same⟩
    have copied := (steps_congr (cell?_of_not_marking filled other row)).mp step
    obtain ⟨d, reached, rfl⟩ := merged.exists_target laid member own copied
    rcases (Member.mem_all_iff m).mp member with rfl | ⟨i, e, listed, rfl⟩
    · exact Or.inl (Layout.ofHost_place reached)
    · rcases laid.ofExtension_place listed reached with home | stays
      · exact Or.inl home
      · exact Or.inr (Or.inl ⟨i, (laid.ofExtension_iff i row).mpr ⟨e, listed, own⟩, stays⟩)

/-- On ordinary columns a step leads into the host or to another state of the same extension. -/
theorem step_ordinary (laid : Layout.Laid host extensions l) (merged : Merged host extensions l t)
    (filled : t.fill host extensions l = (t', .ok conflicts)) (step : t'.Steps row column target)
    (ordinary : column < l.ordinaryColumns) :
    l.OfHost target ∨ ∃ i, l.OfExtension i row ∧ l.OfExtension i target := by
  obtain ⟨_, home | stays | ⟨mk, marking, rfl, _⟩⟩ := step_cases laid merged filled step
  · exact Or.inl home
  · exact Or.inr stays
  · have past := (laid.column_bounds marking).1
    omega

/-- What holds at the start of a run and is kept by each of its steps holds wherever it goes. -/
theorem Run.visits {bound start : Nat} {visited : List Nat} (run : Run t bound start visited)
    {holds : Nat → Prop} (initial : holds start)
    (kept : ∀ row column target, column < bound → t.Steps row column target →
      holds row → holds target) : ∀ state ∈ visited, holds state := by
  induction run with
  | stop state => exact fun _ listed => List.mem_singleton.mp listed ▸ initial
  | step below first _ ih =>
    exact List.forall_mem_cons.mpr ⟨initial, ih (kept _ _ _ below first initial)⟩

/-- No way leads into an extension but through its own marking terminals, and these are open where
their hooks can start and nothing is to be reduced first. -/
structure ConfinesExtensions (host : HostFragment) (extensions : List ExtensionFragment)
    (l : Layout) (t : MergedTables) : Prop where
  inside : ∀ row column target, t.Steps row column target →
    row < l.totalStates ∧ target < l.totalStates
  entered : ∀ j row column target, t.Steps row column target → l.OfExtension j target →
    ¬ l.OfExtension j row → ∃ mk ∈ l.markings, mk.extension = j ∧ mk.column = column ∧
      t.Shifts row column target
  hostRuns : ∀ start visited, t.Run l.ordinaryColumns start visited → l.OfHost start →
    ∀ state ∈ visited, l.OfHost state
  extensionRuns : ∀ i start visited, t.Run l.ordinaryColumns start visited → l.OfExtension i start →
    ∀ state ∈ visited, l.OfHost state ∨ l.OfExtension i state
  opens : ∀ m ∈ Member.all host extensions l, ∀ s < m.fragment.size, ∀ mk ∈ l.markings,
    (∀ p, ¬ m.fragment.Pending s mk.hook p) → m.fragment.Starts s mk.hook →
      t.Shifts (s + m.offset) mk.column mk.target

/-- The extensions of an engine are entered through their own marking terminals only. -/
theorem confinesExtensions_of_build
    {scan : OrderedMap String → Except CompositionError (ScannerTable × ScannerSets)}
    {engine : Engine} (built : Engine.buildBy scan host extensions = .ok engine) :
    ConfinesExtensions host extensions engine.layout engine.tables := by
  obtain ⟨computed, ⟨t, copied, filled⟩, _⟩ := (Engine.buildBy_eq_ok_iff engine).mp built
  have laid := Layout.compute_eq_ok_iff.mp computed
  have merged := (copy_eq_ok_iff laid).mp copied
  refine {
    inside := fun row column target step => ?_
    entered := fun j row column target step into outside => ?_
    hostRuns := fun start visited run initial => ?_
    extensionRuns := fun i start visited run initial => ?_
    opens := fun m member => (filledInto laid merged filled member).shifts }
  · obtain ⟨within, home | ⟨i, _, own⟩ | ⟨mk, _, _, own, _⟩⟩ := step_cases laid merged filled step
    · exact ⟨within, Nat.lt_of_lt_of_le home laid.hostStates_le⟩
    · exact ⟨within, laid.lt_of_ofExtension own⟩
    · exact ⟨within, laid.lt_of_ofExtension own⟩
  · obtain ⟨_, home | ⟨i, own, stays⟩ | ⟨mk, marking, same, own, shift⟩⟩ :=
      step_cases laid merged filled step
    · exact absurd home (laid.not_ofHost_of_ofExtension into)
    · exact absurd (laid.ofExtension_unique stays into ▸ own) outside
    · exact ⟨mk, marking, laid.ofExtension_unique own into, same, shift⟩
  · refine run.visits initial (fun row column target ordinary step home => ?_)
    rcases step_ordinary laid merged filled step ordinary with home' | ⟨i, own, _⟩
    · exact home'
    · exact absurd home (laid.not_ofHost_of_ofExtension own)
  · refine run.visits (Or.inr initial) (fun row column target ordinary step known => ?_)
    rcases step_ordinary laid merged filled step ordinary with home | ⟨i', own, stays⟩
    · exact Or.inl home
    · rcases known with home | same
      · exact absurd home (laid.not_ofHost_of_ofExtension own)
      · exact Or.inr (laid.ofExtension_unique own same ▸ stays)

theorem confinesExtensions_waitingFragment : ∃ engine,
    Engine.buildBy Scanner.build waitingFragment [waitingExtension] = .ok engine ∧
    engine.tables.action 1 7 = .shift 3 ∧
    ConfinesExtensions waitingFragment [waitingExtension] engine.layout engine.tables := by
  obtain ⟨engine, built, shift⟩ := Engine.exists_waitingEngine
  exact ⟨engine, built, shift, confinesExtensions_of_build built⟩

end MergedTables

end ParserSplice
