import ParserSplice.Proofs.Engine.Cell
import ParserSplice.Proofs.Engine.Layout
import ParserSplice.Proofs.Partition.Numbering

set_option autoImplicit false

namespace ParserSplice

namespace Owner

variable {host : Grammar} {column : Nat} {kind : ColumnClass}

theorem classifyHost_lt (found : classifyHost host column = some kind) :
    column < host.tableWidth := by
  unfold classifyHost at found
  rw [Grammar.tableWidth]
  split at found
  · next terminal =>
    have bound := OrderedSet.lt_span ((OrderedSet.contains_iff_mem _ _).mp terminal)
    omega
  · split at found
    · next nonterminal =>
      have bound := OrderedSet.lt_span ((OrderedSet.contains_iff_mem _ _).mp nonterminal)
      omega
    · cases found

theorem classifyHost_terminal (found : classifyHost host column = some .terminal) :
    column < host.terminalCount := by
  unfold classifyHost at found
  split at found
  · next terminal => exact OrderedSet.lt_span ((OrderedSet.contains_iff_mem _ _).mp terminal)
  · split at found <;> cases found

theorem columnCategory_ok {p : Partition} {c : Category}
    (found : p.columnCategory column = some c) :
    p.columnOffset ≤ column ∧ (c = .terminal ∨ c = .nonterminal) ∧
      column < p.columnOf (p.extensionIndices c).span := by
  unfold Partition.columnCategory at found
  split at found
  · cases found
  · next own =>
    have listed := List.mem_of_find?_eq_some found
    have inside := List.find?_some found
    rw [OrderedSet.contains_iff_mem] at inside
    have bound := OrderedSet.lt_span inside
    have offset := Nat.le_of_not_lt own
    rw [Partition.columnOf]
    exact ⟨offset, by simpa using listed, by omega⟩

/-- Every column that stands for a symbol lies within the width of its table. -/
theorem classify_lt (owner : Owner) (found : owner.classify host column = some kind) :
    column < host.tableWidth ∨ ∃ p, owner = .extension p ∧ column < p.tableWidth := by
  cases owner with
  | host => exact Or.inl (classifyHost_lt found)
  | extension p =>
    simp only [classify] at found
    split at found
    · obtain ⟨c, category, _⟩ := Option.map_eq_some_iff.mp found
      obtain ⟨_, either, bound⟩ := columnCategory_ok category
      refine Or.inr ⟨p, rfl, ?_⟩
      rw [Partition.tableWidth]
      rw [Partition.columnOf] at bound ⊢
      rcases either with rfl | rfl
      · omega
      · omega
    · exact Or.inl (classifyHost_lt found)

/-- A column of a terminal counts among the terminals that the fragment may refer to. -/
theorem classify_terminal (owner : Owner) (found : owner.classify host column = some .terminal) :
    column < owner.terminalCount host := by
  cases owner with
  | host => exact classifyHost_terminal found
  | extension p =>
    simp only [classify] at found
    rw [terminalCount, Partition.terminalCount]
    split at found
    · obtain ⟨c, category, same⟩ := Option.map_eq_some_iff.mp found
      obtain ⟨_, either, bound⟩ := columnCategory_ok category
      rcases either with rfl | rfl
      · exact bound
      · cases same
    · next early =>
      rw [Partition.columnOf]
      omega

end Owner

namespace Member

variable (m : Member) (host : Grammar)

def place : Decomposed → Nat
  | .host h => h.toNat
  | .extension e => e.toNat + m.offset

/-- A target that exists: a state of the host, or one of the extension's own. -/
def Reaches (hostStates : Nat) : Decomposed → Prop
  | .host h => h.toNat < hostStates
  | .extension e => (∃ p, m.owner = .extension p) ∧ e.toNat < m.fragment.size

def merged (column : Nat) (action : FragmentAction) : EngineAction :=
  match m.owner.classify host column, action with
  | some .terminal, .accept => if column = host.endOfInput then .accept else .error
  | some .terminal, .shift target => .shift (UInt32.ofNat (m.place target))
  | some .terminal, .reduce production => .reduce (UInt32.ofNat production)
  | some .nonterminal, .goto target => .goto (UInt32.ofNat (m.place target))
  | _, _ => .error

theorem merged_error (column : Nat) : m.merged host column .error = .error := by
  unfold merged
  split <;> simp_all

/-- An entry that can be translated. Only on columns where they make sense do targets have to exist
and productions have to fit a cell. -/
def EntryFits (hostStates : Nat) (entry : Nat × FragmentAction) : Prop :=
  match m.owner.classify host entry.1, entry.2 with
  | none, _ => False
  | some .terminal, .shift target => m.Reaches hostStates target
  | some .terminal, .reduce production => production ≤ EngineAction.maxParameter.toNat
  | some .nonterminal, .goto target => m.Reaches hostStates target
  | some _, _ => True

/-- A state that can be translated. -/
structure StateFits (hostStates state : Nat) : Prop where
  entries : ∀ entry ∈ (m.fragment.table.row state).entries, m.EntryFits host hostStates entry
  layout : ∀ terminal ∈ (m.fragment.layout state).elems, terminal < m.owner.terminalCount host
  transparent : ∀ terminal ∈ (m.fragment.transparent state).elems,
    terminal < m.owner.terminalCount host

def WellFormed (hostStates : Nat) : Prop :=
  ∀ state < m.fragment.size, m.StateFits host hostStates state

def entryUses (column : Nat) : List (Nat × TerminalUse) :=
  if m.owner.classify host column = some .terminal then [(column, .shiftable)] else []

def copied (state : Nat) : MergedTables.CopiedState where
  cells := (m.fragment.table.row state).entries.map
    (fun entry => (entry.1, (m.merged host entry.1 entry.2).packed))
  layout := m.fragment.layout state
  uses := (m.fragment.table.row state).entries.flatMap (fun entry => m.entryUses host entry.1) ++
    (m.fragment.layout state).elems.map (fun terminal => (terminal, .layout)) ++
    (m.fragment.transparent state).elems.map (fun terminal => (terminal, .transparent))

def uses : List UInt8 :=
  TerminalUse.masks (m.owner.terminalCount host)
    ((List.range m.fragment.size).flatMap (fun state => (m.copied host state).uses))

/-- A layout with room for a member: its states and those of the host fit a cell, and each of its
columns has a place among the ordinary columns. -/
structure Room (l : Layout) : Prop where
  hostStates : l.hostStates ≤ EngineAction.maxParameter.toNat
  ownStates : m.offset + m.fragment.size ≤ EngineAction.maxParameter.toNat
  columns : ∀ column kind, m.owner.classify host column = some kind → column < l.ordinaryColumns

variable {m} {host} {l : Layout}

theorem place_le (room : m.Room host l) {target : Decomposed}
    (reached : m.Reaches l.hostStates target) :
    m.place target ≤ EngineAction.maxParameter.toNat := by
  have hostStates := room.hostStates
  have ownStates := room.ownStates
  cases target with
  | host h =>
    rw [Reaches] at reached
    rw [place]
    omega
  | extension e =>
    have inside := reached.2
    rw [place]
    omega

end Member

namespace MergedTables

variable {m : Member} {host : Grammar} {l : Layout}

theorem parameter_eq_ok_iff (value : Nat) (word : UInt32) :
    parameter value = .ok word ↔ word.toNat = value := by
  rw [← narrow_eq_some_iff]
  unfold parameter
  cases narrow value <;> simp

theorem pack_eq_ok_iff (a : EngineAction) (cell : UInt32) : pack a = .ok cell ↔
    a.parameter.toNat ≤ EngineAction.maxParameter.toNat ∧ a.packed = cell := by
  rw [← EngineAction.encode_eq_some_iff]
  unfold pack
  cases a.encode <;> simp

theorem resolve_eq_ok_iff (target : Decomposed) (state : UInt32) :
    resolve l m target = .ok state ↔
      m.Reaches l.hostStates target ∧ state.toNat = m.place target := by
  obtain ⟨owner, name, fragment, offset⟩ := m
  cases target with
  | host h =>
    by_cases inside : h.toNat < l.hostStates <;>
      simp [resolve, Member.Reaches, Member.place, inside, parameter_eq_ok_iff]
  | extension e =>
    cases owner with
    | host => simp [resolve, Member.Reaches]
    | extension p =>
      by_cases inside : e.toNat < fragment.size <;>
        simp [resolve, Member.Reaches, Member.place, inside, parameter_eq_ok_iff]

/-- Packing an action whose parameter is given as a number. -/
theorem exists_pack_iff (action : UInt32 → EngineAction)
    (carries : ∀ word, (action word).parameter = word) (n : Nat) (cell : UInt32) :
    (∃ word : UInt32, word.toNat = n ∧ pack (action word) = .ok cell) ↔
      n ≤ EngineAction.maxParameter.toNat ∧ (action (UInt32.ofNat n)).packed = cell := by
  simp only [pack_eq_ok_iff, carries]
  constructor
  · intro given
    obtain ⟨word, rfl, fits, same⟩ := given
    rw [UInt32.ofNat_toNat]
    exact ⟨fits, same⟩
  · intro given
    obtain ⟨fits, same⟩ := given
    have number := EngineAction.toNat_ofNat_of_le fits
    exact ⟨UInt32.ofNat n, number, by rwa [number], same⟩

theorem pack_error_iff (cell : UInt32) :
    pack .error = .ok cell ↔ EngineAction.packed .error = cell := by
  rw [pack_eq_ok_iff]
  exact and_iff_right (Nat.zero_le _)

/-- Packing an action that leads to a target. In a layout with room every target that exists fits. -/
theorem exists_resolve_pack_iff (room : m.Room host l) (action : UInt32 → EngineAction)
    (carries : ∀ word, (action word).parameter = word) (target : Decomposed) (cell : UInt32) :
    (∃ state, resolve l m target = .ok state ∧ pack (action state) = .ok cell) ↔
      m.Reaches l.hostStates target ∧
        (action (UInt32.ofNat (m.place target))).packed = cell := by
  simp only [resolve_eq_ok_iff, and_assoc, exists_and_left, exists_pack_iff action carries]
  apply and_congr_right
  intro reached
  exact and_iff_right (Member.place_le room reached)

/-- An entry on a classified column is translated and packed exactly when it fits. -/
theorem translate_pack_iff (room : m.Room host l) {column : Nat} {kind : ColumnClass}
    (classified : m.owner.classify host column = some kind) (action : FragmentAction)
    (cell : UInt32) :
    (∃ a, translate l m host column kind action = .ok a ∧ pack a = .ok cell) ↔
      m.EntryFits host l.hostStates (column, action) ∧
        (m.merged host column action).packed = cell := by
  -- Actions that make no sense on their column fit always, as errors.
  have dropped : (∃ a, Except.ok (ε := CompositionError) EngineAction.error = .ok a ∧
      pack a = .ok cell) ↔ True ∧ EngineAction.packed .error = cell := by
    simp [pack_error_iff]
  unfold Member.EntryFits Member.merged
  simp only [classified]
  cases kind with
  | terminal =>
    cases action with
    | error => exact dropped
    | accept =>
      by_cases atEnd : column = host.endOfInput
      · simp [translate, atEnd, pack_eq_ok_iff, EngineAction.parameter]
      · simp [translate, atEnd, pack_error_iff]
    | shift target =>
      rw [translate, exists_bind_pure_iff]
      exact exists_resolve_pack_iff room .shift (fun _ => rfl) target cell
    | reduce production =>
      rw [translate, exists_bind_pure_iff]
      simp only [parameter_eq_ok_iff]
      exact exists_pack_iff .reduce (fun _ => rfl) production cell
    | goto target => exact dropped
  | nonterminal =>
    cases action with
    | error => exact dropped
    | accept => exact dropped
    | shift target => exact dropped
    | reduce production => exact dropped
    | goto target =>
      rw [translate, exists_bind_pure_iff]
      exact exists_resolve_pack_iff room .goto (fun _ => rfl) target cell

theorem appearance_eq_ok_iff (count : Nat) (role : TerminalUse) (terminal : Nat)
    (use : Nat × TerminalUse) : appearance m count role terminal = .ok use ↔
      terminal < count ∧ (terminal, role) = use := by
  unfold appearance
  by_cases inside : terminal < count <;> simp [inside]

theorem copyEntry_eq_ok_iff (room : m.Room host l) (state : Nat) (entry : Nat × FragmentAction)
    (result : (Nat × UInt32) × List (Nat × TerminalUse)) :
    copyEntry l m host state entry = .ok result ↔ m.EntryFits host l.hostStates entry ∧
      ((entry.1, (m.merged host entry.1 entry.2).packed), m.entryUses host entry.1) = result := by
  obtain ⟨column, action⟩ := entry
  cases classified : m.owner.classify host column with
  | none =>
    unfold copyEntry Member.EntryFits
    by_cases outside : l.ordinaryColumns ≤ column <;> simp [outside, classified]
  | some kind =>
    -- The width check never decides: a column with a class is an ordinary column already.
    have inside : ¬ l.ordinaryColumns ≤ column :=
      Nat.not_le_of_lt (room.columns column kind classified)
    have spec := translate_pack_iff room classified action
    -- Either class of column ends in the same way, only its uses differ.
    have shape : ∀ uses, (∃ a, translate l m host column kind action = .ok a ∧
        ∃ cell, pack a = .ok cell ∧ ((column, cell), uses) = result) ↔
        m.EntryFits host l.hostStates (column, action) ∧
          ((column, (m.merged host column action).packed), uses) = result := by
      intro uses
      constructor
      · intro given
        obtain ⟨a, translated, cell, packed, rfl⟩ := given
        obtain ⟨fits, rfl⟩ := (spec cell).mp ⟨a, translated, packed⟩
        exact ⟨fits, rfl⟩
      · intro given
        obtain ⟨fits, rfl⟩ := given
        obtain ⟨a, translated, packed⟩ := (spec _).mpr ⟨fits, rfl⟩
        exact ⟨a, translated, _, packed, rfl⟩
    unfold copyEntry
    rw [if_neg inside]
    simp only [classified, bind_eq_ok_iff]
    cases kind with
    | nonterminal =>
      have unused : m.entryUses host column = [] := by simp [Member.entryUses, classified]
      simp only [pure_eq_ok_iff, unused]
      exact shape []
    | terminal =>
      have used : m.entryUses host column = [(column, .shiftable)] := by
        simp [Member.entryUses, classified]
      have known := m.owner.classify_terminal classified
      simp only [bind_eq_ok_iff, pure_eq_ok_iff, appearance_eq_ok_iff, known, true_and,
        exists_eq_left', used]
      exact shape [(column, .shiftable)]

theorem copyState_eq_ok_iff (room : m.Room host l) (state : Nat) (result : CopiedState) :
    copyState l m host state = .ok result ↔
      m.StateFits host l.hostStates state ∧ m.copied host state = result := by
  unfold copyState
  simp only [bind_eq_ok_iff, pure_eq_ok_iff,
    mapM_eq_ok_iff_map _ (fun entry _ => copyEntry_eq_ok_iff room state entry),
    mapM_eq_ok_iff_map _ (fun terminal _ => appearance_eq_ok_iff _ _ terminal)]
  constructor
  · intro given
    obtain ⟨_, ⟨entries, rfl⟩, _, ⟨layout, rfl⟩, _, ⟨transparent, rfl⟩, rfl⟩ := given
    refine ⟨⟨entries, layout, transparent⟩, ?_⟩
    simp only [Member.copied, List.map_map, List.flatMap_def, Function.comp_def]
  · intro given
    obtain ⟨⟨entries, layout, transparent⟩, rfl⟩ := given
    refine ⟨_, ⟨entries, rfl⟩, _, ⟨layout, rfl⟩, _, ⟨transparent, rfl⟩, ?_⟩
    simp only [Member.copied, List.map_map, List.flatMap_def, Function.comp_def]

/-- A fragment is copied exactly when all its states can be translated, each to its own row. -/
theorem copyMember_eq_ok_iff (room : m.Room host l) (placed : List (Nat × CopiedState)) :
    copyMember l host m = .ok placed ↔ m.WellFormed host l.hostStates ∧
      (List.range m.fragment.size).map (fun s => (s + m.offset, m.copied host s)) = placed := by
  have spec : ∀ s (entry : Nat × CopiedState),
      (do let copied ← copyState l m host s
          return (s + m.offset, copied)) = Except.ok (ε := CompositionError) entry ↔
        m.StateFits host l.hostStates s ∧ (s + m.offset, m.copied host s) = entry := by
    intro s entry
    simp only [bind_eq_ok_iff, pure_eq_ok_iff, copyState_eq_ok_iff room, and_assoc, exists_and_left,
      exists_eq_left']
  rw [copyMember, mapM_eq_ok_iff_map _ (fun s _ => spec s)]
  simp only [List.mem_range, Member.WellFormed]

end MergedTables

end ParserSplice
