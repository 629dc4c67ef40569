import ParserSplice.Proofs.Engine.Independence

set_option autoImplicit false

namespace ParserSplice

namespace Member

variable (m : Member) (host : Grammar) (l : Layout)

/-- A target that does not exist, with the error that tells it. -/
inductive TargetFault : Decomposed → CompositionError → Prop where
  | host {h : UInt32} (past : l.hostStates ≤ h.toNat) :
    TargetFault (.host h) (.stateOutOfRange m.name h.toNat l.hostStates)
  | own {e : UInt32} {p : Partition} (owner : m.owner = .extension p)
    (past : m.fragment.size ≤ e.toNat) :
    TargetFault (.extension e) (.stateOutOfRange m.name e.toNat m.fragment.size)
  | foreign {e : UInt32} (owner : m.owner = .host) :
    TargetFault (.extension e) (.unexpectedExtensionState m.name e.toNat)

/-- What is wrong with an entry of a state, with the error that tells it. -/
inductive EntryFault (state : Nat) : Nat × FragmentAction → CompositionError → Prop where
  | outside {column : Nat} {action : FragmentAction}
    (senseless : m.owner.classify host column = none) (past : l.ordinaryColumns ≤ column) :
    EntryFault state (column, action) (.columnOutOfRange m.name column l.ordinaryColumns)
  | unclassified {column : Nat} {action : FragmentAction}
    (senseless : m.owner.classify host column = none) (inside : column < l.ordinaryColumns) :
    EntryFault state (column, action) (.unclassifiedColumn m.name state column)
  | shift {column : Nat} {target : Decomposed} {e : CompositionError}
    (terminal : m.owner.classify host column = some .terminal)
    (missing : m.TargetFault l target e) : EntryFault state (column, .shift target) e
  | goto {column : Nat} {target : Decomposed} {e : CompositionError}
    (nonterminal : m.owner.classify host column = some .nonterminal)
    (missing : m.TargetFault l target e) : EntryFault state (column, .goto target) e
  | reduce {column production : Nat} (terminal : m.owner.classify host column = some .terminal)
    (large : EngineAction.maxParameter.toNat < production) :
    EntryFault state (column, .reduce production) (.actionParameterOverflow production)

/-- What is wrong with a state, with the error that tells it. -/
inductive StateFault (state : Nat) : CompositionError → Prop where
  | entry {entry : Nat × FragmentAction} {e : CompositionError}
    (listed : entry ∈ (m.fragment.table.row state).entries)
    (fault : m.EntryFault host l state entry e) : StateFault state e
  | layout {terminal : Nat} (listed : terminal ∈ m.fragment.layout state)
    (past : m.owner.terminalCount host ≤ terminal) :
    StateFault state (.terminalOutOfRange m.name terminal (m.owner.terminalCount host))
  | transparent {terminal : Nat} (listed : terminal ∈ m.fragment.transparent state)
    (past : m.owner.terminalCount host ≤ terminal) :
    StateFault state (.terminalOutOfRange m.name terminal (m.owner.terminalCount host))

variable {m host l}
variable {state : Nat} {entry : Nat × FragmentAction}

end Member

namespace MergedTables

variable {m : Member} {host : Grammar} {l : Layout}

theorem parameter_eq_error_iff (value : Nat) (e : CompositionError) :
    parameter value = .error e ↔ UInt32.size ≤ value ∧ e = .actionParameterOverflow value := by
  rw [← narrow_eq_none_iff]
  unfold parameter
  cases narrow value <;> simp [eq_comm]

theorem pack_eq_error_iff (a : EngineAction) (e : CompositionError) : pack a = .error e ↔
    EngineAction.maxParameter.toNat < a.parameter.toNat ∧
      e = .actionParameterOverflow a.parameter.toNat := by
  rw [← EngineAction.encode_eq_none_iff]
  unfold pack
  cases a.encode <;> simp [eq_comm]

/-- A merged state always fits a cell, so that a target is only refused if it does not exist. -/
theorem resolve_eq_error_iff (room : m.Room host l) (target : Decomposed) (e : CompositionError) :
    resolve l m target = .error e ↔ m.TargetFault l target e := by
  have fits {n : Nat} (bound : n ≤ EngineAction.maxParameter.toNat) : parameter n ≠ .error e := by
    intro failed
    have large := ((parameter_eq_error_iff n e).mp failed).1
    rw [EngineAction.toNat_maxParameter] at bound
    have size : UInt32.size = 4294967296 := rfl
    omega
  have hostStates := room.hostStates
  have ownStates := room.ownStates
  cases target with
  | host h =>
    by_cases inside : h.toNat < l.hostStates
    · have reached : resolve l m (.host h) ≠ .error e := by
        rw [resolve, if_pos inside]
        exact fits (by omega)
      refine iff_of_false reached (fun fault => ?_)
      cases fault with
      | host past => omega
    · rw [resolve, if_neg inside]
      constructor
      · intro failed
        cases failed
        exact .host (Nat.le_of_not_lt inside)
      · intro fault
        cases fault
        rfl
  | extension s =>
    cases owner : m.owner with
    | host =>
      simp only [resolve, owner]
      constructor
      · intro failed
        cases failed
        exact .foreign owner
      · intro fault
        cases fault with
        | own other => cases owner.symm.trans other
        | foreign => rfl
    | extension p =>
      by_cases inside : s.toNat < m.fragment.size
      · have reached : resolve l m (.extension s) ≠ .error e := by
          simp only [resolve, owner, if_pos inside]
          exact fits (by omega)
        refine iff_of_false reached (fun fault => ?_)
        cases fault with
        | own _ past => omega
        | foreign other => cases owner.symm.trans other
      · simp only [resolve, owner, if_neg inside]
        constructor
        · intro failed
          cases failed
          exact .own owner (Nat.le_of_not_lt inside)
        · intro fault
          cases fault with
          | own => rfl
          | foreign other => cases owner.symm.trans other

/-- On a classified column only the target or the production of an entry can be at fault. -/
theorem entryFault_iff {column : Nat} {kind : ColumnClass}
    (classified : m.owner.classify host column = some kind) (action : FragmentAction)
    (state : Nat) (e : CompositionError) : m.EntryFault host l state (column, action) e ↔
      match kind, action with
      | .terminal, .shift target => m.TargetFault l target e
      | .terminal, .reduce production =>
        EngineAction.maxParameter.toNat < production ∧ e = .actionParameterOverflow production
      | .nonterminal, .goto target => m.TargetFault l target e
      | _, _ => False := by
  constructor
  · intro fault
    cases fault with
    | outside senseless => cases senseless.symm.trans classified
    | unclassified senseless => cases senseless.symm.trans classified
    | shift terminal missing =>
      cases classified.symm.trans terminal
      exact missing
    | goto nonterminal missing =>
      cases classified.symm.trans nonterminal
      exact missing
    | reduce terminal large =>
      cases classified.symm.trans terminal
      exact ⟨large, rfl⟩
  · intro given
    cases kind with
    | terminal =>
      cases action with
      | shift target => exact .shift classified given
      | reduce production =>
        obtain ⟨large, rfl⟩ := given
        exact .reduce classified large
      | error => exact given.elim
      | accept => exact given.elim
      | goto target => exact given.elim
    | nonterminal =>
      cases action with
      | goto target => exact .goto classified given
      | error => exact given.elim
      | accept => exact given.elim
      | shift target => exact given.elim
      | reduce production => exact given.elim

/-- Packing an action that leads to a target fails only if the target does not exist. -/
theorem resolve_pack_eq_error_iff (room : m.Room host l) (action : UInt32 → EngineAction)
    (carries : ∀ word, (action word).parameter = word) (target : Decomposed)
    (e : CompositionError) :
    ((do let state ← resolve l m target; return action state) >>= pack) = .error e ↔
      m.TargetFault l target e := by
  simp only [bind_assoc, pure_bind]
  rw [bind_eq_error_iff, resolve_eq_error_iff room]
  refine or_iff_left (fun given => ?_)
  obtain ⟨state, resolved, failed⟩ := given
  obtain ⟨reached, place⟩ := (resolve_eq_ok_iff target state).mp resolved
  have large := ((pack_eq_error_iff _ e).mp failed).1
  rw [carries, place] at large
  exact absurd (Member.place_le room reached) (Nat.not_le_of_lt large)

/-- Packing a production fails only if it is too large. -/
theorem parameter_pack_eq_error_iff (production : Nat) (e : CompositionError) :
    ((do let p ← parameter production; return .reduce p) >>= pack) = .error e ↔
      EngineAction.maxParameter.toNat < production ∧ e = .actionParameterOverflow production := by
  simp only [bind_assoc, pure_bind]
  rw [bind_eq_error_iff, parameter_eq_error_iff]
  simp only [parameter_eq_ok_iff, pack_eq_error_iff, EngineAction.parameter]
  rw [EngineAction.toNat_maxParameter]
  constructor
  · intro given
    rcases given with ⟨past, same⟩ | ⟨word, rfl, large, same⟩
    · have size : UInt32.size = 4294967296 := rfl
      exact ⟨by omega, same⟩
    · exact ⟨large, same⟩
  · intro given
    obtain ⟨large, same⟩ := given
    rcases Nat.lt_or_ge production UInt32.size with fits | past
    · have number := UInt32.toNat_ofNat_of_lt' fits
      exact Or.inr ⟨UInt32.ofNat production, number, by rwa [number], by rwa [number]⟩
    · exact Or.inl ⟨past, same⟩

/-- Packing the translation of an action on a classified column fails only for a target that does
not exist, or for a production that is too large. -/
theorem translate_pack_eq_error_iff (room : m.Room host l) {column : Nat} {kind : ColumnClass}
    (classified : m.owner.classify host column = some kind) (action : FragmentAction)
    (state : Nat) (e : CompositionError) :
    (translate l m host column kind action >>= pack) = .error e ↔
      m.EntryFault host l state (column, action) e := by
  have dropped : ¬ (Except.ok (ε := CompositionError) EngineAction.error >>= pack) = .error e := by
    intro failed
    cases failed
  rw [entryFault_iff classified]
  cases kind with
  | terminal =>
    cases action with
    | error => exact iff_of_false dropped id
    | accept =>
      refine iff_of_false ?_ id
      by_cases atEnd : column = host.endOfInput
      · rw [translate, if_pos atEnd]
        intro failed
        cases failed
      · rwa [translate, if_neg atEnd]
    | shift target => exact resolve_pack_eq_error_iff room .shift (fun _ => rfl) target e
    | reduce production => exact parameter_pack_eq_error_iff production e
    | goto target => exact iff_of_false dropped id
  | nonterminal =>
    cases action with
    | error => exact iff_of_false dropped id
    | accept => exact iff_of_false dropped id
    | shift target => exact iff_of_false dropped id
    | reduce production => exact iff_of_false dropped id
    | goto target => exact resolve_pack_eq_error_iff room .goto (fun _ => rfl) target e

theorem appearance_eq_error_iff (count : Nat) (role : TerminalUse) (terminal : Nat)
    (e : CompositionError) : appearance m count role terminal = .error e ↔
      count ≤ terminal ∧ e = .terminalOutOfRange m.name terminal count := by
  unfold appearance
  by_cases inside : terminal < count
  · simp [inside, Nat.not_le_of_lt inside]
  · simp [inside, Nat.le_of_not_lt inside, eq_comm]

/-- The errors of an entry are its faults. That the column of a terminal counts among the terminals
of its fragment is checked too, but always holds. -/
theorem copyEntry_eq_error_iff (room : m.Room host l) (state : Nat) (entry : Nat × FragmentAction)
    (e : CompositionError) :
    copyEntry l m host state entry = .error e ↔ m.EntryFault host l state entry e := by
  obtain ⟨column, action⟩ := entry
  cases classified : m.owner.classify host column with
  | none =>
    unfold copyEntry
    by_cases past : l.ordinaryColumns ≤ column
    · rw [if_pos past]
      constructor
      · intro failed
        cases failed
        exact .outside classified past
      · intro fault
        cases fault with
        | outside => rfl
        | unclassified _ inside => exact absurd past (Nat.not_le_of_lt inside)
        | shift other => cases classified.symm.trans other
        | goto other => cases classified.symm.trans other
        | reduce other => cases classified.symm.trans other
    · rw [if_neg past]
      simp only [classified]
      constructor
      · intro failed
        cases failed
        exact .unclassified classified (Nat.lt_of_not_le past)
      · intro fault
        cases fault with
        | outside _ beyond => exact absurd beyond past
        | unclassified => rfl
        | shift other => cases classified.symm.trans other
        | goto other => cases classified.symm.trans other
        | reduce other => cases classified.symm.trans other
  | some kind =>
    have inside : ¬ l.ordinaryColumns ≤ column :=
      Nat.not_le_of_lt (room.columns column kind classified)
    rw [← translate_pack_eq_error_iff room classified]
    unfold copyEntry
    rw [if_neg inside]
    simp only [classified]
    -- Once the cell is packed, what is left of the entry cannot fail.
    have settled :
        ∀ next : UInt32 → Except CompositionError ((Nat × UInt32) × List (Nat × TerminalUse)),
        (∀ cell, ∃ result, next cell = .ok result) →
        ((do let action ← translate l m host column kind action
             let cell ← pack action
             next cell) = .error e ↔
          (translate l m host column kind action >>= pack) = .error e) := by
      intro next succeeds
      rw [← bind_assoc, bind_eq_error_iff]
      refine or_iff_left (fun given => ?_)
      obtain ⟨cell, _, failed⟩ := given
      obtain ⟨result, done⟩ := succeeds cell
      cases done.symm.trans failed
    cases kind with
    | nonterminal => exact settled _ (fun cell => ⟨_, rfl⟩)
    | terminal =>
      have known := m.owner.classify_terminal classified
      have appears := (appearance_eq_ok_iff (m := m) _ .shiftable column _).mpr ⟨known, rfl⟩
      exact settled _ (fun cell => ⟨_, by rw [appears]; rfl⟩)

/-- The errors of a state are its faults. -/
theorem stateFault_of_copyState (room : m.Room host l) {state : Nat} {e : CompositionError}
    (failed : copyState l m host state = .error e) : m.StateFault host l state e := by
  unfold copyState at failed
  simp only [bind_eq_error_iff] at failed
  rcases failed with entries | ⟨_, _, layout | ⟨_, _, transparent | ⟨_, _, finished⟩⟩⟩
  · obtain ⟨entry, listed, own⟩ := exists_error_of_mapM entries
    exact .entry listed ((copyEntry_eq_error_iff room state entry e).mp own)
  · obtain ⟨terminal, listed, own⟩ := exists_error_of_mapM layout
    obtain ⟨past, rfl⟩ := (appearance_eq_error_iff _ _ _ e).mp own
    exact .layout listed past
  · obtain ⟨terminal, listed, own⟩ := exists_error_of_mapM transparent
    obtain ⟨past, rfl⟩ := (appearance_eq_error_iff _ _ _ e).mp own
    exact .transparent listed past
  · cases finished

theorem stateFault_of_copyMember (room : m.Room host l) {e : CompositionError}
    (failed : copyMember l host m = .error e) :
    ∃ state < m.fragment.size, m.StateFault host l state e := by
  obtain ⟨state, listed, own⟩ := exists_error_of_mapM failed
  rw [bind_eq_error_iff] at own
  rcases own with copied | ⟨_, _, finished⟩
  · exact ⟨state, List.mem_range.mp listed, stateFault_of_copyState room copied⟩
  · cases finished

section Copied

variable {host : HostFragment} {extensions : List ExtensionFragment}

/-- The errors of a copy are faults of its fragments. -/
theorem stateFault_of_copy (laid : Layout.Laid host extensions l) {e : CompositionError}
    (failed : copy host extensions l = .error e) : ∃ m ∈ Member.all host extensions l,
      ∃ state < m.fragment.size, m.StateFault host.grammar l state e := by
  unfold copy at failed
  rw [bind_eq_error_iff] at failed
  rcases failed with members | ⟨_, _, finished⟩
  · obtain ⟨m, member, own⟩ := exists_error_of_mapM members
    exact ⟨m, member, stateFault_of_copyMember (Member.room_of_mem laid member) own⟩
  · cases finished

end Copied

end MergedTables

end ParserSplice
