import ParserSplice.Proofs.Engine.Faults

set_option autoImplicit false

namespace ParserSplice

/-- Number of states of the owner of a state, from those of the host and of an extension. -/
def Decomposed.ownerStates (hostStates ownStates : Nat) : Decomposed → Nat
  | host _ => hostStates
  | extension _ => ownStates

namespace Layout

variable {host : HostFragment} {extensions : List ExtensionFragment}

theorem target_eq_error_iff (offset : Nat) (e : ExtensionFragment) (entry : Decomposed)
    (fault : CompositionError) : target host.size offset e entry = .error fault ↔
      entry.ownerStates host.size e.size ≤ entry.index ∧
        fault = .stateOutOfRange e.name entry.index e.size := by
  cases entry with
  | host h =>
    by_cases inside : h.toNat < host.size
    · simp [target, Decomposed.ownerStates, Decomposed.index, inside]
    · simp [target, Decomposed.ownerStates, Decomposed.index, inside, Nat.le_of_not_lt, eq_comm]
  | extension s =>
    by_cases inside : s.toNat < e.size
    · simp [target, Decomposed.ownerStates, Decomposed.index, inside]
    · simp [target, Decomposed.ownerStates, Decomposed.index, inside, Nat.le_of_not_lt, eq_comm]

/-- What is wrong with a marking terminal, with the error that tells it. -/
inductive MarkingFault (host : HostFragment) (e : ExtensionFragment) :
    Nat × MarkingTerminal → CompositionError → Prop where
  | hook {marking : Nat × MarkingTerminal}
    (unknown : marking.2.hook ∉ host.grammar.nonterminals) :
    MarkingFault host e marking (.unknownHookNonterminal e.name marking.1 marking.2.hook)
  | entry {marking : Nat × MarkingTerminal} (known : marking.2.hook ∈ host.grammar.nonterminals)
    (past : marking.2.entry.ownerStates host.size e.size ≤ marking.2.entry.index) :
    MarkingFault host e marking (.stateOutOfRange e.name marking.2.entry.index e.size)

theorem placeMarking_eq_error_iff (index offset : Nat) (e : ExtensionFragment)
    (marking : Nat × MarkingTerminal) (fault : CompositionError) :
    placeMarking host index offset e marking = .error fault ↔
      MarkingFault host e marking fault := by
  unfold placeMarking
  by_cases known : marking.2.hook ∈ host.grammar.nonterminals
  · rw [if_pos ((OrderedSet.contains_iff_mem _ _).mpr known), bind_eq_error_iff,
      target_eq_error_iff, or_iff_left (by simp [pure, Except.pure])]
    constructor
    · intro given
      obtain ⟨past, rfl⟩ := given
      exact .entry known past
    · intro given
      cases given with
      | hook unknown => exact absurd known unknown
      | entry _ past => exact ⟨past, rfl⟩
  · rw [if_neg (fun found => known ((OrderedSet.contains_iff_mem _ _).mp found))]
    constructor
    · intro failed
      cases failed
      exact .hook known
    · intro given
      cases given with
      | hook => rfl
      | entry other => exact absurd other known

def AllAnchored (host : HostFragment) (e : ExtensionFragment) : Prop :=
  ∀ marking ∈ e.markings.entries, Anchored host e marking.2

/-- An extension has a marking terminal with a fault, and none before it. -/
def FirstFault (host : HostFragment) (fault : CompositionError) (e : ExtensionFragment) : Prop :=
  ∃ front marking rest, e.markings.entries = front ++ marking :: rest ∧
    (∀ other ∈ front, Anchored host e other.2) ∧ MarkingFault host e marking fault

theorem placeMarkings_eq_error_iff (member : (ExtensionFragment × Nat) × Nat)
    (fault : CompositionError) :
    placeMarkings host member = .error fault ↔ FirstFault host fault member.1.1 := by
  rw [placeMarkings, mapM_eq_error_iff]
  simp only [exists_placeMarking_iff, placeMarking_eq_error_iff]
  rfl

theorem exists_placeMarkings_iff (member : (ExtensionFragment × Nat) × Nat) :
    (∃ places, placeMarkings host member = .ok places) ↔ AllAnchored host member.1.1 := by
  simp only [placeMarkings, exists_mapM_iff, exists_placeMarking_iff]
  rfl

/-- Some extension has a marking terminal with a fault, and neither it nor an extension before it
has one earlier. -/
def Unplaced (host : HostFragment) (extensions : List ExtensionFragment)
    (fault : CompositionError) : Prop :=
  ∃ front e rest, extensions = front ++ e :: rest ∧ (∀ other ∈ front, AllAnchored host other) ∧
    FirstFault host fault e

/-- Marking terminals are refused for the first one with a fault. -/
theorem mapM_placeMarkings_eq_error_iff {offsets : List Nat}
    (same : offsets.length = extensions.length) (fault : CompositionError) :
    (extensions.zip offsets).zipIdx.mapM (placeMarkings host) = .error fault ↔
      Unplaced host extensions fault := by
  rw [mapM_eq_error_iff_map exists_placeMarkings_iff
    (fun member => placeMarkings_eq_error_iff member fault), members_of_places extensions _ same]
  rfl

/-- An error that is not about the size of the tables is that of the first marking terminal with a
fault. -/
theorem compute_eq_error_iff {fault : CompositionError}
    (fits : ∀ largest, fault ≠ .actionParameterOverflow largest) :
    compute host extensions = .error fault ↔ Unplaced host extensions fault := by
  have same : (offsetsFrom host.size (extensions.map (fun e => e.size))).length =
      extensions.length := by
    simp only [length_offsetsFrom, List.length_map]
  rw [← mapM_placeMarkings_eq_error_iff same, compute, bind_eq_error_iff]
  refine or_iff_left (fun given => ?_)
  obtain ⟨placed, _, large⟩ := given
  dsimp only at large
  split at large
  · cases large
    exact fits _ rfl
  · cases large

end Layout

namespace MergedTables

variable {host : HostFragment} {extensions : List ExtensionFragment} {l : Layout}

def Leads (row : OrderedMap FragmentAction) (target : Decomposed) : Prop :=
  ∃ column, row.get? column = some (.shift target) ∨ row.get? column = some (.goto target)

/-- Only a target that does not exist is reported as a state out of range. -/
theorem leads_of_stateFault {m : Member} (laid : Layout.Laid host extensions l) {s : Nat}
    {name : String} {state count : Nat}
    (fault : m.StateFault host.grammar l s (.stateOutOfRange name state count)) :
    ∃ target, Leads (m.fragment.table.row s) target ∧ m.name = name ∧ target.index = state ∧
      count = target.ownerStates host.size m.fragment.size ∧ count ≤ state := by
  have counted : ∀ target, m.TargetFault l target (.stateOutOfRange name state count) →
      m.name = name ∧ target.index = state ∧
        count = target.ownerStates host.size m.fragment.size ∧ count ≤ state := by
    intro target missing
    cases missing with
    | host past => exact ⟨rfl, rfl, laid.hostStates, past⟩
    | own _ past => exact ⟨rfl, rfl, rfl, past⟩
  cases fault with
  | entry listed fault =>
    have found := (OrderedMap.get?_eq_some_iff _ _ _).mpr listed
    cases fault with
    | shift _ missing => exact ⟨_, ⟨_, Or.inl found⟩, counted _ missing⟩
    | goto _ missing => exact ⟨_, ⟨_, Or.inr found⟩, counted _ missing⟩

/-- What is known about a state that is reported as out of range. The count that stands with the
target of a table entry is that of its owner; the count that stands with the state of a marking
terminal is that of the extension, which is right for its own states. -/
structure TellsMissingStates (host : HostFragment) (extensions : List ExtensionFragment) :
    Prop where
  exact : ∀ name state count,
    Layout.compute host extensions = .error (.stateOutOfRange name state count) ↔
      Layout.Unplaced host extensions (.stateOutOfRange name state count)
  markings : ∀ name state count,
    Layout.compute host extensions = .error (.stateOutOfRange name state count) →
      ∃ e ∈ extensions, ∃ terminal m, e.markings.get? terminal = some m ∧ e.name = name ∧
        m.entry.index = state ∧ m.entry.ownerStates host.size e.size ≤ state ∧ count = e.size ∧
        (count = m.entry.ownerStates host.size e.size ↔
          m.entry.isExtension = true ∨ e.size = host.size)
  targets : ∀ l, Layout.compute host extensions = .ok l → ∀ name state count,
    copy host extensions l = .error (.stateOutOfRange name state count) →
      ∃ m ∈ Member.all host extensions l, ∃ s < m.fragment.size, ∃ target,
        Leads (m.fragment.table.row s) target ∧ m.name = name ∧ target.index = state ∧
        count = target.ownerStates host.size m.fragment.size ∧ count ≤ state

/-- Errors about states out of range are about states that do not exist. -/
theorem tellsMissingStates (host : HostFragment) (extensions : List ExtensionFragment) :
    TellsMissingStates host extensions := by
  have exact : ∀ name state count,
      Layout.compute host extensions = .error (.stateOutOfRange name state count) ↔
        Layout.Unplaced host extensions (.stateOutOfRange name state count) :=
    fun name state count => Layout.compute_eq_error_iff (fun _ same => nomatch same)
  refine ⟨exact, fun name state count failed => ?_, fun l computed name state count failed => ?_⟩
  · obtain ⟨front, e, rest, rfl, _, before, marking, after, listed, _, fault⟩ :=
      (exact name state count).mp failed
    have inside : marking ∈ e.markings.entries := by
      rw [listed]
      exact List.mem_append_right _ List.mem_cons_self
    cases fault with
    | entry known past =>
      refine ⟨e, List.mem_append_right _ List.mem_cons_self, marking.1, marking.2,
        (OrderedMap.get?_eq_some_iff _ _ _).mpr inside, rfl, rfl, past, rfl, ?_⟩
      cases marking.2.entry with
      | host h => simp [Decomposed.ownerStates, Decomposed.isExtension]
      | extension s => simp [Decomposed.ownerStates, Decomposed.isExtension]
  · have laid := Layout.compute_eq_ok_iff.mp computed
    obtain ⟨m, member, s, inside, fault⟩ := stateFault_of_copy laid failed
    exact ⟨m, member, s, inside, leads_of_stateFault laid fault⟩

/-- An extension of five states whose marking terminal leads to a fourth state of the host. -/
def strandedFragment : ExtensionFragment :=
  { markedFragment with
    table := ⟨List.replicate 5 ∅⟩
    markings := .ofList [(1, ⟨2, .host 3, "@"⟩)] }

/-- The host has three states, but the error for its state 3 counts the five of the extension. -/
theorem miscounted_strandedFragment :
    Layout.compute statementFragment [strandedFragment] = .error (.stateOutOfRange "ext" 3 5) ∧
    statementFragment.size = 3 ∧
    strandedFragment.markings.get? 1 = some ⟨2, .host 3, "@"⟩ ∧
    (Decomposed.host 3).ownerStates statementFragment.size strandedFragment.size = 3 :=
  ⟨rfl, rfl, rfl, rfl⟩

end MergedTables

end ParserSplice
