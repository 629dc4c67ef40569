import ParserSplice.Proofs.Engine.Copy

set_option autoImplicit false

namespace ParserSplice

/-- Two words for one state in two merged tables. States of the host keep their numbers, those of an
extension that starts at `first` and at `second` move with it. -/
def MovedState (hostStates first second : Nat) (before after : UInt32) : Prop :=
  if before.toNat < hostStates then after = before
  else after.toNat + first = before.toNat + second

/-- One action in two merged tables. Only targets outside of the host differ. -/
inductive EngineAction.Moved (hostStates first second : Nat) : EngineAction → EngineAction → Prop
  | error : Moved hostStates first second .error .error
  | accept : Moved hostStates first second .accept .accept
  | reduce (production : UInt32) :
    Moved hostStates first second (.reduce production) (.reduce production)
  | shift {before after : UInt32} (moved : MovedState hostStates first second before after) :
    Moved hostStates first second (.shift before) (.shift after)
  | goto {before after : UInt32} (moved : MovedState hostStates first second before after) :
    Moved hostStates first second (.goto before) (.goto after)

namespace Member

variable {host : HostFragment} {extensions : List ExtensionFragment} {l l' : Layout}
  {grammar : Grammar} {e : ExtensionFragment} {first second hostStates : Nat}

/-- Where an extension is placed has no part in whether it can be translated. -/
theorem wellFormed_ofExtension (second : Nat)
    (fits : (ofExtension e first).WellFormed grammar hostStates) :
    (ofExtension e second).WellFormed grammar hostStates := by
  intro s inside
  have state := fits s inside
  exact ⟨state.entries, state.layout, state.transparent⟩

theorem forall_wellFormed_iff (laid : Layout.Laid host extensions l) :
    (∀ m ∈ all host extensions l, m.WellFormed host.grammar l.hostStates) ↔
      (ofHost host).WellFormed host.grammar host.size ∧
        ∀ e ∈ extensions, (ofExtension e 0).WellFormed host.grammar host.size := by
  rw [laid.hostStates]
  constructor
  · intro each
    refine ⟨each _ ofHost_mem_all, fun e inside => ?_⟩
    obtain ⟨i, found⟩ := List.mem_iff_getElem?.mp inside
    exact wellFormed_ofExtension 0 (each _ (ofExtension_mem_all found))
  · intro given m inside
    obtain ⟨ofHost, ofExtensions⟩ := given
    rcases (mem_all_iff m).mp inside with rfl | ⟨i, e, found, rfl⟩
    · exact ofHost
    · exact wellFormed_ofExtension _ (ofExtensions e (List.mem_of_getElem? found))

theorem place_moved (room : (ofExtension e first).Room grammar l)
    (room' : (ofExtension e second).Room grammar l') (same : l'.hostStates = l.hostStates)
    (outside : l.hostStates ≤ first) {target : Decomposed}
    (reached : (ofExtension e first).Reaches l.hostStates target) :
    MovedState l.hostStates first second (UInt32.ofNat ((ofExtension e first).place target))
      (UInt32.ofNat ((ofExtension e second).place target)) := by
  have before := EngineAction.toNat_ofNat_of_le (place_le room reached)
  have reached' : (ofExtension e second).Reaches l'.hostStates target := by
    rw [same]
    exact reached
  have after := EngineAction.toNat_ofNat_of_le (place_le room' reached')
  rw [MovedState, before, after]
  cases target with
  | host h => exact if_pos reached ▸ rfl
  | extension own =>
    have above : ¬ (ofExtension e first).place (.extension own) < l.hostStates := by
      show ¬ own.toNat + first < l.hostStates
      omega
    rw [if_neg above]
    show own.toNat + second + first = own.toNat + first + second
    omega

theorem merged_moved (room : (ofExtension e first).Room grammar l)
    (room' : (ofExtension e second).Room grammar l') (same : l'.hostStates = l.hostStates)
    (outside : l.hostStates ≤ first) {column : Nat} {action : FragmentAction}
    (fits : (ofExtension e first).EntryFits grammar l.hostStates (column, action)) :
    EngineAction.Moved l.hostStates first second
      ((ofExtension e first).merged grammar column action)
      ((ofExtension e second).merged grammar column action) := by
  have moved : ∀ target, (ofExtension e first).Reaches l.hostStates target →
      MovedState l.hostStates first second (UInt32.ofNat ((ofExtension e first).place target))
        (UInt32.ofNat ((ofExtension e second).place target)) :=
    fun _ reached => place_moved room room' same outside reached
  simp only [EntryFits, merged, ofExtension] at fits ⊢
  cases classified : (Owner.extension e.partition).classify grammar column with
  | none => exact .error
  | some kind =>
    simp only [classified] at fits
    cases kind with
    | terminal =>
      cases action with
      | error => exact .error
      | accept =>
        by_cases atEnd : column = grammar.endOfInput
        · simp only [if_pos atEnd]
          exact .accept
        · simp only [if_neg atEnd]
          exact .error
      | shift target => exact .shift (moved target fits)
      | reduce production => exact .reduce _
      | goto target => exact .error
    | nonterminal =>
      cases action with
      | error => exact .error
      | accept => exact .error
      | shift target => exact .error
      | reduce production => exact .error
      | goto target => exact .goto (moved target fits)

theorem action_moved (room : (ofExtension e first).Room grammar l)
    (room' : (ofExtension e second).Room grammar l') (same : l'.hostStates = l.hostStates)
    (outside : l.hostStates ≤ first) {state : Nat}
    (fits : (ofExtension e first).StateFits grammar l.hostStates state) (column : Nat) :
    EngineAction.Moved l.hostStates first second
      ((ofExtension e first).merged grammar column (e.table.action state column))
      ((ofExtension e second).merged grammar column (e.table.action state column)) := by
  -- A column without an entry need not have a class, but it is an error in both tables.
  by_cases empty : e.table.action state column = .error
  · rw [empty, merged_error, merged_error]
    exact .error
  · exact merged_moved room room' same outside (entryFits_of_action fits rfl empty)

end Member

namespace MergedTables

variable {host : HostFragment} {extensions others : List ExtensionFragment} {l l' : Layout}
  {t t' : MergedTables} {e : ExtensionFragment} {i i' : Nat}

theorem Merged.hostUses_eq (merged : Merged host extensions l t) :
    t.hostUses = (Member.ofHost host).uses host.grammar :=
  (List.cons.inj merged.uses).1

theorem Merged.getElem?_extensionUses (merged : Merged host extensions l t)
    (found : extensions[i]? = some e) :
    t.extensionUses[i]? = some ((Member.ofExtension e 0).uses host.grammar) := by
  have listed : (extensions.zipIdx)[i]? = some (e, i) := by
    rw [List.getElem?_zipIdx, found, Option.map_some, Nat.zero_add]
  have uses := (List.cons.inj merged.uses).2
  rw [uses, List.getElem?_map, List.getElem?_map, listed]
  rfl

/-- Copying a layout that could be computed succeeds exactly when the host and each extension can be
translated, each taken alone. -/
theorem exists_copy_iff_wellFormed (computed : Layout.compute host extensions = .ok l) :
    (∃ t, copy host extensions l = .ok t) ↔
      (Member.ofHost host).WellFormed host.grammar host.size ∧
        ∀ e ∈ extensions, (Member.ofExtension e 0).WellFormed host.grammar host.size := by
  have laid := Layout.compute_eq_ok_iff.mp computed
  rw [exists_copy_iff laid, Member.forall_wellFormed_iff laid]

def Mergeable (host : HostFragment) (extensions : List ExtensionFragment) : Prop :=
  ∃ l t, Layout.compute host extensions = .ok l ∧ copy host extensions l = .ok t

theorem mergeable_iff (computed : ∃ l, Layout.compute host extensions = .ok l) :
    Mergeable host extensions ↔ (Member.ofHost host).WellFormed host.grammar host.size ∧
      ∀ e ∈ extensions, (Member.ofExtension e 0).WellFormed host.grammar host.size := by
  obtain ⟨l, computed⟩ := computed
  rw [← exists_copy_iff_wellFormed computed]
  constructor
  · intro given
    obtain ⟨l', t, computed', copied⟩ := given
    rw [computed] at computed'
    cases computed'
    exact ⟨t, copied⟩
  · intro given
    obtain ⟨t, copied⟩ := given
    exact ⟨l, t, computed, copied⟩

/-- The host has the same rows and use masks in two merged tables. -/
structure SameHost (host : HostFragment) (t t' : MergedTables) : Prop where
  uses : t'.hostUses = t.hostUses
  layout : ∀ s < host.size, ∃ layout, t.layouts[s]? = some layout ∧ t'.layouts[s]? = some layout
  action : ∀ s < host.size, ∀ c, t'.action s c = t.action s c

/-- An extension at place `i` of one merged table and at place `i'` of another has the same use
masks and layout sets, and its rows differ by where its own states are. -/
structure SameExtension (e : ExtensionFragment) (l l' : Layout) (t t' : MergedTables) (i i' : Nat)
    (first second : Nat) : Prop where
  offset : l.offsets[i]? = some first
  offset' : l'.offsets[i']? = some second
  uses : ∃ uses, t.extensionUses[i]? = some uses ∧ t'.extensionUses[i']? = some uses
  layout : ∀ s < e.size, ∃ layout, t.layouts[s + first]? = some layout ∧
    t'.layouts[s + second]? = some layout
  action : ∀ s < e.size, ∀ c, EngineAction.Moved l.hostStates first second
    (t.action (s + first) c) (t'.action (s + second) c)

theorem Merged.sameHost (merged : Merged host extensions l t)
    (merged' : Merged host others l' t') (laid : Layout.Laid host extensions l)
    (laid' : Layout.Laid host others l') : SameHost host t t' := by
  refine {
    uses := by rw [merged.hostUses_eq, merged'.hostUses_eq]
    layout := fun s inside => ?_
    action := fun s inside c => ?_ }
  · exact ⟨_, merged.getElem?_layouts laid Member.ofHost_mem_all inside,
      merged'.getElem?_layouts laid' Member.ofHost_mem_all inside⟩
  · exact (merged'.action_eq laid' Member.ofHost_mem_all inside c).trans
      (merged.action_eq laid Member.ofHost_mem_all inside c).symm

theorem Merged.sameExtension (merged : Merged host extensions l t)
    (merged' : Merged host others l' t') (laid : Layout.Laid host extensions l)
    (laid' : Layout.Laid host others l') (found : extensions[i]? = some e)
    (found' : others[i']? = some e) :
    SameExtension e l l' t t' i i' (l.offset i) (l'.offset i') := by
  have listed := (List.getElem?_eq_some_iff.mp found).1
  have listed' := (List.getElem?_eq_some_iff.mp found').1
  have member : Member.ofExtension e (l.offset i) ∈ Member.all host extensions l :=
    Member.ofExtension_mem_all found
  have member' : Member.ofExtension e (l'.offset i') ∈ Member.all host others l' :=
    Member.ofExtension_mem_all found'
  have outside : l.hostStates ≤ l.offset i := by
    rw [laid.hostStates, laid.offset_eq i listed]
    omega
  refine {
    offset := laid.getElem?_offsets i listed
    offset' := laid'.getElem?_offsets i' listed'
    uses := ⟨_, merged.getElem?_extensionUses found, merged'.getElem?_extensionUses found'⟩
    layout := fun s inside => ?_
    action := fun s inside c => ?_ }
  · exact ⟨_, merged.getElem?_layouts laid member inside,
      merged'.getElem?_layouts laid' member' inside⟩
  · have here := merged.action_eq laid member inside c
    have there := merged'.action_eq laid' member' inside c
    change t.action (s + l.offset i) c = _ at here
    change t'.action (s + l'.offset i') c = _ at there
    rw [here, there]
    exact Member.action_moved (Member.room_of_mem laid member) (Member.room_of_mem laid' member')
      (laid'.hostStates.trans laid.hostStates.symm) outside (merged.wellFormed _ member s inside) c

/-- Fragments are merged independently of each other and of their order. -/
theorem merges_independently (computed : Layout.compute host extensions = .ok l) :
    ((∃ t, copy host extensions l = .ok t) ↔
      Mergeable host [] ∧ ∀ e ∈ extensions, Mergeable host [e]) ∧
    ∀ t others l' t', copy host extensions l = .ok t → Layout.compute host others = .ok l' →
      copy host others l' = .ok t' →
        SameHost host t t' ∧ ∀ (i i' : Nat) e, extensions[i]? = some e → others[i']? = some e →
          ∃ first second, SameExtension e l l' t t' i i' first second := by
  have laid := Layout.compute_eq_ok_iff.mp computed
  have alone : ∀ part : List ExtensionFragment, part.Sublist extensions →
      ∃ l, Layout.compute host part = .ok l :=
    fun part kept => Layout.exists_compute_of_sublist kept ⟨l, computed⟩
  constructor
  · rw [exists_copy_iff_wellFormed computed, mergeable_iff (alone [] (List.nil_sublist _))]
    constructor
    · intro given
      obtain ⟨ofHost, each⟩ := given
      refine ⟨⟨ofHost, by simp⟩, fun e inside => ?_⟩
      rw [mergeable_iff (alone [e] (List.singleton_sublist.mpr inside))]
      exact ⟨ofHost, by simpa using each e inside⟩
    · intro given
      obtain ⟨⟨ofHost, _⟩, each⟩ := given
      refine ⟨ofHost, fun e inside => ?_⟩
      have single := each e inside
      rw [mergeable_iff (alone [e] (List.singleton_sublist.mpr inside))] at single
      exact single.2 e (List.mem_singleton.mpr rfl)
  · intro t others l' t' copied computed' copied'
    have laid' := Layout.compute_eq_ok_iff.mp computed'
    have merged := (copy_eq_ok_iff laid).mp copied
    have merged' := (copy_eq_ok_iff laid').mp copied'
    refine ⟨merged.sameHost merged' laid laid', fun i i' e found found' => ?_⟩
    exact ⟨_, _, merged.sameExtension merged' laid laid' found found'⟩

/-- The extension moves by two states when another one of that size is put before it. -/
theorem merges_independently_markedFragment : ∃ l t l' t',
    Layout.compute statementFragment [markedFragment] = .ok l ∧
    copy statementFragment [markedFragment] l = .ok t ∧
    Layout.compute statementFragment [markedFragment, markedFragment] = .ok l' ∧
    copy statementFragment [markedFragment, markedFragment] l' = .ok t' ∧
    t.action 3 6 = .goto 4 ∧ t'.action 5 6 = .goto 6 ∧ SameHost statementFragment t t' ∧
    ∃ first second, SameExtension markedFragment l l' t t' 0 1 first second := by
  have computed : Layout.compute statementFragment [markedFragment] = .ok _ := rfl
  obtain ⟨sameHost, sameExtension⟩ := (merges_independently computed).2 _
    [markedFragment, markedFragment] _ _ rfl rfl rfl
  exact ⟨_, _, _, _, computed, rfl, rfl, rfl, rfl, rfl, sameHost, sameExtension 0 1 _ rfl rfl⟩

end MergedTables

end ParserSplice
