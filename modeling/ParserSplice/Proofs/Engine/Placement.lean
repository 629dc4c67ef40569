import ParserSplice.Proofs.Engine.Rows

set_option autoImplicit false

namespace ParserSplice

namespace Layout

variable {host : HostFragment} {extensions : List ExtensionFragment} {l : Layout}

theorem target_eq_ok_iff (hostStates offset : Nat) (e : ExtensionFragment) (entry : Decomposed)
    (state : Nat) : target hostStates offset e entry = .ok state ↔
      (Member.ofExtension e offset).Reaches hostStates entry ∧
        (Member.ofExtension e offset).place entry = state := by
  cases entry with
  | host h =>
    by_cases inside : h.toNat < hostStates <;> simp [target, Member.Reaches, Member.place, inside]
  | extension s =>
    have reached : (Member.ofExtension e offset).Reaches hostStates (.extension s) ↔
        s.toNat < e.size := and_iff_right ⟨_, rfl⟩
    rw [reached]
    by_cases inside : s.toNat < e.size <;>
      simp [target, Member.place, Member.ofExtension, inside]

def markingIn (index offset : Nat) (e : ExtensionFragment) (entry : Nat × MarkingTerminal)
    (column : Nat) : PlacedMarking :=
  ⟨index, entry.1, entry.2.hook, (Member.ofExtension e offset).place entry.2.entry, column⟩

theorem placeMarking_eq_ok_iff (index offset : Nat) (e : ExtensionFragment)
    (entry : Nat × MarkingTerminal) (place : Nat → PlacedMarking) :
    placeMarking host index offset e entry = .ok place ↔
      (entry.2.hook ∈ host.grammar.nonterminals ∧
        (Member.ofExtension e offset).Reaches host.size entry.2.entry) ∧
      markingIn index offset e entry = place := by
  rw [← OrderedSet.contains_iff_mem]
  unfold placeMarking
  by_cases hooked : host.grammar.nonterminals.contains entry.2.hook = true
  · simp only [hooked, ↓reduceIte, bind_eq_ok_iff, target_eq_ok_iff, pure_eq_ok_iff, true_and,
      and_assoc, exists_and_left, exists_eq_left']
    rfl
  · simp [hooked]

def markingsOf (member : (ExtensionFragment × Nat) × Nat) : List (Nat → PlacedMarking) :=
  member.1.1.markings.entries.map (markingIn member.2 member.1.2 member.1.1)

theorem placeMarkings_eq_ok_iff (member : (ExtensionFragment × Nat) × Nat)
    (places : List (Nat → PlacedMarking)) : placeMarkings host member = .ok places ↔
      (∀ entry ∈ member.1.1.markings.entries, entry.2.hook ∈ host.grammar.nonterminals ∧
        (Member.ofExtension member.1.1 member.1.2).Reaches host.size entry.2.entry) ∧
      markingsOf member = places :=
  mapM_eq_ok_iff_map _ (fun entry _ => placeMarking_eq_ok_iff member.2 member.1.2 member.1.1 entry)

/-- The marking terminals of a layout, in order of extensions and of terminals. -/
theorem Laid.markings_eq (laid : Laid host extensions l) :
    (∀ member ∈ (extensions.zip l.offsets).zipIdx, ∀ entry ∈ member.1.1.markings.entries,
      entry.2.hook ∈ host.grammar.nonterminals ∧
        (Member.ofExtension member.1.1 member.1.2).Reaches host.size entry.2.entry) ∧
    l.markings = (((extensions.zip l.offsets).zipIdx.flatMap markingsOf).zipIdx).map
      (fun entry => entry.1 (l.ordinaryColumns + entry.2)) := by
  obtain ⟨placed, run, markings⟩ := laid.markings
  obtain ⟨each, rfl⟩ :=
    (mapM_eq_ok_iff_map _ (fun member _ => placeMarkings_eq_ok_iff member)).mp run
  exact ⟨each, markings⟩

theorem column_markingsOf {member : (ExtensionFragment × Nat) × Nat}
    {place : Nat → PlacedMarking} (inside : place ∈ markingsOf member) (column : Nat) :
    (place column).column = column := by
  obtain ⟨_, _, rfl⟩ := List.mem_map.mp inside
  rfl

/-- The marking columns follow the ordinary columns without gaps. -/
theorem Laid.columns_markings (laid : Laid host extensions l) :
    l.markings.map (fun mk => mk.column) = List.range' l.ordinaryColumns l.markings.length := by
  obtain ⟨_, markings⟩ := laid.markings_eq
  apply List.ext_getElem?
  intro k
  rw [markings]
  simp only [List.getElem?_map, List.getElem?_zipIdx, List.length_map, List.length_zipIdx]
  cases found : ((extensions.zip l.offsets).zipIdx.flatMap markingsOf)[k]? with
  | none =>
    have past := List.getElem?_eq_none_iff.mp found
    simp only [Option.map_none]
    rw [List.getElem?_eq_none (by rwa [List.length_range'])]
  | some place =>
    have below := (List.getElem?_eq_some_iff.mp found).1
    obtain ⟨member, _, inside⟩ := List.mem_flatMap.mp (List.mem_of_getElem? found)
    simp only [Option.map_some]
    rw [column_markingsOf inside, List.getElem?_range' below, Nat.zero_add, Nat.one_mul]

theorem Laid.nodup_columns (laid : Laid host extensions l) :
    (l.markings.map (fun mk => mk.column)).Nodup := by
  rw [laid.columns_markings]
  exact List.nodup_range'

theorem Laid.column_bounds (laid : Laid host extensions l) {mk : PlacedMarking}
    (inside : mk ∈ l.markings) : l.ordinaryColumns ≤ mk.column ∧ mk.column < l.width := by
  have listed := List.mem_map_of_mem (f := fun mk => mk.column) inside
  rw [laid.columns_markings, List.mem_range'_1] at listed
  rw [laid.width]
  exact listed

theorem Laid.eq_of_column_eq (laid : Laid host extensions l) {mk mk' : PlacedMarking}
    (inside : mk ∈ l.markings) (inside' : mk' ∈ l.markings) (same : mk.column = mk'.column) :
    mk = mk' :=
  List.inj_on_of_nodup_map laid.nodup_columns inside inside' same

/-- No fragment has a symbol for a marking column. -/
theorem Laid.column_ne_of_classified (laid : Laid host extensions l) {m : Member}
    (member : m ∈ Member.all host extensions l) {column : Nat} {kind : ColumnClass}
    (classified : m.owner.classify host.grammar column = some kind) :
    ∀ mk ∈ l.markings, mk.column ≠ column := by
  intro mk marking same
  have ordinary := (Member.room_of_mem laid member).columns column kind classified
  have past := (laid.column_bounds marking).1
  omega

/-- What holds on a column follows from what holds on marking columns and on all others, if the
latter never holds on a marking column. -/
theorem Laid.iff_on_columns (laid : Laid host extensions l) {column : Nat} {holds own : Prop}
    {marked : PlacedMarking → Prop}
    (onMarking : ∀ mk ∈ l.markings, mk.column = column → (holds ↔ marked mk))
    (elsewhere : (∀ mk ∈ l.markings, mk.column ≠ column) → (holds ↔ own))
    (apart : own → ∀ mk ∈ l.markings, mk.column ≠ column) :
    holds ↔ own ∨ ∃ mk ∈ l.markings, mk.column = column ∧ marked mk := by
  by_cases some : ∃ mk ∈ l.markings, mk.column = column
  · obtain ⟨mk, marking, same⟩ := some
    rw [onMarking mk marking same]
    constructor
    · exact fun given => Or.inr ⟨mk, marking, same, given⟩
    · intro given
      rcases given with ordinary | ⟨mk', marking', same', given⟩
      · exact absurd same (apart ordinary mk marking)
      · rwa [← laid.eq_of_column_eq marking' marking (same'.trans same.symm)]
  · have other : ∀ mk ∈ l.markings, mk.column ≠ column :=
      fun mk marking same => some ⟨mk, marking, same⟩
    rw [elsewhere other]
    constructor
    · exact Or.inl
    · intro given
      rcases given with ordinary | ⟨mk, marking, same, _⟩
      · exact ordinary
      · exact absurd same (other mk marking)

/-- A marking terminal is declared by its extension, and leads to where its declaration says. -/
theorem Laid.declared (laid : Laid host extensions l) {mk : PlacedMarking}
    (inside : mk ∈ l.markings) : ∃ e declared, extensions[mk.extension]? = some e ∧
      (mk.terminal, declared) ∈ e.markings.entries ∧ mk.hook = declared.hook ∧
      mk.hook ∈ host.grammar.nonterminals ∧
      (Member.ofExtension e (l.offset mk.extension)).Reaches l.hostStates declared.entry ∧
      mk.target = (Member.ofExtension e (l.offset mk.extension)).place declared.entry := by
  obtain ⟨each, markings⟩ := laid.markings_eq
  rw [markings] at inside
  obtain ⟨⟨place, k⟩, found, rfl⟩ := List.mem_map.mp inside
  obtain ⟨⟨⟨e, offset⟩, i⟩, member, own⟩ :=
    List.mem_flatMap.mp (List.mem_of_getElem? (List.mem_zipIdx_iff_getElem?.mp found))
  obtain ⟨⟨terminal, declared⟩, entry, rfl⟩ := List.mem_map.mp own
  obtain ⟨hooked, reached⟩ := each _ member _ entry
  obtain ⟨listed, placed⟩ := List.getElem?_zip_eq_some.mp (List.mem_zipIdx_iff_getElem?.mp member)
  have first := laid.getElem?_offsets i (List.getElem?_eq_some_iff.mp listed).1
  obtain rfl : l.offset i = offset := Option.some.inj (first.symm.trans placed)
  refine ⟨e, declared, listed, entry, rfl, hooked, ?_, rfl⟩
  rwa [laid.hostStates]

theorem Laid.target_lt (laid : Laid host extensions l) {mk : PlacedMarking}
    (inside : mk ∈ l.markings) : mk.target < l.totalStates := by
  obtain ⟨e, declared, listed, _, _, _, reached, target⟩ := laid.declared inside
  rw [target]
  exact Member.place_lt laid (Member.ofExtension_mem_all listed) reached

end Layout

end ParserSplice
