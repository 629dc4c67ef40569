import ParserSplice.Proofs.Engine.Translation

set_option autoImplicit false

namespace ParserSplice

namespace Member

variable {host : HostFragment} {extensions : List ExtensionFragment} {l : Layout}

def rows (m : Member) : List Nat := (List.range m.fragment.size).map (fun s => s + m.offset)

theorem rows_eq_range' (m : Member) : m.rows = List.range' m.offset m.fragment.size := by
  rw [rows, List.range'_eq_map_range]
  exact List.map_congr_left (fun s _ => Nat.add_comm s m.offset)

theorem mem_rows (m : Member) (row : Nat) :
    row ∈ m.rows ↔ ∃ s < m.fragment.size, s + m.offset = row := by
  simp only [rows, List.mem_map, List.mem_range]

/-- Members that follow one another without gaps, the first of them at row `start`. -/
def Stacked : Nat → List Member → Prop
  | _, [] => True
  | start, m :: rest => m.offset = start ∧ Stacked (start + m.fragment.size) rest

def stateCount (members : List Member) : Nat := (members.map (fun m => m.fragment.size)).sum

theorem stateCount_cons (m : Member) (rest : List Member) :
    stateCount (m :: rest) = m.fragment.size + stateCount rest := rfl

theorem flatMap_rows_of_stacked {start : Nat} {members : List Member}
    (stacked : Stacked start members) :
    members.flatMap rows = List.range' start (stateCount members) := by
  induction members generalizing start with
  | nil => rfl
  | cons m rest ih =>
    obtain ⟨rfl, later⟩ := stacked
    rw [List.flatMap_cons, ih later, rows_eq_range', List.range'_append_1, stateCount_cons]

theorem offset_add_size_le_of_stacked {start : Nat} {members : List Member} {m : Member}
    (stacked : Stacked start members) (inside : m ∈ members) :
    m.offset + m.fragment.size ≤ start + stateCount members := by
  induction members generalizing start with
  | nil => cases inside
  | cons first rest ih =>
    obtain ⟨rfl, later⟩ := stacked
    rw [stateCount_cons]
    rcases List.mem_cons.mp inside with rfl | found
    · omega
    · have bound := ih later found
      omega

theorem stacked_ofExtension (offset : Nat → Nat) (extensions : List ExtensionFragment)
    (first start : Nat) (placed : ∀ i < extensions.length,
      offset (first + i) = start + ((extensions.take i).map (fun e => e.size)).sum) :
    Stacked start
      ((extensions.zipIdx first).map (fun entry => ofExtension entry.1 (offset entry.2))) := by
  -- Dropping the first extension moves both the numbering and the first row behind it.
  induction extensions generalizing first start with
  | nil => trivial
  | cons e rest ih =>
    rw [List.zipIdx_cons, List.map_cons]
    refine ⟨placed 0 (Nat.zero_lt_succ _), ih (first + 1) (start + e.size) ?_⟩
    intro i inside
    have later := placed (i + 1) (Nat.succ_lt_succ inside)
    rw [List.take_succ_cons, List.map_cons, List.sum_cons] at later
    rw [Nat.add_assoc first, Nat.add_comm 1 i, later, Nat.add_assoc]

theorem stacked_all (laid : Layout.Laid host extensions l) : Stacked 0 (all host extensions l) := by
  refine ⟨rfl, stacked_ofExtension l.offset extensions 0 _ ?_⟩
  intro i inside
  rw [Nat.zero_add, Nat.zero_add]
  exact laid.offset_eq i inside

theorem stateCount_all (laid : Layout.Laid host extensions l) :
    stateCount (all host extensions l) = l.totalStates := by
  have sizes : (extensions.zipIdx.map (fun entry => ofExtension entry.1 (l.offset entry.2))).map
      (fun m => m.fragment.size) = extensions.map (fun e => e.size) := by
    rw [List.map_map]
    calc extensions.zipIdx.map (fun entry => entry.1.size)
      _ = (extensions.zipIdx.map Prod.fst).map (fun e => e.size) := by rw [List.map_map]; rfl
      _ = extensions.map (fun e => e.size) := by rw [List.zipIdx_map_fst]
  rw [all, stateCount_cons, stateCount, sizes, laid.totalStates]
  rfl

theorem flatMap_rows_all (laid : Layout.Laid host extensions l) :
    (all host extensions l).flatMap rows = List.range l.totalStates := by
  rw [flatMap_rows_of_stacked (stacked_all laid), stateCount_all laid, List.range_eq_range']

theorem offset_add_size_le (laid : Layout.Laid host extensions l) {m : Member}
    (inside : m ∈ all host extensions l) : m.offset + m.fragment.size ≤ l.totalStates := by
  have bound := offset_add_size_le_of_stacked (stacked_all laid) inside
  rwa [stateCount_all laid, Nat.zero_add] at bound

/-- Every merged row is the row of a state of some member. -/
theorem exists_of_lt_totalStates (laid : Layout.Laid host extensions l) (row : Nat)
    (inside : row < l.totalStates) :
    ∃ m ∈ all host extensions l, ∃ s < m.fragment.size, s + m.offset = row := by
  have found := List.mem_range.mpr inside
  rw [← flatMap_rows_all laid] at found
  obtain ⟨m, member, own⟩ := List.mem_flatMap.mp found
  exact ⟨m, member, (m.mem_rows row).mp own⟩

theorem ofHost_mem_all : ofHost host ∈ all host extensions l := List.mem_cons_self

theorem ofExtension_mem_all {i : Nat} {e : ExtensionFragment} (found : extensions[i]? = some e) :
    ofExtension e (l.offset i) ∈ all host extensions l := by
  refine List.mem_cons_of_mem _ (List.mem_map.mpr ⟨(e, i), ?_, rfl⟩)
  exact List.mem_zipIdx_iff_getElem?.mpr found

theorem mem_all_iff (m : Member) : m ∈ all host extensions l ↔
    m = ofHost host ∨ ∃ i e, extensions[i]? = some e ∧ m = ofExtension e (l.offset i) := by
  rw [all, List.mem_cons, List.mem_map]
  constructor
  · intro given
    rcases given with rfl | ⟨⟨e, i⟩, found, rfl⟩
    · exact Or.inl rfl
    · exact Or.inr ⟨i, e, List.mem_zipIdx_iff_getElem?.mp found, rfl⟩
  · intro given
    rcases given with rfl | ⟨i, e, found, rfl⟩
    · exact Or.inl rfl
    · exact Or.inr ⟨(e, i), List.mem_zipIdx_iff_getElem?.mpr found, rfl⟩

/-- A layout has room for each of its members. -/
theorem room_of_mem (laid : Layout.Laid host extensions l) {m : Member}
    (inside : m ∈ all host extensions l) : m.Room host.grammar l := by
  have hostStates := laid.hostStates_le
  have totalStates := laid.totalStates_le
  have own := offset_add_size_le laid inside
  refine ⟨by omega, by omega, fun column kind found => ?_⟩
  have hostWidth := laid.host_tableWidth_le
  rcases m.owner.classify_lt found with below | ⟨p, owner, below⟩
  · omega
  · rcases (mem_all_iff m).mp inside with rfl | ⟨i, e, listed, rfl⟩
    · cases owner
    · cases owner
      have ownWidth := laid.extension_tableWidth_le (List.mem_of_getElem? listed)
      omega

theorem place_lt (laid : Layout.Laid host extensions l) {m : Member}
    (inside : m ∈ all host extensions l) {target : Decomposed}
    (reached : m.Reaches l.hostStates target) : m.place target < l.totalStates := by
  cases target with
  | host h =>
    have hostStates := laid.hostStates_le
    exact Nat.lt_of_lt_of_le reached hostStates
  | extension e =>
    have own := offset_add_size_le laid inside
    have below := reached.2
    rw [place]
    omega

def placed (m : Member) (host : Grammar) : List (Nat × MergedTables.CopiedState) :=
  (List.range m.fragment.size).map (fun s => (s + m.offset, m.copied host s))

theorem keys_placed (m : Member) (host : Grammar) : (m.placed host).map Prod.fst = m.rows := by
  rw [placed, List.map_map]
  rfl

theorem usesOf_placed (m : Member) (host : Grammar) :
    MergedTables.usesOf host m (m.placed host) = m.uses host := by
  rw [MergedTables.usesOf, placed, List.flatMap_map]
  rfl

end Member

namespace MergedTables

variable {host : HostFragment} {extensions : List ExtensionFragment} {l : Layout}
  {t : MergedTables}

def placements (host : HostFragment) (extensions : List ExtensionFragment) (l : Layout) :
    List (Nat × CopiedState) :=
  (Member.all host extensions l).flatMap (fun m => m.placed host.grammar)

/-- What a merge that succeeds consists of. -/
structure Merged (host : HostFragment) (extensions : List ExtensionFragment) (l : Layout)
    (t : MergedTables) : Prop where
  wellFormed : ∀ m ∈ Member.all host extensions l, m.WellFormed host.grammar l.hostStates
  cells : t.cells = (List.range l.totalStates).map
    (fun row => mergedRow l.width (placedOn (placements host extensions l) row))
  layouts : t.layouts = (List.range l.totalStates).map
    (fun row => mergedLayout (placedOn (placements host extensions l) row))
  uses : t.hostUses :: t.extensionUses =
    (Member.all host extensions l).map (fun m => m.uses host.grammar)

theorem zipWith_usesOf (grammar : Grammar) (members : List Member) :
    List.zipWith (usesOf grammar) members (members.map (fun m => m.placed grammar)) =
      members.map (fun m => m.uses grammar) := by
  rw [List.zipWith_map_right, List.zipWith_self]
  exact List.map_congr_left (fun m _ => m.usesOf_placed grammar)

theorem copy_eq_ok_iff (laid : Layout.Laid host extensions l) :
    copy host extensions l = .ok t ↔ Merged host extensions l t := by
  have spec : ∀ m ∈ Member.all host extensions l, ∀ rows,
      copyMember l host.grammar m = .ok rows ↔
        m.WellFormed host.grammar l.hostStates ∧ m.placed host.grammar = rows :=
    fun m inside rows => copyMember_eq_ok_iff (Member.room_of_mem laid inside) rows
  simp only [copy, bind_eq_ok_iff, pure_eq_ok_iff, mapM_eq_ok_iff_map _ spec, and_assoc,
    exists_and_left, exists_eq_left', zipWith_usesOf]
  constructor
  · intro given
    obtain ⟨wellFormed, rfl⟩ := given
    exact ⟨wellFormed, List.map_map, List.map_map, rfl⟩
  · intro given
    obtain ⟨wellFormed, cells, layouts, uses⟩ := given
    refine ⟨wellFormed, ?_⟩
    obtain ⟨_, _, _, _⟩ := t
    dsimp only at *
    rw [cells, layouts, ← uses, List.map_map, List.map_map]
    rfl

/-- Copying succeeds exactly on fragments that can be translated. -/
theorem exists_copy_iff (laid : Layout.Laid host extensions l) :
    (∃ t, copy host extensions l = .ok t) ↔
      ∀ m ∈ Member.all host extensions l, m.WellFormed host.grammar l.hostStates := by
  simp only [copy_eq_ok_iff laid]
  constructor
  · intro given
    obtain ⟨t, merged⟩ := given
    exact merged.wellFormed
  · intro wellFormed
    exact ⟨⟨_, _, _, _⟩, wellFormed, rfl, rfl, rfl⟩

theorem keys_placements (laid : Layout.Laid host extensions l) :
    (placements host extensions l).map Prod.fst = List.range l.totalStates := by
  rw [← Member.flatMap_rows_all laid, placements, List.map_flatMap]
  congr 1
  funext m
  exact m.keys_placed host.grammar

/-- A row that no other state was placed on holds just the one state. -/
theorem placedOn_of_mem {placed : List (Nat × CopiedState)} {row : Nat} {copied : CopiedState}
    (distinct : (placed.map Prod.fst).Nodup) (inside : (row, copied) ∈ placed) :
    placedOn placed row = [copied] := by
  unfold placedOn
  induction placed with
  | nil => cases inside
  | cons first rest ih =>
    rw [List.map_cons, List.nodup_cons] at distinct
    rcases List.mem_cons.mp inside with rfl | later
    · have none : rest.filter (fun entry => entry.1 == row) = [] := by
        rw [List.filter_eq_nil_iff]
        intro entry found same
        exact distinct.1 (List.mem_map.mpr ⟨entry, found, eq_of_beq same⟩)
      rw [List.filter_cons, if_pos (beq_self_eq_true row), none]
      rfl
    · have other : first.1 ≠ row := fun same =>
        distinct.1 (List.mem_map.mpr ⟨_, later, same.symm⟩)
      rw [List.filter_cons, if_neg (fun same => other (eq_of_beq same))]
      exact ih distinct.2 later

/-- Only the one state is placed on the row of a state. -/
theorem placedOn_placements (laid : Layout.Laid host extensions l) {m : Member}
    (member : m ∈ Member.all host extensions l) {s : Nat} (inside : s < m.fragment.size) :
    placedOn (placements host extensions l) (s + m.offset) = [m.copied host.grammar s] := by
  apply placedOn_of_mem
  · -- The members are stacked, so the rows are those of the whole table, each of them once.
    rw [keys_placements laid]
    exact List.nodup_range
  · refine List.mem_flatMap.mpr ⟨m, member, ?_⟩
    exact List.mem_map.mpr ⟨s, List.mem_range.mpr inside, rfl⟩

theorem Merged.getElem?_cells (merged : Merged host extensions l t)
    (laid : Layout.Laid host extensions l) {m : Member}
    (member : m ∈ Member.all host extensions l) {s : Nat} (inside : s < m.fragment.size) :
    t.cells[s + m.offset]? = some (denseRow l.width (m.copied host.grammar s).cells) := by
  have below := Member.offset_add_size_le laid member
  rw [merged.cells, List.getElem?_map, List.getElem?_range (by omega), Option.map_some,
    placedOn_placements laid member inside]
  simp [mergedRow]

theorem Merged.getElem?_layouts (merged : Merged host extensions l t)
    (laid : Layout.Laid host extensions l) {m : Member}
    (member : m ∈ Member.all host extensions l) {s : Nat} (inside : s < m.fragment.size) :
    t.layouts[s + m.offset]? = some (m.fragment.layout s) := by
  have below := Member.offset_add_size_le laid member
  rw [merged.layouts, List.getElem?_map, List.getElem?_range (by omega), Option.map_some,
    placedOn_placements laid member inside]
  simp [mergedLayout, OrderedSet.union_empty, Member.copied]

theorem getElem?_denseRow (width : Nat) (cells : List (Nat × UInt32)) (column : Nat) :
    (denseRow width cells)[column]? =
      if column < width then some ((cells.lookup column).getD 0) else none := by
  rw [denseRow, List.getElem?_map]
  by_cases inside : column < width
  · rw [List.getElem?_range inside, if_pos inside]
    rfl
  · rw [List.getElem?_eq_none (by simpa using inside), if_neg inside]
    rfl

end MergedTables

end ParserSplice
