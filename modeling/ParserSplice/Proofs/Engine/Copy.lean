import ParserSplice.Proofs.Engine.Rows
import ParserSplice.Proofs.Partition.Bijection

set_option autoImplicit false

namespace ParserSplice

namespace Member

variable (m : Member) (host : Grammar)

def Carries (column : Nat) : FragmentAction → Prop
  | .error => False
  | .accept => m.owner.classify host column = some .terminal ∧ column = host.endOfInput
  | .shift _ => m.owner.classify host column = some .terminal
  | .reduce _ => m.owner.classify host column = some .terminal
  | .goto _ => m.owner.classify host column = some .nonterminal

theorem merged_eq_error {column : Nat} {action : FragmentAction}
    (senseless : ¬ m.Carries host column action) : m.merged host column action = .error := by
  unfold merged
  split
  · next found =>
    by_cases atEnd : column = host.endOfInput
    · exact absurd ⟨found, atEnd⟩ senseless
    · rw [if_neg atEnd]
  · next found => exact absurd found senseless
  · next found => exact absurd found senseless
  · next found => exact absurd found senseless
  · rfl

theorem copied_lookup (state column : Nat) :
    ((m.copied host state).cells.lookup column).getD 0 =
      (m.merged host column (m.fragment.table.action state column)).packed := by
  rw [copied, lookup_map_values _ (fun c a => (m.merged host c a).packed), FragmentTable.action,
    OrderedMap.get?]
  cases (m.fragment.table.row state).entries.lookup column with
  | none => exact congrArg EngineAction.packed (m.merged_error host column).symm
  | some action => rfl

variable {m} {host} {l : Layout}

theorem merged_fits (room : m.Room host l) {column : Nat} {action : FragmentAction}
    (fits : m.EntryFits host l.hostStates (column, action)) :
    (m.merged host column action).parameter.toNat ≤ EngineAction.maxParameter.toNat := by
  have small : ∀ n ≤ EngineAction.maxParameter.toNat,
      (UInt32.ofNat n).toNat ≤ EngineAction.maxParameter.toNat := by
    intro n bound
    rwa [EngineAction.toNat_ofNat_of_le bound]
  unfold EntryFits at fits
  unfold merged
  split
  · split <;> exact Nat.zero_le _
  · next target found =>
    simp only [found] at fits
    exact small _ (place_le room fits)
  · next production found =>
    simp only [found] at fits
    exact small _ fits
  · next target found =>
    simp only [found] at fits
    exact small _ (place_le room fits)
  · exact Nat.zero_le _

theorem entryFits_of_action {state column : Nat} {action : FragmentAction}
    (fits : m.StateFits host l.hostStates state)
    (found : m.fragment.table.action state column = action) (sensible : action ≠ .error) :
    m.EntryFits host l.hostStates (column, action) := by
  rw [FragmentTable.action] at found
  cases listed : (m.fragment.table.row state).get? column with
  | none =>
    rw [listed, Option.getD_none] at found
    exact absurd found.symm sensible
  | some other =>
    rw [listed, Option.getD_some] at found
    rw [← found]
    exact fits.entries _ ((OrderedMap.get?_eq_some_iff _ _ _).mp listed)

/-- What a state does on a column can be packed, whether or not the column has an entry. -/
theorem merged_action_fits (room : m.Room host l) {state : Nat}
    (fits : m.StateFits host l.hostStates state) (column : Nat) :
    (m.merged host column (m.fragment.table.action state column)).parameter.toNat ≤
      EngineAction.maxParameter.toNat := by
  rw [FragmentTable.action]
  cases found : (m.fragment.table.row state).get? column with
  | none =>
    rw [Option.getD_none, merged_error]
    exact Nat.zero_le _
  | some action =>
    exact merged_fits room (fits.entries _ ((OrderedMap.get?_eq_some_iff _ _ _).mp found))

/-- Columns past the ordinary ones have no entries. -/
theorem get?_eq_none_of_le (room : m.Room host l) {state column : Nat}
    (fits : m.StateFits host l.hostStates state) (past : l.ordinaryColumns ≤ column) :
    (m.fragment.table.row state).get? column = none := by
  rw [Option.eq_none_iff_forall_ne_some]
  intro action found
  have entry := fits.entries _ ((OrderedMap.get?_eq_some_iff _ _ _).mp found)
  unfold EntryFits at entry
  cases classified : m.owner.classify host column with
  | none => simp only [classified] at entry
  | some kind =>
    have inside := room.columns column kind classified
    omega

end Member

namespace MergedTables

variable {host : HostFragment} {extensions : List ExtensionFragment} {l : Layout}
  {t : MergedTables} {m : Member} {state : Nat}

def cell? (t : MergedTables) (row column : Nat) : Option UInt32 :=
  (t.cells[row]?).bind (fun cells => cells[column]?)

/-- Tables with the same cell do the same there. -/
theorem action_congr {t t' : MergedTables} {row column : Nat}
    (same : t'.cell? row column = t.cell? row column) :
    t'.action row column = t.action row column :=
  congrArg (fun cell : Option UInt32 => EngineAction.decode (cell.getD 0)) same

theorem Merged.cell?_eq (merged : Merged host extensions l t) (laid : Layout.Laid host extensions l)
    (member : m ∈ Member.all host extensions l) (inside : state < m.fragment.size)
    (column : Nat) (within : column < l.width) :
    t.cell? (state + m.offset) column = some
      (m.merged host.grammar column (m.fragment.table.action state column)).packed := by
  rw [cell?, merged.getElem?_cells laid member inside, Option.bind_some, getElem?_denseRow,
    if_pos within, Member.copied_lookup]

/-- On every column a merged row does what its state does, translated. -/
theorem Merged.action_eq (merged : Merged host extensions l t)
    (laid : Layout.Laid host extensions l) (member : m ∈ Member.all host extensions l)
    (inside : state < m.fragment.size) (column : Nat) :
    t.action (state + m.offset) column =
      m.merged host.grammar column (m.fragment.table.action state column) := by
  have room := Member.room_of_mem laid member
  have fits := merged.wellFormed m member state inside
  have read : t.action (state + m.offset) column =
      EngineAction.decode ((t.cell? (state + m.offset) column).getD 0) := rfl
  rw [read]
  by_cases within : column < l.width
  · rw [merged.cell?_eq laid member inside column within]
    exact EngineAction.decode_packed _ (Member.merged_action_fits room fits column)
  · have past : l.ordinaryColumns ≤ column :=
      Nat.le_trans laid.ordinaryColumns_le (Nat.le_of_not_lt within)
    have unset := Member.get?_eq_none_of_le room fits past
    rw [FragmentTable.action, unset, Option.getD_none, Member.merged_error, cell?,
      merged.getElem?_cells laid member inside, Option.bind_some, getElem?_denseRow,
      if_neg within]
    rfl

end MergedTables

/-- A fragment stands in the merged table with its own actions, translated, and its layout sets. -/
structure Member.CopiedInto (m : Member) (host : Grammar) (l : Layout) (t : MergedTables) :
    Prop where
  inside : m.offset + m.fragment.size ≤ l.totalStates
  accept : ∀ s < m.fragment.size, ∀ c, m.fragment.table.action s c = .accept →
    m.owner.classify host c = some .terminal → c = host.endOfInput →
      t.action (s + m.offset) c = .accept
  shift : ∀ s < m.fragment.size, ∀ c d, m.fragment.table.action s c = .shift d →
    m.owner.classify host c = some .terminal → ∃ target : UInt32, target.toNat = m.place d ∧
      m.place d < l.totalStates ∧ t.action (s + m.offset) c = .shift target
  reduce : ∀ s < m.fragment.size, ∀ c p, m.fragment.table.action s c = .reduce p →
    m.owner.classify host c = some .terminal → ∃ production : UInt32, production.toNat = p ∧
      t.action (s + m.offset) c = .reduce production
  goto : ∀ s < m.fragment.size, ∀ c d, m.fragment.table.action s c = .goto d →
    m.owner.classify host c = some .nonterminal → ∃ target : UInt32, target.toNat = m.place d ∧
      m.place d < l.totalStates ∧ t.action (s + m.offset) c = .goto target
  otherwise : ∀ s < m.fragment.size, ∀ c < l.width,
    ¬ m.Carries host c (m.fragment.table.action s c) →
      t.cell? (s + m.offset) c = some 0 ∧ t.action (s + m.offset) c = .error
  missing : ∀ s < m.fragment.size, ∀ c < l.width, (m.fragment.table.row s).get? c = none →
    t.cell? (s + m.offset) c = some 0
  past : ∀ s < m.fragment.size, ∀ c < l.width, l.ordinaryColumns ≤ c →
    t.cell? (s + m.offset) c = some 0
  layout : ∀ s < m.fragment.size, t.layouts[s + m.offset]? = some (m.fragment.layout s)

namespace MergedTables

variable {host : HostFragment} {extensions : List ExtensionFragment} {l : Layout}
  {t : MergedTables} {m : Member}

theorem Merged.copiedInto (merged : Merged host extensions l t)
    (laid : Layout.Laid host extensions l) (member : m ∈ Member.all host extensions l) :
    m.CopiedInto host.grammar l t := by
  have room := Member.room_of_mem laid member
  have total := Member.offset_add_size_le laid member
  have act : ∀ s < m.fragment.size, ∀ c a, m.fragment.table.action s c = a →
      t.action (s + m.offset) c = m.merged host.grammar c a := by
    intro s inside c a same
    rw [merged.action_eq laid member inside, same]
  have cell : ∀ s < m.fragment.size, ∀ c < l.width,
      ¬ m.Carries host.grammar c (m.fragment.table.action s c) →
        t.cell? (s + m.offset) c = some 0 := by
    intro s inside c within senseless
    rw [merged.cell?_eq laid member inside c within, m.merged_eq_error _ senseless]
    rfl
  have unset : ∀ s < m.fragment.size, ∀ c < l.width,
      (m.fragment.table.row s).get? c = none → t.cell? (s + m.offset) c = some 0 := by
    intro s inside c within absent
    apply cell s inside c within
    rw [FragmentTable.action, absent]
    exact id
  have fits : ∀ s < m.fragment.size, ∀ c a, m.fragment.table.action s c = a → a ≠ .error →
      m.EntryFits host.grammar l.hostStates (c, a) :=
    fun s inside c a => Member.entryFits_of_action (merged.wellFormed m member s inside)
  have target : ∀ d, m.Reaches l.hostStates d →
      (UInt32.ofNat (m.place d)).toNat = m.place d ∧ m.place d < l.totalStates :=
    fun d reached => ⟨EngineAction.toNat_ofNat_of_le (Member.place_le room reached),
      Member.place_lt laid member reached⟩
  refine {
    inside := total
    accept := fun s inside c found terminal atEnd => ?_
    shift := fun s inside c d found terminal => ?_
    reduce := fun s inside c p found terminal => ?_
    goto := fun s inside c d found nonterminal => ?_
    otherwise := fun s inside c within senseless => ⟨cell s inside c within senseless, ?_⟩
    missing := unset
    past := fun s inside c within past => ?_
    layout := fun s inside => merged.getElem?_layouts laid member inside }
  · rw [act s inside c _ found]
    simp only [Member.merged, terminal, if_pos atEnd]
  · have entry := fits s inside c _ found (by simp)
    simp only [Member.EntryFits, terminal] at entry
    rw [act s inside c _ found]
    refine ⟨_, (target d entry).1, (target d entry).2, ?_⟩
    simp [Member.merged, terminal]
  · have entry := fits s inside c _ found (by simp)
    simp only [Member.EntryFits, terminal] at entry
    rw [act s inside c _ found]
    refine ⟨_, EngineAction.toNat_ofNat_of_le entry, ?_⟩
    simp [Member.merged, terminal]
  · have entry := fits s inside c _ found (by simp)
    simp only [Member.EntryFits, nonterminal] at entry
    rw [act s inside c _ found]
    refine ⟨_, (target d entry).1, (target d entry).2, ?_⟩
    simp [Member.merged, nonterminal]
  · rw [act s inside c _ rfl]
    exact m.merged_eq_error _ senseless
  · apply unset s inside c within
    exact Member.get?_eq_none_of_le room (merged.wellFormed m member s inside) past

/-- The merged table is the translation of the fragment tables and nothing else. -/
structure Translates (t : MergedTables) (host : HostFragment) (extensions : List ExtensionFragment)
    (l : Layout) : Prop where
  rows : t.cells.length = l.totalStates
  columns : ∀ row ∈ t.cells, row.length = l.width
  ofHost : (Member.ofHost host).CopiedInto host.grammar l t
  ofExtension : ∀ (i : Nat) e, extensions[i]? = some e → ∃ offset : Nat,
    l.offsets[i]? = some offset ∧ (Member.ofExtension e offset).CopiedInto host.grammar l t
  covered : ∀ row < l.totalStates, ∃ m ∈ Member.all host extensions l,
    ∃ s < m.fragment.size, s + m.offset = row

/-- Merged tables that could be computed translate the fragment tables. -/
theorem translates_of_copy (computed : Layout.compute host extensions = .ok l)
    (copied : copy host extensions l = .ok t) : t.Translates host extensions l := by
  have laid := Layout.compute_eq_ok_iff.mp computed
  have merged := (copy_eq_ok_iff laid).mp copied
  refine {
    rows := ?_
    columns := fun row inside => ?_
    ofHost := merged.copiedInto laid Member.ofHost_mem_all
    ofExtension := fun i e found => ⟨l.offset i, ?_, ?_⟩
    covered := Member.exists_of_lt_totalStates laid }
  · rw [merged.cells, List.length_map, List.length_range]
  · rw [merged.cells] at inside
    obtain ⟨_, _, rfl⟩ := List.mem_map.mp inside
    exact length_denseRow _ _
  · exact laid.getElem?_offsets i (List.getElem?_eq_some_iff.mp found).1
  · exact merged.copiedInto laid (Member.ofExtension_mem_all found)

/-- The tables of the host with the one statement `x`. -/
def statementFragment : HostFragment where
  grammar := Partition.statementHost
  table := ⟨[.ofList [(1, .shift (.host 1)), (2, .goto (.host 2))], .ofList [(0, .reduce 3)],
    .ofList [(0, .accept), (1, .accept)]]⟩

/-- An extension that shifts into its own states and back into the host. -/
def markedFragment : ExtensionFragment where
  name := "ext"
  partition := Partition.extendedPartition.toOption.get rfl
  table := ⟨[.ofList [(1, .shift (.host 1)), (4, .shift (.extension 1)), (6, .goto (.extension 1))],
    .ofList [(0, .reduce 9)]]⟩
  layouts := [.ofList [5]]
  markings := .ofList [(1, ⟨2, .extension 0, "@"⟩)]

theorem translates_markedFragment : ∃ l t,
    Layout.compute statementFragment [markedFragment] = .ok l ∧
    copy statementFragment [markedFragment] l = .ok t ∧ t.action 3 6 = .goto 4 ∧
    t.Translates statementFragment [markedFragment] l :=
  ⟨_, _, rfl, rfl, rfl, translates_of_copy rfl rfl⟩

end MergedTables

end ParserSplice
