import ParserSplice.Proofs.Engine.Building
import ParserSplice.Proofs.Partition.StateNumbering

set_option autoImplicit false

namespace ParserSplice

theorem ExtensionBundle.partitioned_ok {b : ExtensionBundle} {host : Grammar}
    {e : ExtensionFragment} (split : b.partitioned host = .ok e) :
    Partition.build b.grammar b.symbolTable host b.hostStates b.extensionStates =
      .ok e.partition := by
  obtain ⟨p, built, same⟩ := (bind_eq_ok_iff _ _ _).mp split
  rw [← (pure_eq_ok_iff _ _).mp same]
  exact built

theorem Composition.fragments_ok {c : Composition} {host : HostFragment}
    {extensions : List ExtensionFragment} (parts : c.fragments = .ok (host, extensions)) :
    c.host = host ∧ List.Forall₂ (fun (b : ExtensionBundle) e =>
      b.partitioned host.grammar = .ok e) c.extensions extensions := by
  obtain ⟨found, run, same⟩ := (bind_eq_ok_iff _ _ _).mp parts
  cases (pure_eq_ok_iff _ _).mp same
  exact ⟨rfl, (mapM_eq_ok_iff _ _ _).mp run⟩

namespace ExtensionFragment

variable (e : ExtensionFragment) (offset : Nat)

/-- The merged row for a composed state, when the rows of the extension start at an offset. -/
def row? (s : Nat) : Option Nat :=
  (e.partition.state? s).map (Member.ofExtension e offset).place

/-- A merged row for a composed state that the extension owns. -/
def OwnRow (row : Nat) : Prop :=
  ∃ s word, e.partition.state? s = some (.extension word) ∧ word.toNat + offset = row

/-- The composed states have merged rows of their own, and those that the extension owns have just
the rows of the extension. -/
structure StatesAgree (total : Nat) : Prop where
  sized : e.size = e.partition.extensionStates.size
  injective : ∀ s s' row, e.row? offset s = some row → e.row? offset s' = some row → s = s'
  inside : ∀ s row, e.row? offset s = some row → row < total
  own : ∀ row, e.OwnRow offset row ↔ offset ≤ row ∧ row < offset + e.size

variable {e offset}

theorem row?_eq_some_iff (s row : Nat) : e.row? offset s = some row ↔
    (∃ word, e.partition.state? s = some (.host word) ∧ word.toNat = row) ∨
      ∃ word, e.partition.state? s = some (.extension word) ∧ word.toNat + offset = row := by
  rw [row?, Option.map_eq_some_iff]
  constructor
  · intro given
    obtain ⟨h | k, found, rfl⟩ := given
    · exact Or.inl ⟨h, found, rfl⟩
    · exact Or.inr ⟨k, found, rfl⟩
  · intro given
    rcases given with ⟨h, found, rfl⟩ | ⟨k, found, rfl⟩
    · exact ⟨_, found, rfl⟩
    · exact ⟨_, found, rfl⟩

variable {hostStates : OrderedMap Nat} {extensionStates : IndexSet} {total : Nat}
  (n : StatePartition.Numbers hostStates extensionStates e.partition.states)

include n

theorem ownRow_iff (row : Nat) : e.OwnRow offset row ↔
    offset ≤ row ∧ row < offset + extensionStates.size := by
  constructor
  · intro given
    obtain ⟨s, word, found, rfl⟩ := given
    have bound := n.lt_size found
    omega
  · intro given
    obtain ⟨lower, upper⟩ := given
    obtain ⟨s, word, place, found⟩ :=
      n.exists_word_of_lt (show row - offset < extensionStates.size by omega)
    exact ⟨s, word, found, by omega⟩

/-- The states that a host number is given to have its row. -/
theorem row?_of_host {s h : Nat} (fits : h < UInt32.size) (found : hostStates.get? s = some h) :
    e.row? offset s = some h := by
  have value : (UInt32.ofNat h).toNat = h := UInt32.toNat_ofNat_of_lt' fits
  exact (row?_eq_some_iff s h).mpr
    (Or.inl ⟨UInt32.ofNat h, (n.ofHost s _).mpr (value.symm ▸ found), value⟩)

theorem statesAgree_iff (fits : ∀ s h, hostStates.get? s = some h → h < UInt32.size)
    (same : e.partition.extensionStates = extensionStates) (room : offset + e.size ≤ total) :
    e.StatesAgree offset total ↔ e.size = extensionStates.size ∧
      (∀ s s' h, hostStates.get? s = some h → hostStates.get? s' = some h → s = s') ∧
      ∀ s h, hostStates.get? s = some h → h < total ∧ (h < offset ∨ offset + e.size ≤ h) := by
  constructor
  · intro agree
    refine ⟨same ▸ agree.sized, fun s s' h first second => ?_, fun s h found => ?_⟩
    · exact agree.injective s s' h (row?_of_host n (fits s h first) first)
        (row?_of_host n (fits s' h second) second)
    · have row : e.row? offset s = some h := row?_of_host n (fits s h found) found
      refine ⟨agree.inside s h row, ?_⟩
      by_contra within
      -- A host number among the rows of the extension is the row of an extension state too.
      obtain ⟨s', word, own, place⟩ := (agree.own h).mpr (by omega)
      have equal := agree.injective s s' h row ((row?_eq_some_iff s' h).mpr (Or.inr ⟨word, own, place⟩))
      have listed := List.mem_of_getElem? ((n.ofExtension s' word).mp own)
      rw [← equal] at listed
      rw [n.apart s listed] at found
      cases found
  · intro given
    obtain ⟨sized, distinct, outside⟩ := given
    refine ⟨same.symm ▸ sized, fun s s' row first second => ?_, fun s row found => ?_, fun row => ?_⟩
    · rcases (row?_eq_some_iff s row).mp first with ⟨h, hosted, rfl⟩ | ⟨k, own, rfl⟩
      · have free := outside s _ ((n.ofHost s h).mp hosted)
        rcases (row?_eq_some_iff s' _).mp second with ⟨h', hosted', equal⟩ | ⟨k', own', equal⟩
        · exact distinct s s' _ ((n.ofHost s h).mp hosted) (equal ▸ (n.ofHost s' h').mp hosted')
        · have bound := n.lt_size own'
          omega
      · have bound := n.lt_size own
        rcases (row?_eq_some_iff s' _).mp second with ⟨h', hosted', equal⟩ | ⟨k', own', equal⟩
        · have free := outside s' _ ((n.ofHost s' h').mp hosted')
          omega
        · obtain rfl : k' = k := UInt32.toNat_inj.mp (Nat.add_right_cancel equal)
          exact n.extension_unique own own'
    · rcases (row?_eq_some_iff s row).mp found with ⟨h, hosted, rfl⟩ | ⟨k, own, rfl⟩
      · exact (outside s _ ((n.ofHost s h).mp hosted)).1
      · have bound := n.lt_size own
        omega
    · rw [ownRow_iff n, sized]

end ExtensionFragment

/-- How the composed states of a bundle stand in the merged table. -/
structure PlacesStates (b : ExtensionBundle) (e : ExtensionFragment) (offset total : Nat) : Prop where
  ofHost : ∀ s word, e.partition.state? s = some (.host word) ↔
    b.hostStates.get? s = some word.toNat
  ofExtension : ∀ s word, e.partition.state? s = some (.extension word) ↔
    b.extensionStates.elems[word.toNat]? = some s
  ownRows : ∀ row, e.OwnRow offset row ↔ offset ≤ row ∧ row < offset + b.extensionStates.size
  agree : e.StatesAgree offset total ↔ e.size = b.extensionStates.size ∧
    (∀ s s' h, b.hostStates.get? s = some h → b.hostStates.get? s' = some h → s = s') ∧
    ∀ s h, b.hostStates.get? s = some h → h < total ∧ (h < offset ∨ offset + e.size ≤ h)

namespace Engine

variable {host : HostFragment} {extensions : List ExtensionFragment}

/-- The states that a bundle owns take up consecutive rows. They agree with the merged table exactly
if the bundle's table has as many rows and its host states have rows of their own elsewhere. -/
theorem placesStates_of_build
    {scan : OrderedMap String → Except CompositionError (ScannerTable × ScannerSets)}
    {c : Composition} {engine : Engine}
    (parts : c.fragments = .ok (host, extensions))
    (built : buildBy scan host extensions = .ok engine) :
    ∀ (i : Nat) b, c.extensions[i]? = some b → ∃ e offset, extensions[i]? = some e ∧
      engine.layout.offsets[i]? = some offset ∧
      PlacesStates b e offset engine.layout.totalStates := by
  intro i b listed
  obtain ⟨_, paired⟩ := Composition.fragments_ok parts
  obtain ⟨e, found, split⟩ := exists_result_of_getElem? paired i b listed
  have laid := Layout.compute_eq_ok_iff.mp ((buildBy_eq_ok_iff engine).mp built).1
  have inside := (List.getElem?_eq_some_iff.mp found).1
  have room := Member.offset_add_size_le laid (Member.ofExtension_mem_all found)
  have b' := Partition.build_eq_ok_iff.mp (ExtensionBundle.partitioned_ok split)
  have n := StatePartition.build_numbers b'.states
  refine ⟨e, engine.layout.offset i, found, laid.getElem?_offsets i inside, ?_⟩
  exact ⟨n.ofHost, n.ofExtension, ExtensionFragment.ownRow_iff n,
    ExtensionFragment.statesAgree_iff n n.hostFits b'.extensionStates room⟩

theorem exists_blankScanner : ∃ scanner, Scanner.build (.ofList []) = .ok scanner := ⟨_, rfl⟩

/-- A bundle for the host with the one statement `x`. It owns the composed states 3 and 4, and its
table has some rows. -/
def statesBundle (rows : List (OrderedMap FragmentAction)) : ExtensionBundle where
  name := "ext"
  grammar := Partition.statementHost
  symbolTable := ⟨Partition.extendedTable.symbols.take 4⟩
  hostStates := .ofList [(0, 0), (1, 1), (2, 2)]
  extensionStates := .ofList [3, 4]
  table := ⟨rows⟩

def statesComposition (rows : List (OrderedMap FragmentAction)) : Composition :=
  ⟨MergedTables.statementFragment, [statesBundle rows]⟩

def statesFragment (rows : List (OrderedMap FragmentAction)) : ExtensionFragment where
  name := "ext"
  partition := ((statesBundle []).partitioned Partition.statementHost).toOption.get rfl |>.partition
  table := ⟨rows⟩
  markings := ∅

/-- With a row for each of its states the bundle agrees with the merged table. -/
theorem placesStates_statesBundle : ∃ engine,
    (statesComposition [∅, ∅]).fragments =
      .ok (MergedTables.statementFragment, [statesFragment [∅, ∅]]) ∧
    buildBy Scanner.build MergedTables.statementFragment [statesFragment [∅, ∅]] = .ok engine ∧
    PlacesStates (statesBundle [∅, ∅]) (statesFragment [∅, ∅]) 3 engine.layout.totalStates ∧
    (statesFragment [∅, ∅]).row? 3 4 = some 4 ∧ engine.layout.totalStates = 5 := by
  have parts : (statesComposition [∅, ∅]).fragments =
      .ok (MergedTables.statementFragment, [statesFragment [∅, ∅]]) := rfl
  have computed :
      Layout.compute MergedTables.statementFragment [statesFragment [∅, ∅]] = .ok _ := rfl
  obtain ⟨engine, built, layout, _⟩ := exists_buildBy computed rfl rfl rfl exists_blankScanner
  obtain ⟨_, _, found, starts, places⟩ := placesStates_of_build parts built 0 _ rfl
  cases found
  have states : engine.layout.totalStates = 5 := by
    rw [layout]
    rfl
  have offset : engine.layout.offsets[0]? = some 3 := by
    rw [layout]
    rfl
  obtain rfl := Option.some.inj (offset.symm.trans starts)
  exact ⟨engine, parts, built, places, rfl, states⟩

/-- With only one row, state 4 is numbered past the merged table. -/
theorem unplaced_statesBundle : ∃ engine,
    (statesComposition [∅]).fragments =
      .ok (MergedTables.statementFragment, [statesFragment [∅]]) ∧
    buildBy Scanner.build MergedTables.statementFragment [statesFragment [∅]] = .ok engine ∧
    (statesFragment [∅]).size = 1 ∧ (statesFragment [∅]).partition.extensionStates.size = 2 ∧
    (statesFragment [∅]).row? 3 4 = some 4 ∧ engine.layout.totalStates = 4 ∧
    ¬ (statesFragment [∅]).StatesAgree 3 engine.layout.totalStates := by
  have computed : Layout.compute MergedTables.statementFragment [statesFragment [∅]] = .ok _ := rfl
  obtain ⟨engine, built, layout, _⟩ := exists_buildBy computed rfl rfl rfl exists_blankScanner
  refine ⟨engine, rfl, built, rfl, rfl, rfl, ?_, fun agree => ?_⟩
  · rw [layout]
    rfl
  · cases agree.sized

end Engine

end ParserSplice
