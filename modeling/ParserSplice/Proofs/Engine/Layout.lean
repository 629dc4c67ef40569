import Mathlib.Algebra.GroupWithZero.Nat
import Mathlib.Algebra.Order.BigOperators.Group.List
import Mathlib.Algebra.Order.Group.Nat
import ParserSplice.Engine.Tables
import ParserSplice.Proofs.Ordered
import ParserSplice.Proofs.Traversal

set_option autoImplicit false

namespace ParserSplice

namespace Layout

/-- What a layout that could be computed consists of. -/
structure Laid (host : HostFragment) (extensions : List ExtensionFragment) (l : Layout) : Prop where
  hostStates : l.hostStates = host.size
  counts : l.counts = extensions.map (fun e => e.size)
  offsets : l.offsets = offsetsFrom host.size (extensions.map (fun e => e.size))
  totalStates : l.totalStates = host.size + (extensions.map (fun e => e.size)).sum
  ordinaryColumns : l.ordinaryColumns =
    (extensions.map (fun e => e.partition.tableWidth)).foldl max host.grammar.tableWidth
  width : l.width = l.ordinaryColumns + l.markings.length
  markings : ∃ placed, (extensions.zip l.offsets).zipIdx.mapM (placeMarkings host) = .ok placed ∧
    l.markings = placed.flatten.zipIdx.map (fun entry => entry.1 (l.ordinaryColumns + entry.2))
  fits : max l.totalStates l.width ≤ EngineAction.maxParameter.toNat

variable {host : HostFragment} {extensions : List ExtensionFragment} {l : Layout}

theorem compute_eq_ok_iff : compute host extensions = .ok l ↔ Laid host extensions l := by
  simp only [compute, bind_eq_ok_iff]
  constructor
  · intro given
    obtain ⟨placed, run, finished⟩ := given
    split at finished
    · cases finished
    · next fits =>
      cases finished
      exact ⟨rfl, rfl, rfl, rfl, rfl, rfl, ⟨placed, run, rfl⟩, Nat.le_of_not_lt fits⟩
  · intro given
    obtain ⟨hostStates, counts, offsets, totalStates, ordinaryColumns, width, markings, fits⟩ :=
      given
    obtain ⟨placed, run, markings⟩ := markings
    obtain ⟨_, _, _, _, _, _, _⟩ := l
    dsimp only at *
    subst hostStates counts offsets totalStates ordinaryColumns markings width
    exact ⟨placed, run, if_neg (Nat.not_lt_of_le fits)⟩

theorem getElem?_offsetsFrom (start : Nat) (counts : List Nat) (i : Nat)
    (inside : i < counts.length) :
    (offsetsFrom start counts)[i]? = some (start + (counts.take i).sum) := by
  induction counts generalizing start i with
  | nil => simp at inside
  | cons count rest ih =>
    cases i with
    | zero => simp [offsetsFrom]
    | succ i =>
      have later := ih (start + count) i (by simpa using inside)
      simpa [offsetsFrom, Nat.add_assoc] using later

theorem offsetsFrom_add_le {start offset count i : Nat} {counts : List Nat}
    (placed : (offsetsFrom start counts)[i]? = some offset) (listed : counts[i]? = some count) :
    offset + count ≤ start + counts.sum := by
  induction counts generalizing start i with
  | nil => cases listed
  | cons first rest ih =>
    rw [List.sum_cons]
    cases i with
    | zero =>
      cases placed
      cases listed
      omega
    | succ i =>
      have later := ih placed listed
      omega

theorem Laid.offset_eq (laid : Laid host extensions l) (i : Nat) (inside : i < extensions.length) :
    l.offset i = host.size + ((extensions.take i).map (fun e => e.size)).sum := by
  rw [offset, laid.offsets, getElem?_offsetsFrom _ _ _ (by simpa using inside), List.map_take]
  rfl

theorem Laid.getElem?_offsets (laid : Laid host extensions l) (i : Nat)
    (inside : i < extensions.length) : l.offsets[i]? = some (l.offset i) := by
  rw [laid.offset_eq i inside, laid.offsets, getElem?_offsetsFrom _ _ _ (by simpa using inside),
    List.map_take]

theorem Laid.hostStates_le (laid : Laid host extensions l) : l.hostStates ≤ l.totalStates := by
  rw [laid.hostStates, laid.totalStates]
  omega

theorem Laid.totalStates_le (laid : Laid host extensions l) :
    l.totalStates ≤ EngineAction.maxParameter.toNat :=
  Nat.le_trans (Nat.le_max_left _ _) laid.fits

theorem Laid.ordinaryColumns_le (laid : Laid host extensions l) : l.ordinaryColumns ≤ l.width := by
  rw [laid.width]
  omega

theorem Laid.host_tableWidth_le (laid : Laid host extensions l) :
    host.grammar.tableWidth ≤ l.ordinaryColumns := by
  rw [laid.ordinaryColumns]
  exact (foldl_max_spec _ _).1

theorem Laid.extension_tableWidth_le (laid : Laid host extensions l) {e : ExtensionFragment}
    (inside : e ∈ extensions) : e.partition.tableWidth ≤ l.ordinaryColumns := by
  rw [laid.ordinaryColumns]
  exact (foldl_max_spec _ _).2.1 _ (List.mem_map_of_mem inside)

/-- A marking terminal hooks into the host and leads to a state that exists. -/
def Anchored (host : HostFragment) (e : ExtensionFragment) (m : MarkingTerminal) : Prop :=
  m.hook ∈ host.grammar.nonterminals ∧
    match m.entry with
    | .host h => h.toNat < host.size
    | .extension s => s.toNat < e.size

theorem exists_placeMarking_iff (index offset : Nat) (e : ExtensionFragment)
    (entry : Nat × MarkingTerminal) :
    (∃ place, placeMarking host index offset e entry = .ok place) ↔ Anchored host e entry.2 := by
  obtain ⟨terminal, hook, state, regex⟩ := entry
  simp only [placeMarking, Anchored]
  rw [← OrderedSet.contains_iff_mem]
  by_cases hooked : host.grammar.nonterminals.contains hook = true
  · simp only [hooked, ↓reduceIte, bind_eq_ok_iff, pure_eq_ok_iff, true_and]
    cases state with
    | host h => by_cases inside : h.toNat < host.size <;> simp [target, inside]
    | extension s => by_cases inside : s.toNat < e.size <;> simp [target, inside]
  · simp [hooked]

def markingCount (extensions : List ExtensionFragment) : Nat :=
  (extensions.map (fun e => e.markings.entries.length)).sum

theorem members_of_places (extensions : List ExtensionFragment) (offsets : List Nat)
    (same : offsets.length = extensions.length) :
    (extensions.zip offsets).zipIdx.map (fun member => member.1.1) = extensions := by
  calc (extensions.zip offsets).zipIdx.map (fun member => member.1.1)
    _ = ((extensions.zip offsets).zipIdx.map Prod.fst).map Prod.fst := by rw [List.map_map]; rfl
    _ = extensions := by rw [List.zipIdx_map_fst, List.map_fst_zip (Nat.le_of_eq same.symm)]

theorem length_placed {members : List ((ExtensionFragment × Nat) × Nat)}
    {placed : List (List (Nat → PlacedMarking))}
    (run : members.mapM (placeMarkings host) = .ok placed) :
    placed.flatten.length = markingCount (members.map (fun member => member.1.1)) := by
  have lengths : List.Forall₂ (fun (member : (ExtensionFragment × Nat) × Nat) places =>
      member.1.1.markings.entries.length = places.length) members placed :=
    ((mapM_eq_ok_iff _ _ _).mp run).imp
      (fun _ _ each => ((mapM_eq_ok_iff _ _ _).mp each).length_eq)
  have equal : members.map (fun member => member.1.1.markings.entries.length) =
      placed.map List.length := by
    rwa [← List.forall₂_eq_eq_eq, List.forall₂_map_left_iff, List.forall₂_map_right_iff]
  rw [List.length_flatten, ← equal, markingCount, List.map_map]
  rfl

theorem exists_placed_iff (extensions : List ExtensionFragment) (offsets : List Nat)
    (same : offsets.length = extensions.length) :
    (∃ placed, (extensions.zip offsets).zipIdx.mapM (placeMarkings host) = .ok placed) ↔
      ∀ e ∈ extensions, ∀ entry ∈ e.markings.entries, Anchored host e entry.2 := by
  simp only [exists_mapM_iff, placeMarkings, exists_placeMarking_iff]
  have members := members_of_places extensions offsets same
  constructor
  · intro each e inside
    rw [← members] at inside
    obtain ⟨member, found, rfl⟩ := List.mem_map.mp inside
    exact each member found
  · intro each member inside
    apply each
    rw [← members]
    exact List.mem_map_of_mem inside

/-- When a layout exists, said without computing one. -/
theorem exists_compute_iff : (∃ l, compute host extensions = .ok l) ↔
    (∀ e ∈ extensions, ∀ entry ∈ e.markings.entries, Anchored host e entry.2) ∧
      host.size + (extensions.map (fun e => e.size)).sum ≤ EngineAction.maxParameter.toNat ∧
      (extensions.map (fun e => e.partition.tableWidth)).foldl max host.grammar.tableWidth +
        markingCount extensions ≤ EngineAction.maxParameter.toNat := by
  have same : (offsetsFrom host.size (extensions.map (fun e => e.size))).length =
      extensions.length := by
    simp only [length_offsetsFrom, List.length_map]
  rw [← exists_placed_iff extensions _ same]
  constructor
  · intro given
    obtain ⟨l, computed⟩ := given
    have laid := compute_eq_ok_iff.mp computed
    obtain ⟨placed, run, markings⟩ := laid.markings
    rw [laid.offsets] at run
    have length := length_placed run
    rw [members_of_places extensions _ same] at length
    have fits := laid.fits
    rw [laid.totalStates, laid.width, laid.ordinaryColumns, markings, List.length_map,
      List.length_zipIdx, length] at fits
    exact ⟨⟨placed, run⟩, by omega, by omega⟩
  · intro given
    obtain ⟨⟨placed, run⟩, states, columns⟩ := given
    have length := length_placed run
    rw [members_of_places extensions _ same] at length
    let counts := extensions.map (fun e => e.size)
    let ordinary :=
      (extensions.map (fun e => e.partition.tableWidth)).foldl max host.grammar.tableWidth
    let markings := placed.flatten.zipIdx.map (fun entry => entry.1 (ordinary + entry.2))
    let l : Layout := ⟨host.size, offsetsFrom host.size counts, counts, host.size + counts.sum,
      ordinary, ordinary + markings.length, markings⟩
    have width : l.width = ordinary + markingCount extensions := by
      show ordinary + (List.map _ _).length = _
      rw [List.length_map, List.length_zipIdx, length]
    refine ⟨l, compute_eq_ok_iff.mpr ⟨rfl, rfl, rfl, rfl, rfl, rfl, ⟨placed, run, rfl⟩, ?_⟩⟩
    rw [width]
    exact Nat.max_le.mpr ⟨states, columns⟩

theorem sum_map_le_of_sublist (size : ExtensionFragment → Nat)
    {part extensions : List ExtensionFragment} (kept : part.Sublist extensions) :
    (part.map size).sum ≤ (extensions.map size).sum :=
  (kept.map size).sum_le_sum (fun _ _ => Nat.zero_le _)

/-- Leaving extensions out keeps a layout computable. -/
theorem exists_compute_of_sublist {part : List ExtensionFragment} (kept : part.Sublist extensions)
    (computed : ∃ l, compute host extensions = .ok l) : ∃ l, compute host part = .ok l := by
  rw [exists_compute_iff] at computed ⊢
  obtain ⟨anchored, states, columns⟩ := computed
  have fewerStates := sum_map_le_of_sublist (fun e => e.size) kept
  have fewerMarkings : markingCount part ≤ markingCount extensions :=
    sum_map_le_of_sublist (fun e => e.markings.entries.length) kept
  have narrower : (part.map (fun e => e.partition.tableWidth)).foldl max host.grammar.tableWidth ≤
      (extensions.map (fun e => e.partition.tableWidth)).foldl max host.grammar.tableWidth := by
    obtain ⟨above, bound, _⟩ := foldl_max_spec host.grammar.tableWidth
      (extensions.map (fun e => e.partition.tableWidth))
    obtain ⟨_, _, attained⟩ := foldl_max_spec host.grammar.tableWidth
      (part.map (fun e => e.partition.tableWidth))
    rcases attained with same | inside
    · omega
    · exact bound _ ((kept.map _).subset inside)
  refine ⟨fun e inside => anchored e (kept.subset inside), by omega, by omega⟩

end Layout

end ParserSplice
