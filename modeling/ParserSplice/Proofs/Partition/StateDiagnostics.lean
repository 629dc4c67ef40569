import Mathlib.Order.Bounds.Basic
import ParserSplice.Proofs.Partition.HostNumbers
import ParserSplice.Proofs.Partition.SymbolFaults

set_option autoImplicit false

namespace ParserSplice

/-- The numbers that a set leaves out although a larger one is among them. -/
def OrderedSet.gaps (keys : IndexSet) : Set Nat := {n | n ∉ keys ∧ ∃ m ∈ keys, n < m}

namespace StatePartition

section Gaps

variable {items : List Nat} {place n : Nat}

/-- The first number out of its place is too large for it, since those before it stand in theirs. -/
theorem lt_of_moved (sorted : Ascending items) (found : items[place]? = some n) (moved : n ≠ place)
    (dense : ∀ k, k < place → items[k]? = some k) : place < n := by
  cases place with
  | zero => omega
  | succ last =>
    obtain ⟨bound, value⟩ := List.getElem?_eq_some_iff.mp found
    obtain ⟨_, before⟩ := List.getElem?_eq_some_iff.mp (dense last (Nat.lt_succ_self last))
    have ascends := List.pairwise_iff_getElem.mp sorted last (last + 1) (by omega) bound (by omega)
    rw [before, value] at ascends
    have less : last < n := ascends
    omega

/-- The numbers behind the first one out of its place are larger still, so none fills the place. -/
theorem not_mem_of_moved (sorted : Ascending items) (found : items[place]? = some n)
    (moved : n ≠ place) (dense : ∀ k, k < place → items[k]? = some k) : place ∉ items := by
  intro inside
  obtain ⟨other, again⟩ := List.mem_iff_getElem?.mp inside
  rcases Nat.lt_trichotomy other place with before | rfl | behind
  · rw [dense other before, Option.some.injEq] at again
    omega
  · rw [found, Option.some.injEq] at again
    exact moved again
  · obtain ⟨bound, value⟩ := List.getElem?_eq_some_iff.mp found
    obtain ⟨further, last⟩ := List.getElem?_eq_some_iff.mp again
    have ascends := List.pairwise_iff_getElem.mp sorted place other bound further behind
    rw [value, last] at ascends
    exact absurd ascends (Nat.lt_asymm (lt_of_moved sorted found moved dense))

theorem firstGap_eq_some {gap : Nat} (found : firstGap items = some gap) :
    ∃ n, items[gap]? = some n ∧ n ≠ gap ∧ ∀ k, k < gap → items[k]? = some k := by
  obtain ⟨entry, first, rfl⟩ := Option.map_eq_some_iff.mp found
  obtain ⟨moved, i, bound, rfl, passed⟩ := List.find?_eq_some_iff_getElem.mp first
  rw [List.length_zipIdx] at bound
  simp only [List.getElem_zipIdx, Nat.zero_add, bne_iff_ne, ne_eq] at moved passed ⊢
  refine ⟨items[i], List.getElem?_eq_getElem bound, moved, fun k before => ?_⟩
  have stands : items[k] = k := by simpa using passed k before
  rw [List.getElem?_eq_getElem (by omega), stands]

theorem isLeast_of_firstGap {keys : IndexSet} {gap : Nat}
    (found : firstGap keys.elems = some gap) : IsLeast keys.gaps gap := by
  obtain ⟨n, value, moved, dense⟩ := firstGap_eq_some found
  have absent : gap ∉ keys := not_mem_of_moved keys.ascending value moved dense
  have above : gap < n := lt_of_moved keys.ascending value moved dense
  refine ⟨⟨absent, n, List.mem_of_getElem? value, above⟩, fun other missing => ?_⟩
  by_contra smaller
  exact missing.1 (List.mem_of_getElem? (dense other (Nat.lt_of_not_le smaller)))

/-- The gap that is found first is the smallest. -/
theorem firstGap_eq_some_iff (keys : IndexSet) (gap : Nat) :
    firstGap keys.elems = some gap ↔ IsLeast keys.gaps gap := by
  constructor
  · exact isLeast_of_firstGap
  · intro least
    cases found : firstGap keys.elems with
    | some other => rw [(isLeast_of_firstGap found).unique least]
    | none =>
      obtain ⟨count, first⟩ := (firstGap_eq_none_iff keys).mp found
      obtain ⟨⟨absent, m, inside, above⟩, _⟩ := least
      have below : gap < count := Nat.lt_trans above ((first m).mpr inside)
      exact absurd ((first gap).mp below) absent

end Gaps

def shared (hostStates : OrderedMap Nat) (extensionStates : IndexSet) : Set Nat :=
  {s | s ∈ hostStates.keys ∧ s ∈ extensionStates}

/-- The states that neither owner claims although one of them claims a larger one. -/
def missing (hostStates : OrderedMap Nat) (extensionStates : IndexSet) : Set Nat :=
  {s | s ∉ hostStates.keys ∧ s ∉ extensionStates ∧
    ∃ t, (t ∈ hostStates.keys ∨ t ∈ extensionStates) ∧ s < t}

variable {hostStates : OrderedMap Nat} {extensionStates : IndexSet}

theorem gaps_entries {hosts extensions : List (Nat × Decomposed)}
    (hostRun : hostEntries hostStates = .ok hosts)
    (extensionRun : extensionEntries hostStates extensionStates = .ok extensions) :
    (OrderedMap.ofList (hosts ++ extensions)).keys.gaps = missing hostStates extensionStates := by
  ext s
  simp only [OrderedSet.gaps, missing, Set.mem_ofPred_eq, mem_keys_entries hostRun extensionRun,
    not_or, and_assoc]

/-- Of the numbers of an ascending list only those before one of them are smaller. -/
theorem mem_front_of_lt {front behind : List Nat} {s t : Nat}
    (sorted : Ascending (front ++ s :: behind)) (inside : t ∈ front ++ s :: behind)
    (less : t < s) : t ∈ front := by
  obtain ⟨_, later, _⟩ := List.pairwise_append.mp sorted
  rcases List.mem_append.mp inside with early | late
  · exact early
  · rcases List.mem_cons.mp late with rfl | behindIt
    · exact absurd less (Nat.lt_irrefl t)
    · exact absurd less (Nat.lt_asymm ((List.pairwise_cons.mp later).1 t behindIt))

/-- The states of the extension are refused for the smallest one that the host has as well. -/
theorem isLeast_of_extensionEntries (fits : extensionStates.size ≤ UInt32.size)
    {fault : CompositionError}
    (failed : extensionEntries hostStates extensionStates = .error fault) :
    ∃ s, fault = .overlappingState s ∧ IsLeast (shared hostStates extensionStates) s := by
  obtain ⟨front, ⟨s, place⟩, behind, split, passed, own⟩ := (mapM_eq_error_iff _ _ _).mp failed
  have numbered : (s, place) ∈ extensionStates.elems.zipIdx := by
    rw [split]
    exact List.mem_append_right _ List.mem_cons_self
  split at own
  · next both =>
    cases own
    have inside : s ∈ extensionStates :=
      List.mem_of_getElem? (List.mem_zipIdx_iff_getElem?.mp numbered)
    refine ⟨s, rfl, ⟨(hostStates.contains_iff_mem_keys s).mp both, inside⟩, fun t claimed => ?_⟩
    by_contra smaller
    have listed : extensionStates.elems = front.map Prod.fst ++ s :: behind.map Prod.fst := by
      have columns := congrArg (List.map Prod.fst) split
      rwa [List.zipIdx_map_fst, List.map_append, List.map_cons] at columns
    have before : t ∈ front.map Prod.fst :=
      mem_front_of_lt (listed ▸ extensionStates.ascending) (listed ▸ claimed.2)
        (Nat.lt_of_not_le smaller)
    -- the states before the refused one have been accepted, so the host has none of them
    obtain ⟨other, earlier, rfl⟩ := List.mem_map.mp before
    obtain ⟨_, accepted⟩ := passed other earlier
    rw [if_pos ((hostStates.contains_iff_mem_keys _).mpr claimed.1)] at accepted
    cases accepted
  · have bound := (forall_mem_zipIdx_lt_iff extensionStates.elems UInt32.size).mpr fits _ numbered
    obtain ⟨d, done⟩ := (exists_extensionNumber_iff place).mpr bound
    simp only [done] at own
    cases own

/-- What states are refused for: the smallest that both owners claim, and only without such states
the smallest that neither does. -/
inductive Refusal (hostStates : OrderedMap Nat) (extensionStates : IndexSet) :
    CompositionError → Prop where
  | overlapping (s : Nat) (least : IsLeast (shared hostStates extensionStates) s) :
    Refusal hostStates extensionStates (.overlappingState s)
  | uncovered (s : Nat) (apart : shared hostStates extensionStates = ∅)
    (least : IsLeast (missing hostStates extensionStates) s) :
    Refusal hostStates extensionStates (.stateCoverage s)

theorem Refusal.unique {fault other : CompositionError}
    (first : Refusal hostStates extensionStates fault)
    (second : Refusal hostStates extensionStates other) : fault = other := by
  cases first with
  | overlapping s least =>
    cases second with
    | overlapping t leastToo => rw [least.unique leastToo]
    | uncovered t apart _ => exact absurd least.1 (apart ▸ Set.notMem_empty s)
  | uncovered s apart least =>
    cases second with
    | overlapping t leastToo => exact absurd leastToo.1 (apart ▸ Set.notMem_empty t)
    | uncovered t _ leastToo => rw [least.unique leastToo]

theorem Consistent.shared_eq_empty (consistent : Consistent hostStates extensionStates) :
    shared hostStates extensionStates = ∅ :=
  Set.eq_empty_iff_forall_notMem.mpr (fun s both => consistent.apart s both.2 both.1)

theorem Consistent.missing_eq_empty (consistent : Consistent hostStates extensionStates) :
    missing hostStates extensionStates = ∅ := by
  obtain ⟨count, first⟩ := consistent.covered
  refine Set.eq_empty_iff_forall_notMem.mpr (fun s left => ?_)
  obtain ⟨notHost, notExtension, t, owned, less⟩ := left
  have below : s < count := Nat.lt_trans less ((first t).mpr owned)
  exact ((first s).mp below).elim notHost notExtension

section Fitting

variable (hostFits : ∀ s h, hostStates.get? s = some h → h < UInt32.size)
  (extensionFits : extensionStates.size ≤ UInt32.size)

include hostFits extensionFits

theorem refusal_of_build {fault : CompositionError}
    (failed : build hostStates extensionStates = .error fault) :
    Refusal hostStates extensionStates fault := by
  obtain ⟨hosts, hostRun⟩ := exists_hostEntries_iff.mpr hostFits
  rw [build, hostRun] at failed
  rcases (bind_eq_error_iff (extensionEntries hostStates extensionStates) _ _).mp failed with
    overlap | ⟨extensions, extensionRun, gap⟩
  · obtain ⟨s, rfl, least⟩ := isLeast_of_extensionEntries extensionFits overlap
    exact .overlapping s least
  · simp only at gap
    split at gap
    · next s found =>
      cases gap
      rw [firstGap_eq_some_iff, gaps_entries hostRun extensionRun] at found
      obtain ⟨apart, _⟩ := exists_extensionEntries_iff.mp ⟨extensions, extensionRun⟩
      have noneShared : shared hostStates extensionStates = ∅ :=
        Set.eq_empty_iff_forall_notMem.mpr (fun t both => apart t both.2 both.1)
      exact .uncovered s noneShared found
    · cases gap

/-- States whose numbers fit are refused exactly for the smallest one that has not one owner. -/
theorem build_eq_error_iff (fault : CompositionError) :
    build hostStates extensionStates = .error fault ↔
      Refusal hostStates extensionStates fault := by
  constructor
  · exact refusal_of_build hostFits extensionFits
  · intro refusal
    cases outcome : build hostStates extensionStates with
    | error other => rw [(refusal_of_build hostFits extensionFits outcome).unique refusal]
    | ok states =>
      have consistent := exists_build_iff.mp ⟨states, outcome⟩
      cases refusal with
      | overlapping s least =>
        exact absurd least.1 (consistent.shared_eq_empty ▸ Set.notMem_empty s)
      | uncovered s _ least =>
        exact absurd least.1 (consistent.missing_eq_empty ▸ Set.notMem_empty s)

theorem exists_build_iff_empty : (∃ states, build hostStates extensionStates = .ok states) ↔
    shared hostStates extensionStates = ∅ ∧ missing hostStates extensionStates = ∅ := by
  constructor
  · intro given
    have consistent := exists_build_iff.mp given
    exact ⟨consistent.shared_eq_empty, consistent.missing_eq_empty⟩
  · intro given
    obtain ⟨noneShared, noneMissing⟩ := given
    cases outcome : build hostStates extensionStates with
    | ok states => exact ⟨states, rfl⟩
    | error fault =>
      cases refusal_of_build hostFits extensionFits outcome with
      | overlapping s least => exact absurd least.1 (noneShared ▸ Set.notMem_empty s)
      | uncovered s _ least => exact absurd least.1 (noneMissing ▸ Set.notMem_empty s)

end Fitting

/-- A map gives host states the numbers of the host, and each state of the extension the number of
smaller ones; the states of the extension are listed at their numbers. -/
structure Exact (hostStates : OrderedMap Nat) (extensionStates : IndexSet)
    (states : OrderedMap Decomposed) (listed : List Nat) : Prop where
  ofHost : ∀ s (h : UInt32), states.get? s = some (.host h) ↔ hostStates.get? s = some h.toNat
  ofExtension : ∀ s (k : UInt32), states.get? s = some (.extension k) ↔
    s ∈ extensionStates ∧ extensionStates.elems.countP (fun t => decide (t < s)) = k.toNat
  owned : ∀ s, (∃ d, states.get? s = some d) ↔ s ∈ hostStates.keys ∨ s ∈ extensionStates
  ascending : listed.Pairwise (· < ·)
  place : ∀ k s, listed[k]? = some s ↔
    ∃ word : UInt32, word.toNat = k ∧ states.get? s = some (.extension word)

/-- In an ascending list a number stands behind as many as are smaller. -/
theorem getElem?_eq_some_iff_countP {items : List Nat} (sorted : Ascending items) (place n : Nat) :
    items[place]? = some n ↔ n ∈ items ∧ items.countP (fun m => decide (m < n)) = place := by
  constructor
  · intro found
    exact ⟨List.mem_of_getElem? found, countP_lt_of_getElem? sorted found⟩
  · intro given
    obtain ⟨inside, rank⟩ := given
    obtain ⟨other, found⟩ := List.mem_iff_getElem?.mp inside
    rwa [← rank, countP_lt_of_getElem? sorted found]

namespace Numbers

variable {states : OrderedMap Decomposed} (n : Numbers hostStates extensionStates states)

include n

theorem getElem?_eq_some_iff (k s : Nat) : extensionStates.elems[k]? = some s ↔
    ∃ word : UInt32, word.toNat = k ∧ states.get? s = some (.extension word) := by
  constructor
  · intro found
    obtain ⟨other, word, rfl, mapped⟩ :=
      n.exists_word_of_lt (List.getElem?_eq_some_iff.mp found).1
    have same := (n.ofExtension other word).mp mapped
    rw [found, Option.some.injEq] at same
    exact ⟨word, rfl, same ▸ mapped⟩
  · intro given
    obtain ⟨word, rfl, mapped⟩ := given
    exact (n.ofExtension s word).mp mapped

theorem exists_get?_iff (s : Nat) : (∃ d, states.get? s = some d) ↔
    s ∈ hostStates.keys ∨ s ∈ extensionStates := by
  constructor
  · intro given
    obtain ⟨h | k, found⟩ := given
    · exact Or.inl ((hostStates.mem_keys s).mpr ⟨_, (n.ofHost s h).mp found⟩)
    · exact Or.inr (List.mem_of_getElem? ((n.ofExtension s k).mp found))
  · intro given
    rcases given with hosted | own
    · obtain ⟨h, found⟩ := (hostStates.mem_keys s).mp hosted
      have value : (UInt32.ofNat h).toNat = h := UInt32.toNat_ofNat_of_lt' (n.hostFits s h found)
      exact ⟨_, (n.ofHost s (UInt32.ofNat h)).mpr (value.symm ▸ found)⟩
    · obtain ⟨k, found⟩ := List.mem_iff_getElem?.mp own
      obtain ⟨word, _, mapped⟩ := (n.getElem?_eq_some_iff k s).mp found
      exact ⟨_, mapped⟩

end Numbers

theorem exact_of_build {states : OrderedMap Decomposed}
    (built : build hostStates extensionStates = .ok states) :
    Exact hostStates extensionStates states extensionStates.elems := by
  have n := build_numbers built
  refine ⟨n.ofHost, fun s k => ?_, n.exists_get?_iff, extensionStates.ascending,
    n.getElem?_eq_some_iff⟩
  rw [n.ofExtension]
  exact getElem?_eq_some_iff_countP extensionStates.ascending k.toNat s

end StatePartition

namespace Partition

variable {full : Grammar} {table : SymbolTable} {host : Grammar} {hostStates : OrderedMap Nat}
  {extensionStates : IndexSet}

/-- Only the states of a partition are refused with an error about the owners of states. -/
theorem build_eq_error_iff_of_states {fault : CompositionError} (about : fault.ofStates = true) :
    build full table host hostStates extensionStates = .error fault ↔
      StatePartition.build hostStates extensionStates = .error fault := by
  constructor
  · intro failed
    rcases tells_of_build failed with states | symbols
    · exact states
    · rw [CompositionError.ofStates_of_ofSymbols symbols] at about
      cases about
  · intro failed
    rw [build, bind_eq_error_iff]
    exact Or.inl failed

end Partition

namespace StatePartition

variable {hostStates : OrderedMap Nat} {extensionStates : IndexSet}

theorem Refusal.ofStates {fault : CompositionError}
    (refusal : Refusal hostStates extensionStates fault) : fault.ofStates = true := by
  cases refusal with
  | overlapping s least => rfl
  | uncovered s apart least => rfl

/-- States are numbered or refused, by themselves as in every partition that they are part of. -/
structure NumberedOrRefused (hostStates : OrderedMap Nat) (extensionStates : IndexSet) : Prop where
  succeeds : (∃ states, build hostStates extensionStates = .ok states) ↔
    shared hostStates extensionStates = ∅ ∧ missing hostStates extensionStates = ∅
  numbered : ∀ states, build hostStates extensionStates = .ok states →
    Exact hostStates extensionStates states extensionStates.elems
  refused : ∀ fault, build hostStates extensionStates = .error fault ↔
    Refusal hostStates extensionStates fault
  partitionNumbered : ∀ full table host p,
    Partition.build full table host hostStates extensionStates = .ok p →
      Exact hostStates extensionStates p.states p.ownStates
  partitionRefused : ∀ full table host fault,
    Partition.build full table host hostStates extensionStates = .error fault ∧
      fault.ofStates = true ↔ Refusal hostStates extensionStates fault

/-- Whatever states the owners claim, the map and the errors are exact if the numbers fit. -/
theorem numberedOrRefused (hostFits : ∀ s h, hostStates.get? s = some h → h < UInt32.size)
    (extensionFits : extensionStates.size ≤ UInt32.size) :
    NumberedOrRefused hostStates extensionStates := by
  have refused := build_eq_error_iff hostFits extensionFits
  refine ⟨exists_build_iff_empty hostFits extensionFits, fun states => exact_of_build, refused,
    fun full table host p built => ?_, fun full table host fault => ?_⟩
  · have b := Partition.build_eq_ok_iff.mp built
    have listed : p.ownStates = extensionStates.elems :=
      congrArg OrderedSet.elems b.extensionStates
    rw [listed]
    exact exact_of_build b.states
  · constructor
    · intro given
      obtain ⟨failed, about⟩ := given
      exact (refused fault).mp ((Partition.build_eq_error_iff_of_states about).mp failed)
    · intro refusal
      have about := refusal.ofStates
      exact ⟨(Partition.build_eq_error_iff_of_states about).mpr ((refused fault).mpr refusal),
        about⟩

/-- The states 1 and 4 stand between and behind those of a host; with 6 as well, 5 has no owner. -/
theorem numberedOrRefused_interleaved :
    (∃ states, build (.ofList [(0, 7), (2, 3), (3, 3)]) (.ofList [4, 1]) = .ok states ∧
      states.get? 4 = some (.extension 1)) ∧
    build (.ofList [(0, 7), (2, 3), (3, 3)]) (.ofList [6, 4, 1]) = .error (.stateCoverage 5) ∧
    NumberedOrRefused (.ofList [(0, 7), (2, 3), (3, 3)]) (.ofList [6, 4, 1]) :=
  ⟨⟨_, rfl, rfl⟩, rfl, numberedOrRefused (exists_hostEntries_iff.mp ⟨_, rfl⟩) (by decide)⟩

end StatePartition

end ParserSplice
