import ParserSplice.Proofs.Partition.Columns

set_option autoImplicit false

namespace ParserSplice

/-- In an ascending list as many members are below one of them as stand before it. -/
theorem countP_lt_of_getElem? {items : List Nat} (sorted : Ascending items) {place n : Nat}
    (found : items[place]? = some n) : items.countP (fun m => decide (m < n)) = place := by
  induction items generalizing place with
  | nil => cases found
  | cons first rest ih =>
    obtain ⟨below, later⟩ := List.pairwise_cons.mp sorted
    cases place with
    | zero =>
      obtain rfl : first = n := by simpa using found
      rw [List.countP_eq_zero]
      intro m inside
      rw [decide_eq_true_iff, Nat.not_lt]
      rcases List.mem_cons.mp inside with rfl | behind
      · exact Nat.le_refl _
      · exact Nat.le_of_lt (below m behind)
    | succ place =>
      have behind : rest[place]? = some n := by simpa using found
      have less : first < n := below n (List.mem_of_getElem? behind)
      have counted : decide (first < n) = true := decide_eq_true less
      rw [List.countP_cons, ih later behind, if_pos counted]

namespace Grammar

variable (g : Grammar)

def symbolCount : Nat := (Category.all.map (fun c => (g.symbols c).size)).sum

def countBefore (c : Category) : Nat := (c.earlier.map (fun d => (g.symbols d).size)).sum

def countBelow (c : Category) (s : Nat) : Nat :=
  (g.symbols c).elems.countP (fun other => decide (other < s))

end Grammar

namespace Partition

variable {full full' : Grammar} {table table' : SymbolTable} {host : Grammar}
  {hostStates hostStates' : OrderedMap Nat} {extensionStates extensionStates' : IndexSet}
  {p p' : Partition}

namespace Built

open SymbolPartition (hostMembers)

variable (b : Built full table host hostStates extensionStates p)

include b

theorem hostMembers_eq_symbols : hostMembers full host = fun c => (host.symbols c).elems :=
  funext b.hostMembers_eq

/-- The host owns just the symbols of its own grammar, in their order. -/
theorem hostOwned_eq_composed : p.hostOwned = SymbolPartition.composed host := by
  rw [b.hostOwned_eq_listed, b.hostMembers_eq_symbols]
  rfl

theorem hostIndices_eq_interval (c : Category) :
    p.hostIndices c = OrderedSet.interval (host.countBefore c) (host.symbols c).size := by
  rw [hostIndices, b.hostOwned_eq_composed]
  exact SymbolPartition.placesOf_listed_all (fun d => (host.symbols d).elems) c

theorem hostCount_eq : p.hostCount = host.symbolCount := by
  rw [hostCount, b.hostOwned_eq_composed]
  exact SymbolPartition.length_listed (fun d => (host.symbols d).elems) Category.all

/-- The number of a host symbol counts the host symbols before it, whatever symbols of the extension
stand between them. -/
theorem symbol?_of_host {c : Category} {s : Nat} (inside : s ∈ host.symbols c) :
    ∃ h : UInt32, h.toNat = host.countBefore c + host.countBelow c s ∧
      p.symbol? s = some (.host h) := by
  have own : s ∈ hostMembers full host c := (b.hostMembers_eq c).symm ▸ inside
  obtain ⟨h, found⟩ := b.numbers.hostSide.exists_word own
  obtain ⟨after, place⟩ := b.numbers.hostSide.place_in_category found own
  rw [b.hostMembers_eq_symbols] at after place
  have start : host.countBefore c ≤ h.toNat := after
  have rank : host.countBelow c s = h.toNat - host.countBefore c :=
    countP_lt_of_getElem? (host.symbols c).ascending place
  exact ⟨h, by omega, found⟩

end Built

/-- Two partitions give the symbols of a host the same numbers, and leave the same columns to the
host. -/
structure AgreesOnHost (host : Grammar) (p p' : Partition) : Prop where
  symbols : ∀ c, ∀ s ∈ host.symbols c, ∃ h : UInt32,
    h.toNat = host.countBefore c + host.countBelow c s ∧
      p.symbol? s = some (.host h) ∧ p'.symbol? s = some (.host h)
  indices : ∀ c, p.hostIndices c = p'.hostIndices c
  counts : p.hostCount = p'.hostCount
  offsets : p.columnOffset = p'.columnOffset
  total : p.columnOffset = host.symbolCount

/-- All extensions of one host agree on the numbers of the host. -/
theorem agreesOnHost_of_build
    (built : build full table host hostStates extensionStates = .ok p)
    (built' : build full' table' host hostStates' extensionStates' = .ok p') :
    p.AgreesOnHost host p' := by
  have b := build_eq_ok_iff.mp built
  have b' := build_eq_ok_iff.mp built'
  have counts : p.hostCount = p'.hostCount := b.hostCount_eq.trans b'.hostCount_eq.symm
  refine {
    symbols := fun c s inside => ?_
    indices := fun c => ?_
    counts := counts
    offsets := counts
    total := b.hostCount_eq }
  · obtain ⟨h, number, found⟩ := b.symbol?_of_host inside
    obtain ⟨h', number', found'⟩ := b'.symbol?_of_host inside
    obtain rfl : h = h' := UInt32.toNat_inj.mp (number.trans number'.symm)
    exact ⟨h, number, found, found'⟩
  · rw [b.hostIndices_eq_interval, b'.hostIndices_eq_interval]

/-- The host alone, with the symbols of its extension left out. -/
def plainPartition : Except CompositionError Partition :=
  build statementHost ⟨extendedTable.symbols.take 4⟩ statementHost (.ofList [(0, 0)]) ∅

/-- Symbols of the extension stand before the nonterminal 2, which stays the third host symbol. -/
theorem agreesOnHost_plainPartition : ∃ p p', extendedPartition = .ok p ∧
    plainPartition = .ok p' ∧ p.symbol? 2 = some (.host 2) ∧ p.extensionCount = 5 ∧
    p'.extensionCount = 0 ∧ p.AgreesOnHost statementHost p' :=
  ⟨_, _, rfl, rfl, rfl, rfl, rfl,
    agreesOnHost_of_build (show extendedPartition = _ from rfl) (show plainPartition = _ from rfl)⟩

end Partition

end ParserSplice
