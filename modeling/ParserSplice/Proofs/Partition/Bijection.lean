import ParserSplice.Partition.Basic
import ParserSplice.Proofs.Partition.Numbering

set_option autoImplicit false

namespace ParserSplice

namespace Partition

variable {full : Grammar} {table : SymbolTable} {host : Grammar} {hostStates : OrderedMap Nat}
  {extensionStates : IndexSet} {p : Partition}

/-- What a successful partition consists of. -/
structure Built (full : Grammar) (table : SymbolTable) (host : Grammar)
    (hostStates : OrderedMap Nat) (extensionStates : IndexSet) (p : Partition) : Prop where
  states : StatePartition.build hostStates extensionStates = .ok p.states
  symbols : SymbolPartition.build full host = .ok p.symbols
  entries : ∀ s ∈ SymbolPartition.composed full, checkEntry table s = .ok ()
  ownTable : ownEntries table p.extensionOwned = .ok p.symbolTable
  data : ExtensionData.build full p.symbols p.extensionOwned = .ok p.data
  extensionStates : p.extensionStates = extensionStates
  hostOwned : p.hostOwned = SymbolPartition.hostOwned full host
  extensionOwned : p.extensionOwned = SymbolPartition.extensionOwned full host
  lengths : p.productionLengths = full.productionLengths

theorem build_eq_ok_iff : build full table host hostStates extensionStates = .ok p ↔
    Built full table host hostStates extensionStates p := by
  simp only [build, bind_eq_ok_iff, pure_eq_ok_iff]
  constructor
  · intro given
    obtain ⟨states, stateRun, symbols, symbolRun, _, checked, entries, entryRun, data, dataRun,
      rfl⟩ := given
    exact ⟨stateRun, symbolRun, (forM_eq_ok_iff _ _).mp checked, entryRun, dataRun, rfl, rfl, rfl,
      rfl⟩
  · intro b
    obtain ⟨states, ownStates, symbols, hostOwned, extensionOwned, data, ownTable, lengths⟩ := p
    obtain ⟨stateRun, symbolRun, checked, entryRun, dataRun, sameStates, sameHost, sameExtension,
      sameLengths⟩ := b
    subst sameStates sameHost sameExtension sameLengths
    exact ⟨_, stateRun, _, symbolRun, (), (forM_eq_ok_iff _ _).mpr checked, _, entryRun, _, dataRun,
      rfl⟩

theorem Built.numbers (b : Built full table host hostStates extensionStates p) :
    SymbolPartition.Numbers full host p.symbols :=
  SymbolPartition.build_numbers full host p.symbols b.symbols

namespace Built

open SymbolPartition (hostMembers extensionMembers start listed)

variable (b : Built full table host hostStates extensionStates p)

include b

theorem hostOwned_eq_listed : p.hostOwned = listed (hostMembers full host) Category.all :=
  b.hostOwned.trans (SymbolPartition.hostOwned_eq_listed full host)

theorem extensionOwned_eq_listed :
    p.extensionOwned = listed (extensionMembers full host) Category.all :=
  b.extensionOwned.trans (SymbolPartition.extensionOwned_eq_listed full host)

theorem hostIndices_eq (c : Category) : p.hostIndices c =
    OrderedSet.interval (start (hostMembers full host) c) (hostMembers full host c).length := by
  rw [hostIndices, b.hostOwned_eq_listed, SymbolPartition.placesOf_listed_all]

theorem extensionIndices_eq (c : Category) : p.extensionIndices c =
    OrderedSet.interval (start (extensionMembers full host) c)
      (extensionMembers full host c).length := by
  rw [extensionIndices, b.extensionOwned_eq_listed, SymbolPartition.placesOf_listed_all]

theorem categoryOffset_eq (c : Category) :
    p.categoryOffset c = start (extensionMembers full host) c := by
  rw [categoryOffset, ← List.sum_eq_foldr]
  simp only [start, b.extensionIndices_eq, OrderedSet.size_interval]

theorem mem_host_of_symbol? {c : Category} {s : Nat} {h : UInt32} (inside : s ∈ full.symbols c)
    (found : p.symbol? s = some (.host h)) : s ∈ host.symbols c := by
  by_contra outside
  have own := (SymbolPartition.mem_extensionMembers full host c s).mpr ⟨inside, outside⟩
  obtain ⟨e, other⟩ := b.numbers.extensionSide.exists_word own
  have same := found.symm.trans other
  cases same

theorem not_mem_host_of_symbol? {c : Category} {s : Nat} {e : UInt32} (inside : s ∈ full.symbols c)
    (found : p.symbol? s = some (.extension e)) : s ∉ host.symbols c := by
  intro hosted
  have own := (SymbolPartition.mem_hostMembers full host c s).mpr ⟨inside, hosted⟩
  obtain ⟨h, other⟩ := b.numbers.hostSide.exists_word own
  have same := found.symm.trans other
  cases same

theorem exists_symbol?_iff (s : Nat) : (∃ d, p.symbol? s = some d) ↔ ∃ c, s ∈ full.symbols c :=
  b.numbers.exists_get?_iff s

theorem symbol?_injective {s s' : Nat} {d : Decomposed} (one : p.symbol? s = some d)
    (two : p.symbol? s' = some d) : s = s' := by
  cases d with
  | host h => exact b.numbers.hostSide.index_unique one two
  | extension e => exact b.numbers.extensionSide.index_unique one two

theorem ownSymbols_getElem?_iff (n s : Nat) : p.ownSymbols[n]? = some s ↔
    ∃ e : UInt32, e.toNat = n ∧ p.symbol? s = some (.extension e) := by
  rw [ownSymbols, b.extensionOwned_eq_listed, List.getElem?_map, Option.map_eq_some_iff]
  constructor
  · intro given
    obtain ⟨⟨c, index⟩, found, rfl⟩ := given
    exact b.numbers.extensionSide.exists_word_of_place found
  · intro given
    obtain ⟨e, rfl, found⟩ := given
    obtain ⟨c, place⟩ := (b.numbers.extensionSide.lookup s e).mp found
    exact ⟨(c, s), place, rfl⟩

theorem mem_hostIndices_iff {s : Nat} {h : UInt32} (c : Category)
    (found : p.symbol? s = some (.host h)) : h.toNat ∈ p.hostIndices c ↔ s ∈ full.symbols c := by
  rw [hostIndices, b.hostOwned_eq_listed, b.numbers.hostSide.mem_placesOf_iff c found,
    SymbolPartition.mem_hostMembers]
  exact ⟨And.left, fun inside => ⟨inside, b.mem_host_of_symbol? inside found⟩⟩

theorem mem_extensionIndices_iff {s : Nat} {e : UInt32} (c : Category)
    (found : p.symbol? s = some (.extension e)) :
    e.toNat ∈ p.extensionIndices c ↔ s ∈ full.symbols c := by
  rw [extensionIndices, b.extensionOwned_eq_listed,
    b.numbers.extensionSide.mem_placesOf_iff c found, SymbolPartition.mem_extensionMembers]
  exact ⟨And.left, fun inside => ⟨inside, b.not_mem_host_of_symbol? inside found⟩⟩

end Built

def extensionSymbols (full host : Grammar) (c : Category) : Nat :=
  (full.symbols c).elems.countP (fun index => !(host.symbols c).contains index)

def hostSymbols (full host : Grammar) (c : Category) : Nat :=
  (full.symbols c).elems.countP (fun index => (host.symbols c).contains index)

/-- The symbols of a composed grammar are split completely and one to one. -/
structure SplitsSymbols (full host : Grammar) (p : Partition) : Prop where
  total : ∀ s, (∃ d, p.symbol? s = some d) ↔ ∃ c, s ∈ full.symbols c
  ofHost : ∀ c, ∀ s ∈ full.symbols c, (∃ h, p.symbol? s = some (.host h)) ↔ s ∈ host.symbols c
  ofExtension : ∀ c, ∀ s ∈ full.symbols c,
    (∃ e, p.symbol? s = some (.extension e)) ↔ s ∉ host.symbols c
  injective : ∀ s s' d, p.symbol? s = some d → p.symbol? s' = some d → s = s'
  hostNumbers : ∀ n, (∃ s h, p.symbol? s = some (.host h) ∧ h.toNat = n) ↔ n < p.hostCount
  extensionNumbers : ∀ n,
    (∃ s e, p.symbol? s = some (.extension e) ∧ e.toNat = n) ↔ n < p.extensionCount
  inverse : ∀ n s, p.ownSymbols[n]? = some s ↔
    ∃ e : UInt32, e.toNat = n ∧ p.symbol? s = some (.extension e)
  extensionInterval : ∀ c n, n ∈ p.extensionIndices c ↔
    p.categoryOffset c ≤ n ∧ n < p.categoryOffset c + extensionSymbols full host c
  hostInterval : ∀ c n, n ∈ p.hostIndices c ↔
    (c.earlier.map (hostSymbols full host)).sum ≤ n ∧
      n < (c.earlier.map (hostSymbols full host)).sum + hostSymbols full host c
  hostCategory : ∀ c s h, p.symbol? s = some (.host h) →
    (h.toNat ∈ p.hostIndices c ↔ s ∈ full.symbols c)
  extensionCategory : ∀ c s e, p.symbol? s = some (.extension e) →
    (e.toNat ∈ p.extensionIndices c ↔ s ∈ full.symbols c)
  hostAscends : ∀ c, ∀ s ∈ full.symbols c, ∀ s' ∈ full.symbols c, ∀ h h',
    p.symbol? s = some (.host h) → p.symbol? s' = some (.host h') → s < s' → h.toNat < h'.toNat
  extensionAscends : ∀ c, ∀ s ∈ full.symbols c, ∀ s' ∈ full.symbols c, ∀ e e',
    p.symbol? s = some (.extension e) → p.symbol? s' = some (.extension e') → s < s' →
      e.toNat < e'.toNat

theorem length_hostMembers (full host : Grammar) (c : Category) :
    (SymbolPartition.hostMembers full host c).length = hostSymbols full host c :=
  List.countP_eq_length_filter.symm

theorem length_extensionMembers (full host : Grammar) (c : Category) :
    (SymbolPartition.extensionMembers full host c).length = extensionSymbols full host c :=
  List.countP_eq_length_filter.symm

/-- Every partition that is built splits the symbols completely and one to one. -/
theorem splitsSymbols_of_build
    (built : build full table host hostStates extensionStates = .ok p) :
    p.SplitsSymbols full host := by
  have b := build_eq_ok_iff.mp built
  have hostSide := b.numbers.hostSide
  have extensionSide := b.numbers.extensionSide
  have ofHost : ∀ c, ∀ s ∈ full.symbols c,
      (∃ h, p.symbol? s = some (.host h)) ↔ s ∈ host.symbols c := by
    intro c s inside
    constructor
    · intro given
      obtain ⟨h, found⟩ := given
      exact b.mem_host_of_symbol? inside found
    · intro hosted
      exact hostSide.exists_word
        ((SymbolPartition.mem_hostMembers full host c s).mpr ⟨inside, hosted⟩)
  have ofExtension : ∀ c, ∀ s ∈ full.symbols c,
      (∃ e, p.symbol? s = some (.extension e)) ↔ s ∉ host.symbols c := by
    intro c s inside
    constructor
    · intro given
      obtain ⟨e, found⟩ := given
      exact b.not_mem_host_of_symbol? inside found
    · intro own
      exact extensionSide.exists_word
        ((SymbolPartition.mem_extensionMembers full host c s).mpr ⟨inside, own⟩)
  refine {
    total := b.exists_symbol?_iff
    ofHost := ofHost
    ofExtension := ofExtension
    injective := fun s s' d => b.symbol?_injective
    hostNumbers := fun n => ?_
    extensionNumbers := fun n => ?_
    inverse := b.ownSymbols_getElem?_iff
    extensionInterval := fun c n => ?_
    hostInterval := fun c n => ?_
    hostCategory := fun c s h => b.mem_hostIndices_iff c
    extensionCategory := fun c s e => b.mem_extensionIndices_iff c
    hostAscends := fun c s inside s' inside' h h' found found' => ?_
    extensionAscends := fun c s inside s' inside' e e' found found' => ?_ }
  · rw [hostCount, b.hostOwned_eq_listed]
    exact hostSide.exists_number_iff n
  · rw [extensionCount, b.extensionOwned_eq_listed]
    exact extensionSide.exists_number_iff n
  · rw [b.extensionIndices_eq, b.categoryOffset_eq, OrderedSet.mem_interval,
      length_extensionMembers]
  · rw [b.hostIndices_eq, OrderedSet.mem_interval, length_hostMembers]
    simp only [SymbolPartition.start, length_hostMembers]
  · refine hostSide.lt_of_lt (SymbolPartition.ascending_hostMembers full host c) ?_ ?_ found found'
    · exact (SymbolPartition.mem_hostMembers full host c s).mpr
        ⟨inside, b.mem_host_of_symbol? inside found⟩
    · exact (SymbolPartition.mem_hostMembers full host c s').mpr
        ⟨inside', b.mem_host_of_symbol? inside' found'⟩
  · refine extensionSide.lt_of_lt (SymbolPartition.ascending_extensionMembers full host c) ?_ ?_
      found found'
    · exact (SymbolPartition.mem_extensionMembers full host c s).mpr
        ⟨inside, b.not_mem_host_of_symbol? inside found⟩
    · exact (SymbolPartition.mem_extensionMembers full host c s').mpr
        ⟨inside', b.not_mem_host_of_symbol? inside' found'⟩

/-- A host with the one statement `x`. -/
def statementHost : Grammar where
  terminals := .ofList [0, 1]
  nonterminals := .ofList [2]
  productions := .ofList [3]
  productionData := .ofList [(3, { lhs := 2, rhs := [1] })]
  startProduction := 3

/-- The host with an extension whose symbols are numbered with gaps and out of category order. -/
def extendedGrammar : Grammar where
  terminals := .ofList [0, 1, 10, 14]
  nonterminals := .ofList [2, 6]
  productions := .ofList [3, 9]
  terminalClasses := .ofList [12]
  terminalData := .ofList [
    (10, { regex := "lit", classes := .ofList [12], transparentPrefix := some 1 }),
    (14, { regex := "@" })]
  productionData := .ofList [
    (3, { lhs := 2, rhs := [1] }),
    (9, { lhs := 2, rhs := [14, 6, 10, 6, 1], operator := some 10, layouts := .ofList [1, 14] })]
  terminalClassData := .ofList [(12, { members := .ofList [1, 10] })]
  startProduction := 3

def extendedTable : SymbolTable :=
  ⟨[⟨.terminal, "$", none⟩, ⟨.terminal, "x", none⟩, ⟨.nonterminal, "Stmt", none⟩,
    ⟨.production, "stmt", none⟩, ⟨.terminal, "", none⟩, ⟨.terminal, "", none⟩,
    ⟨.nonterminal, "Ext", none⟩, ⟨.terminal, "", none⟩, ⟨.terminal, "", none⟩,
    ⟨.production, "ext", none⟩, ⟨.terminal, "lit", none⟩, ⟨.terminal, "", none⟩,
    ⟨.terminalClass, "words", none⟩, ⟨.terminal, "", none⟩, ⟨.terminal, "mark", none⟩]⟩

/-- The extension owns the composed states 2 and 3. -/
def extendedPartition : Except CompositionError Partition :=
  build extendedGrammar extendedTable statementHost (.ofList [(0, 0), (1, 1), (4, 2)])
    (.ofList [2, 3])

theorem splitsSymbols_extendedPartition : ∃ p, extendedPartition = .ok p ∧
    p.symbol? 6 = some (.extension 2) ∧ p.SplitsSymbols extendedGrammar statementHost :=
  ⟨_, rfl, rfl, splitsSymbols_of_build (show extendedPartition = _ from rfl)⟩

end Partition

end ParserSplice
