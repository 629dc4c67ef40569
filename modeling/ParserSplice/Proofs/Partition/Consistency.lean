import Mathlib.Data.List.Nodup
import ParserSplice.Proofs.Partition.Recovery
import ParserSplice.Proofs.Partition.StateNumbering

set_option autoImplicit false

namespace ParserSplice

namespace StatePartition

variable {hostStates : OrderedMap Nat} {extensionStates : IndexSet}

/-- States of a host and of an extension that together number a composed parser. -/
structure Consistent (hostStates : OrderedMap Nat) (extensionStates : IndexSet) : Prop where
  apart : ∀ s ∈ extensionStates, s ∉ hostStates.keys
  covered : ∃ n, ∀ s, s < n ↔ s ∈ hostStates.keys ∨ s ∈ extensionStates
  hostFits : ∀ s h, hostStates.get? s = some h → h < UInt32.size
  extensionFits : extensionStates.size ≤ UInt32.size

theorem exists_hostEntries_iff : (∃ entries, hostEntries hostStates = .ok entries) ↔
    ∀ s h, hostStates.get? s = some h → h < UInt32.size := by
  simp only [hostEntries, exists_mapM_iff, exists_bind_iff, pure_eq_ok_iff, exists_eq', and_true,
    exists_hostNumber_iff, OrderedMap.get?_eq_some_iff, Prod.forall]

theorem exists_extensionEntries_iff :
    (∃ entries, extensionEntries hostStates extensionStates = .ok entries) ↔
      (∀ s ∈ extensionStates, s ∉ hostStates.keys) ∧ extensionStates.size ≤ UInt32.size := by
  have apart_iff : ∀ s, hostStates.contains s = false ↔ s ∉ hostStates.keys := by
    intro s
    rw [← OrderedMap.contains_iff_mem_keys, Bool.not_eq_true]
  have states_iff : (∀ entry ∈ extensionStates.elems.zipIdx, entry.1 ∉ hostStates.keys) ↔
      ∀ s ∈ extensionStates, s ∉ hostStates.keys := by
    constructor
    · intro apart s inside
      obtain ⟨place, found⟩ := List.mem_iff_getElem?.mp inside
      exact apart (s, place) (List.mem_zipIdx_iff_getElem?.mpr found)
    · intro apart entry inside
      exact apart _ (List.mem_of_getElem? (List.mem_zipIdx_iff_getElem?.mp inside))
  simp only [extensionEntries, exists_mapM_iff, exists_unless_iff, exists_bind_iff, pure_eq_ok_iff,
    exists_eq', and_true, exists_extensionNumber_iff, apart_iff, forall_and, states_iff,
    forall_mem_zipIdx_lt_iff]
  rfl

/-- Ascending numbers have no gap if they are the first numbers. -/
theorem firstGap_eq_none_iff (keys : IndexSet) :
    firstGap keys.elems = none ↔ ∃ n, ∀ k, k < n ↔ k ∈ keys := by
  have dense_iff : firstGap keys.elems = none ↔
      ∀ k place : Nat, keys.elems[place]? = some k → k = place := by
    simp [firstGap, List.mem_zipIdx_iff_getElem?]
  rw [dense_iff]
  constructor
  · intro dense
    refine ⟨keys.size, fun k => ⟨fun below => ?_, fun inside => ?_⟩⟩
    · have found : keys.elems[k]? = some _ := List.getElem?_eq_getElem below
      rw [dense _ k found] at found
      exact List.mem_of_getElem? found
    · obtain ⟨place, found⟩ := List.mem_iff_getElem?.mp inside
      rw [dense k place found]
      exact (List.getElem?_eq_some_iff.mp found).1
  · intro given k place found
    obtain ⟨n, first⟩ := given
    have same : keys = OrderedSet.interval 0 n := by
      apply OrderedSet.ext_mem
      intro a
      rw [← first, OrderedSet.mem_interval]
      omega
    obtain ⟨_, value⟩ := List.getElem?_eq_some_iff.mp (same ▸ found)
    simpa [OrderedSet.interval, eq_comm] using value

/-- The numbered states are those of both owners. -/
theorem mem_keys_entries {hosts extensions : List (Nat × Decomposed)}
    (hostRun : hostEntries hostStates = .ok hosts)
    (extensionRun : extensionEntries hostStates extensionStates = .ok extensions) (s : Nat) :
    s ∈ (OrderedMap.ofList (hosts ++ extensions)).keys ↔
      s ∈ hostStates.keys ∨ s ∈ extensionStates := by
  rw [OrderedMap.mem_keys_ofList, List.map_append, List.mem_append, (hostEntries_ok hostRun).1,
    (extensionEntries_ok extensionRun).1]
  rfl

/-- The states of both owners together have no gap. -/
theorem firstGap_entries_iff {hosts extensions : List (Nat × Decomposed)}
    (hostRun : hostEntries hostStates = .ok hosts)
    (extensionRun : extensionEntries hostStates extensionStates = .ok extensions) :
    firstGap (OrderedMap.ofList (hosts ++ extensions)).keys.elems = none ↔
      ∃ n, ∀ s, s < n ↔ s ∈ hostStates.keys ∨ s ∈ extensionStates := by
  simp only [firstGap_eq_none_iff, mem_keys_entries hostRun extensionRun]

theorem exists_build_iff : (∃ states, build hostStates extensionStates = .ok states) ↔
    Consistent hostStates extensionStates := by
  constructor
  · intro given
    simp only [build, exists_bind_iff] at given
    obtain ⟨hosts, hostRun, extensions, extensionRun, _, joined⟩ := given
    split at joined
    · cases joined
    · next closed =>
      obtain ⟨apart, fits⟩ := exists_extensionEntries_iff.mp ⟨extensions, extensionRun⟩
      exact ⟨apart, (firstGap_entries_iff hostRun extensionRun).mp closed,
        exists_hostEntries_iff.mp ⟨hosts, hostRun⟩, fits⟩
  · intro consistent
    obtain ⟨hosts, hostRun⟩ := exists_hostEntries_iff.mpr consistent.hostFits
    obtain ⟨extensions, extensionRun⟩ :=
      exists_extensionEntries_iff.mpr ⟨consistent.apart, consistent.extensionFits⟩
    have closed := (firstGap_entries_iff hostRun extensionRun).mpr consistent.covered
    refine ⟨OrderedMap.ofList (hosts ++ extensions), ?_⟩
    simp only [build, bind_eq_ok_iff]
    exact ⟨hosts, hostRun, extensions, extensionRun, by rw [closed]; rfl⟩

end StatePartition

namespace SymbolPartition

/-- A composed grammar that can be split along a host grammar. -/
structure Consistent (full host : Grammar) : Prop where
  included : ∀ c, ∀ s ∈ host.symbols c, s ∈ full.symbols c
  disjoint : ∀ c d s, s ∈ full.symbols c → s ∈ full.symbols d → c = d
  hostFits : (Category.all.map (Partition.hostSymbols full host)).sum ≤ UInt32.size
  extensionFits : (Category.all.map (Partition.extensionSymbols full host)).sum ≤ UInt32.size

variable {full host : Grammar}

theorem length_hostOwned : (hostOwned full host).length =
    (Category.all.map (Partition.hostSymbols full host)).sum := by
  rw [hostOwned_eq_listed, length_listed]
  simp only [Partition.length_hostMembers]

theorem length_extensionOwned : (extensionOwned full host).length =
    (Category.all.map (Partition.extensionSymbols full host)).sum := by
  rw [extensionOwned_eq_listed, length_listed]
  simp only [Partition.length_extensionMembers]

theorem mem_extensionOwned (c : Category) (s : Nat) :
    (c, s) ∈ extensionOwned full host ↔ s ∈ full.symbols c ∧ s ∉ host.symbols c := by
  rw [extensionOwned_eq_listed, mem_listed_all, mem_extensionMembers]

/-- Each symbol is listed once if no two categories share one. -/
theorem nodup_composed_iff : ((composed full).map Prod.snd).Nodup ↔
    ∀ c d s, s ∈ full.symbols c → s ∈ full.symbols d → c = d := by
  constructor
  · intro distinct c d s first second
    have same := List.inj_on_of_nodup_map distinct ((mem_composed full c s).mpr first)
      ((mem_composed full d s).mpr second) rfl
    exact congrArg Prod.fst same
  · intro disjoint
    rw [map_snd_composed, List.nodup_flatMap]
    refine ⟨fun c _ => (full.symbols c).nodup_elems, ?_⟩
    have categories : Category.all.Pairwise (· ≠ ·) := by decide
    refine categories.imp (fun {c d} apart s first second => ?_)
    exact apart (disjoint c d s first second)

theorem exists_numbered_iff {number : Nat → Except CompositionError Decomposed}
    (number_iff : ∀ n, (∃ d, number n = .ok d) ↔ n < UInt32.size)
    (owned : List CategorizedSymbol) :
    (∃ entries, owned.zipIdx.mapM (fun (entry : CategorizedSymbol × Nat) => do
      let d ← number entry.2
      return (entry.1.2, d)) = .ok entries) ↔ owned.length ≤ UInt32.size := by
  simp only [exists_mapM_iff, exists_bind_iff, pure_eq_ok_iff, exists_eq', and_true, number_iff,
    forall_mem_zipIdx_lt_iff]

theorem exists_build_iff :
    (∃ symbols, build full host = .ok symbols) ↔ Consistent full host := by
  simp only [build, exists_bind_iff, pure_eq_ok_iff, exists_eq', and_true, exists_and_right,
    exists_numbered_iff exists_hostNumber_iff, exists_numbered_iff exists_extensionNumber_iff,
    length_hostOwned, length_extensionOwned]
  constructor
  · intro given
    obtain ⟨⟨_, passed⟩, hostFits, extensionFits⟩ := given
    obtain ⟨included, distinct⟩ := (check_eq_ok_iff full host).mp passed
    exact ⟨included, nodup_composed_iff.mp distinct, hostFits, extensionFits⟩
  · intro consistent
    have distinct := nodup_composed_iff.mpr consistent.disjoint
    have passed := (check_eq_ok_iff full host).mpr ⟨consistent.included, distinct⟩
    exact ⟨⟨(), passed⟩, consistent.hostFits, consistent.extensionFits⟩

end SymbolPartition

section References

variable {S : Type} [Ranked S]

def TerminalData.references (a : TerminalData S) : List S :=
  a.classes.elems ++ a.transparentPrefix.toList ++ a.operatorClass.toList

def NonterminalData.references (a : NonterminalData S) : List S := a.productions.elems

def ProductionData.references (a : ProductionData S) : List S :=
  a.rhs ++ [a.lhs] ++ a.operator.toList ++ a.layouts.elems

def DisambiguationData.references (a : DisambiguationData S) : List S :=
  a.members.elems ++ a.target.toList

def TerminalClassData.references (a : TerminalClassData S) : List S := a.members.elems

end References

/-- The symbols that the data of a symbol refers to, if it has data. -/
def Grammar.references (g : Grammar) : Category → Nat → List Nat
  | .terminal, s => (g.terminalData.get? s).elim [] TerminalData.references
  | .nonterminal, s => (g.nonterminalData.get? s).elim [] NonterminalData.references
  | .production, s => (g.productionData.get? s).elim [] ProductionData.references
  | .disambiguationFunction, s =>
    (g.disambiguationData.get? s).elim [] DisambiguationData.references
  | .terminalClass, s => (g.terminalClassData.get? s).elim [] TerminalClassData.references
  | .operatorClass, _ => []
  | .parserAttribute, _ => []

namespace ExtensionData

variable {symbols : OrderedMap Decomposed}

def Resolvable (symbols : OrderedMap Decomposed) (references : List Nat) : Prop :=
  ∀ s ∈ references, ∃ d, symbols.get? s = some d

theorem resolvable_append (first second : List Nat) : Resolvable symbols (first ++ second) ↔
    Resolvable symbols first ∧ Resolvable symbols second :=
  List.forall_mem_append

section Resolving

variable (context : String)

theorem exists_mapM_resolve_iff (references : List Nat) :
    (∃ found, references.mapM (resolve symbols context) = .ok found) ↔
      Resolvable symbols references := by
  simp only [exists_mapM_iff, resolve_eq_ok_iff, Resolvable]

theorem exists_resolve_iff (s : Nat) :
    (∃ d, resolve symbols context s = .ok d) ↔ Resolvable symbols [s] := by
  simp only [resolve_eq_ok_iff, Resolvable, List.forall_mem_singleton]

theorem exists_resolveSet_iff (set : IndexSet) :
    (∃ found, resolveSet symbols context set = .ok found) ↔ Resolvable symbols set.elems := by
  simp only [resolveSet, exists_bind_iff, pure_eq_ok_iff, exists_eq', and_true,
    exists_mapM_resolve_iff]

theorem exists_resolveOption_iff (index : Option Nat) :
    (∃ found, resolveOption symbols context index = .ok found) ↔
      Resolvable symbols index.toList := by
  cases index with
  | none => simp [resolveOption, Resolvable]
  | some s =>
    simp only [resolveOption, exists_bind_iff, pure_eq_ok_iff, exists_eq', and_true,
      exists_resolve_iff, Option.toList_some]

end Resolving

theorem exists_resolveTerminal_iff (a : TerminalData Nat) :
    (∃ r, resolveTerminal symbols a = .ok r) ↔ Resolvable symbols a.references := by
  simp only [resolveTerminal, exists_bind_iff, pure_eq_ok_iff, exists_eq', and_true,
    exists_and_right, exists_resolveSet_iff, exists_resolveOption_iff, TerminalData.references,
    resolvable_append, and_assoc]

theorem exists_resolveNonterminal_iff (a : NonterminalData Nat) :
    (∃ r, resolveNonterminal symbols a = .ok r) ↔ Resolvable symbols a.references := by
  simp only [resolveNonterminal, exists_bind_iff, pure_eq_ok_iff, exists_eq', and_true,
    exists_resolveSet_iff, NonterminalData.references]

theorem exists_resolveProduction_iff (a : ProductionData Nat) :
    (∃ r, resolveProduction symbols a = .ok r) ↔ Resolvable symbols a.references := by
  simp only [resolveProduction, exists_bind_iff, pure_eq_ok_iff, exists_eq', and_true,
    exists_and_right, exists_mapM_resolve_iff, exists_resolve_iff, exists_resolveOption_iff,
    exists_resolveSet_iff, ProductionData.references, resolvable_append, and_assoc]

theorem exists_resolveDisambiguation_iff (a : DisambiguationData Nat) :
    (∃ r, resolveDisambiguation symbols a = .ok r) ↔ Resolvable symbols a.references := by
  simp only [resolveDisambiguation, exists_bind_iff, pure_eq_ok_iff, exists_eq', and_true,
    exists_and_right, exists_resolveSet_iff, exists_resolveOption_iff,
    DisambiguationData.references, resolvable_append]

theorem exists_resolveTerminalClass_iff (a : TerminalClassData Nat) :
    (∃ r, resolveTerminalClass symbols a = .ok r) ↔ Resolvable symbols a.references := by
  simp only [resolveTerminalClass, exists_bind_iff, pure_eq_ok_iff, exists_eq', and_true,
    exists_resolveSet_iff, TerminalClassData.references]

section Collecting

variable {α β : Type} {owned : List CategorizedSymbol} {c : Category}
  {translate : α → Except CompositionError β} {references : α → List Nat}

theorem exists_collect_iff {find : Nat → Except CompositionError α} :
    (∃ kept, collect owned c find translate = .ok kept) ↔
      ∀ s, (c, s) ∈ owned → ∃ a, find s = .ok a ∧ ∃ r, translate a = .ok r := by
  have own_iff : ∀ s, (c, s) ∈ owned ↔ ∃ place, (place, s) ∈ ofCategory owned c := by
    intro s
    rw [List.mem_iff_getElem?]
    simp only [mem_ofCategory]
  simp only [collect, exists_bind_iff, pure_eq_ok_iff, exists_eq', and_true, exists_mapM_iff,
    own_iff, Prod.forall, forall_exists_index]
  exact forall_comm

/-- Data that has to be there is collected if all symbols have some and it can be resolved. -/
theorem exists_collect_need_iff {data : OrderedMap α}
    (translate_iff : ∀ a, (∃ r, translate a = .ok r) ↔ Resolvable symbols (references a)) :
    (∃ kept, collect owned c (need data c) translate = .ok kept) ↔
      (∀ s, (c, s) ∈ owned → ∃ a, data.get? s = some a) ∧
        ∀ s, (c, s) ∈ owned → Resolvable symbols ((data.get? s).elim [] references) := by
  have each : ∀ s, (∃ a, data.get? s = some a ∧ Resolvable symbols (references a)) ↔
      (∃ a, data.get? s = some a) ∧ Resolvable symbols ((data.get? s).elim [] references) := by
    intro s
    cases data.get? s <;> simp
  simp only [exists_collect_iff, need_eq_ok_iff, translate_iff, each, forall_and]

/-- Data that may be missing is collected if what there is can be resolved. -/
theorem exists_collect_getD_iff {data : OrderedMap α} (blank : α)
    (translate_iff : ∀ a, (∃ r, translate a = .ok r) ↔ Resolvable symbols (references a))
    (closed : references blank = []) :
    (∃ kept, collect owned c (fun s => .ok ((data.get? s).getD blank)) translate = .ok kept) ↔
      ∀ s, (c, s) ∈ owned → Resolvable symbols ((data.get? s).elim [] references) := by
  have each : ∀ s, Resolvable symbols (references ((data.get? s).getD blank)) ↔
      Resolvable symbols ((data.get? s).elim [] references) := by
    intro s
    cases data.get? s <;> simp [closed]
  simp only [exists_collect_iff, Except.ok.injEq, exists_eq_left', translate_iff, each]

end Collecting

/-- The data of an extension is kept if its terminals and productions have data and all references
are composed symbols. -/
theorem exists_build_iff {full : Grammar} {owned : List CategorizedSymbol} :
    (∃ data, build full symbols owned = .ok data) ↔
      (∀ s, (.terminal, s) ∈ owned → ∃ a, full.terminalData.get? s = some a) ∧
      (∀ s, (.production, s) ∈ owned → ∃ a, full.productionData.get? s = some a) ∧
      ∀ c s, (c, s) ∈ owned → Resolvable symbols (full.references c s) := by
  simp only [build, exists_bind_iff, pure_eq_ok_iff, exists_eq', and_true, exists_and_right,
    exists_collect_need_iff exists_resolveTerminal_iff,
    exists_collect_getD_iff {} exists_resolveNonterminal_iff rfl,
    exists_collect_need_iff exists_resolveProduction_iff,
    exists_collect_getD_iff {} exists_resolveDisambiguation_iff rfl,
    exists_collect_getD_iff {} exists_resolveTerminalClass_iff rfl]
  constructor
  · intro given
    obtain ⟨⟨terminalData, terminals⟩, nonterminals, ⟨productionData, productions⟩,
      disambiguations, terminalClasses⟩ := given
    refine ⟨terminalData, productionData, fun c s own => ?_⟩
    cases c with
    | terminal => exact terminals s own
    | nonterminal => exact nonterminals s own
    | production => exact productions s own
    | disambiguationFunction => exact disambiguations s own
    | terminalClass => exact terminalClasses s own
    | operatorClass => exact fun _ none => absurd none List.not_mem_nil
    | parserAttribute => exact fun _ none => absurd none List.not_mem_nil
  · intro given
    obtain ⟨terminalData, productionData, references⟩ := given
    exact ⟨⟨terminalData, references .terminal⟩, references .nonterminal,
      ⟨productionData, references .production⟩, references .disambiguationFunction,
      references .terminalClass⟩

end ExtensionData

namespace Partition

/-- Inputs of a partition that fit together. -/
structure Consistent (full : Grammar) (table : SymbolTable) (host : Grammar)
    (hostStates : OrderedMap Nat) (extensionStates : IndexSet) : Prop where
  states : StatePartition.Consistent hostStates extensionStates
  symbols : SymbolPartition.Consistent full host
  entries : ∀ c, ∀ s ∈ full.symbols c, ∃ entry, table.get? s = some entry ∧ entry.kind = c
  terminalData : ∀ s ∈ full.terminals, s ∉ host.terminals → ∃ a, full.terminalData.get? s = some a
  productionData : ∀ s ∈ full.productions, s ∉ host.productions →
    ∃ a, full.productionData.get? s = some a
  references : ∀ c, ∀ s ∈ full.symbols c, s ∉ host.symbols c →
    ∀ r ∈ full.references c s, ∃ d, r ∈ full.symbols d

variable {full : Grammar} {table : SymbolTable} {host : Grammar} {hostStates : OrderedMap Nat}
  {extensionStates : IndexSet} {p : Partition}

/-- Every composed symbol has an entry of its category if all of them pass the check. -/
theorem forall_checkEntry_iff :
    (∀ s ∈ SymbolPartition.composed full, checkEntry table s = .ok ()) ↔
      ∀ c, ∀ s ∈ full.symbols c, ∃ entry, table.get? s = some entry ∧ entry.kind = c := by
  simp only [checkEntry_eq_ok_iff, Prod.forall, SymbolPartition.mem_composed]

theorem exists_ownEntries_iff {owned : List CategorizedSymbol} :
    (∃ kept, ownEntries table owned = .ok kept) ↔
      ∀ s ∈ owned, ∃ entry, table.get? s.2 = some entry := by
  simp only [ownEntries, exists_bind_iff, pure_eq_ok_iff, exists_eq', and_true, exists_mapM_iff]
  refine forall₂_congr (fun s _ => ?_)
  cases table.get? s.2 <;> simp

/-- The data of an extension is kept if it is consistent with the symbols of the composed
grammar. -/
theorem exists_data_iff {symbols : OrderedMap Decomposed}
    (numbers : SymbolPartition.Numbers full host symbols) :
    (∃ data, ExtensionData.build full symbols (SymbolPartition.extensionOwned full host) =
      .ok data) ↔
      (∀ s ∈ full.terminals, s ∉ host.terminals → ∃ a, full.terminalData.get? s = some a) ∧
      (∀ s ∈ full.productions, s ∉ host.productions →
        ∃ a, full.productionData.get? s = some a) ∧
      ∀ c, ∀ s ∈ full.symbols c, s ∉ host.symbols c →
        ∀ r ∈ full.references c s, ∃ d, r ∈ full.symbols d := by
  simp only [ExtensionData.exists_build_iff, SymbolPartition.mem_extensionOwned, and_imp,
    ExtensionData.Resolvable, numbers.exists_get?_iff]
  rfl

/-- An extension is partitioned exactly if the inputs are consistent. -/
theorem exists_build_iff_consistent :
    (∃ p, build full table host hostStates extensionStates = .ok p) ↔
      Consistent full table host hostStates extensionStates := by
  constructor
  · intro given
    obtain ⟨p, built⟩ := given
    have b := build_eq_ok_iff.mp built
    obtain ⟨terminalData, productionData, references⟩ :=
      (exists_data_iff b.numbers).mp ⟨p.data, b.extensionOwned ▸ b.data⟩
    exact {
      states := StatePartition.exists_build_iff.mp ⟨p.states, b.states⟩
      symbols := SymbolPartition.exists_build_iff.mp ⟨p.symbols, b.symbols⟩
      entries := forall_checkEntry_iff.mp b.entries
      terminalData := terminalData
      productionData := productionData
      references := references }
  · intro consistent
    obtain ⟨states, stateRun⟩ := StatePartition.exists_build_iff.mpr consistent.states
    obtain ⟨symbols, symbolRun⟩ := SymbolPartition.exists_build_iff.mpr consistent.symbols
    have checked := forall_checkEntry_iff.mpr consistent.entries
    have covered : ∀ s ∈ SymbolPartition.extensionOwned full host,
        ∃ entry, table.get? s.2 = some entry := by
      intro s own
      obtain ⟨inside, _⟩ := (SymbolPartition.mem_extensionOwned s.1 s.2).mp own
      obtain ⟨entry, found, _⟩ := consistent.entries s.1 s.2 inside
      exact ⟨entry, found⟩
    obtain ⟨ownTable, entryRun⟩ := exists_ownEntries_iff.mpr covered
    obtain ⟨data, dataRun⟩ := (exists_data_iff
      (SymbolPartition.build_numbers full host symbols symbolRun)).mpr
      ⟨consistent.terminalData, consistent.productionData, consistent.references⟩
    simp only [build, exists_bind_iff, pure_eq_ok_iff, exists_eq', and_true]
    exact ⟨states, stateRun, symbols, symbolRun, (), (forM_eq_ok_iff _ _).mpr checked, ownTable,
      entryRun, data, dataRun⟩

end Partition

end ParserSplice
