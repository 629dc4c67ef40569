import ParserSplice.Fragment.Basic
import ParserSplice.Proofs.Indexing.Basic
import ParserSplice.Proofs.Partition.Recovery

set_option autoImplicit false

namespace ParserSplice

theorem OrderedSet.elems_ofList {items : List Nat} (sorted : Ascending items) :
    (OrderedSet.ofList items).elems = items :=
  congrArg OrderedSet.elems (OrderedSet.ofList_elems (⟨items, sorted⟩ : IndexSet))

/-- The places of a category are the numbers of the extension's symbols of the category. -/
theorem elems_placesOf (owned : List CategorizedSymbol) (c : Category) :
    (placesOf owned c).elems = (ExtensionData.ofCategory owned c).map Prod.fst := by
  have places : (owned.zipIdx.map Prod.snd).Pairwise (· < ·) := by
    rw [List.zipIdx_map_snd]
    exact List.pairwise_lt_range'
  have sorted : Ascending ((owned.zipIdx.filter (fun entry => entry.1.1 == c)).map Prod.snd) :=
    places.sublist (List.filter_sublist.map Prod.snd)
  rw [placesOf, OrderedSet.elems_ofList sorted, ExtensionData.ofCategory, List.map_map]
  rfl

namespace Indexed

variable {α β : Type}

/-- Reads the data of each symbol of a category and resolves its references. The symbols are looked
up in the list of the extension's own symbols. -/
def collect (ownSymbols : List Nat) (numbers : IndexSet) (find : Nat → Except CompositionError α)
    (translate : α → Except CompositionError β) : Except Stop (OrderedMap β) := do
  let entries ← numbers.elems.mapM (fun number => do
    let index ← fetch ownSymbols number
    let data ← lift (find index)
    let resolved ← lift (translate data)
    return (number, resolved))
  return OrderedMap.ofList entries

theorem collect_eq (owned : List CategorizedSymbol) (c : Category)
    (find : Nat → Except CompositionError α) (translate : α → Except CompositionError β) :
    collect (owned.map Prod.snd) (placesOf owned c) find translate =
      lift (ExtensionData.collect owned c find translate) := by
  rw [collect, ExtensionData.collect, elems_placesOf, List.mapM_map, lift_bind, lift_mapM]
  congr 1
  apply mapM_congr
  rintro ⟨number, index⟩ listed
  have place : (owned.map Prod.snd)[number]? = some index := by
    rw [List.getElem?_map, (ExtensionData.mem_ofCategory owned c number index).mp listed]
    rfl
  simp only [Function.comp_apply, fetch_eq place, ok_bind, lift_bind, lift_pure]

def extensionData (full : Grammar) (symbols : OrderedMap Decomposed)
    (owned : List CategorizedSymbol) : Except Stop ExtensionData := do
  let ownSymbols := owned.map Prod.snd
  let terminals ← collect ownSymbols (placesOf owned .terminal)
    (ExtensionData.need full.terminalData .terminal) (ExtensionData.resolveTerminal symbols)
  let nonterminals ← collect ownSymbols (placesOf owned .nonterminal)
    (fun index => .ok ((full.nonterminalData.get? index).getD {}))
    (ExtensionData.resolveNonterminal symbols)
  let productions ← collect ownSymbols (placesOf owned .production)
    (ExtensionData.need full.productionData .production) (ExtensionData.resolveProduction symbols)
  let disambiguations ← collect ownSymbols (placesOf owned .disambiguationFunction)
    (fun index => .ok ((full.disambiguationData.get? index).getD {}))
    (ExtensionData.resolveDisambiguation symbols)
  let terminalClasses ← collect ownSymbols (placesOf owned .terminalClass)
    (fun index => .ok ((full.terminalClassData.get? index).getD {}))
    (ExtensionData.resolveTerminalClass symbols)
  return ⟨terminals, nonterminals, productions, disambiguations, terminalClasses,
    ExtensionData.longest productions⟩

theorem extensionData_eq (full : Grammar) (symbols : OrderedMap Decomposed)
    (owned : List CategorizedSymbol) :
    extensionData full symbols owned = lift (ExtensionData.build full symbols owned) := by
  simp only [extensionData, ExtensionData.build, collect_eq, lift_bind, lift_pure]

def partition (full : Grammar) (table : SymbolTable) (host : Grammar) (hostStates : OrderedMap Nat)
    (extensionStates : IndexSet) : Except Stop Partition := do
  let states ← lift (StatePartition.build hostStates extensionStates)
  let symbols ← lift (SymbolPartition.build full host)
  let owned := SymbolPartition.extensionOwned full host
  lift ((SymbolPartition.composed full).forM (Partition.checkEntry table))
  let ownTable ← lift (Partition.ownEntries table owned)
  let data ← extensionData full symbols owned
  return {
    states := states
    extensionStates := extensionStates
    symbols := symbols
    hostOwned := SymbolPartition.hostOwned full host
    extensionOwned := owned
    data := data
    symbolTable := ownTable
    productionLengths := full.productionLengths }

def fragments (c : Composition) : Except Stop (HostFragment × List ExtensionFragment) := do
  let extensions ← c.extensions.mapM (fun b => do
    let split ← partition b.grammar b.symbolTable c.host.grammar b.hostStates b.extensionStates
    return { b.toFragment with name := b.name, partition := split, markings := b.markings })
  return (c.host, extensions)

theorem partition_eq (full : Grammar) (table : SymbolTable) (host : Grammar)
    (hostStates : OrderedMap Nat) (extensionStates : IndexSet) :
    partition full table host hostStates extensionStates =
      lift (Partition.build full table host hostStates extensionStates) := by
  simp only [partition, Partition.build, extensionData_eq, lift_bind, lift_pure]

/-- Partitioning finds every place. -/
theorem fragments_eq (c : Composition) : fragments c = lift c.fragments := by
  simp only [fragments, Composition.fragments, ExtensionBundle.partitioned, partition_eq, lift_bind,
    lift_pure, lift_mapM]

end Indexed

end ParserSplice
