import ParserSplice.Proofs.Engine.Building
import ParserSplice.Proofs.Indexing.Filling
import ParserSplice.Proofs.Indexing.Partition
import ParserSplice.Proofs.Indexing.Scanning

set_option autoImplicit false

namespace ParserSplice

namespace Indexed

variable (scan : OrderedMap String → Except Stop (ScannerTable × ScannerSets))

def scanner (extensions : List ExtensionFragment) (l : Layout) : Except Stop MarkingScanner := do
  let terminals := MarkingScanner.ordered l
  let regexes ← lift (terminals.mapM (MarkingScanner.regexOf extensions))
  let (table, sets) ← scan (OrderedMap.ofList regexes)
  return ⟨terminals, table, sets, List.replicate l.totalStates ∅⟩

/-- Merges a host and its extensions. -/
def build (host : HostFragment) (extensions : List ExtensionFragment) : Except Stop Engine := do
  let laid ← layout host extensions
  let copied ← copy host extensions laid
  let (tables, conflicts) ← fill copied host extensions laid
  let found ← scanner scan extensions laid
  return {
    layout := laid
    tables := tables
    conflicts := conflicts
    scanner := found
    artifacts := EngineContents.artifacts ⟨host, extensions, tables, found⟩ }

/-- Partitions the extensions of a composition and merges its fragments. -/
def engine (c : Composition) : Except Stop Engine := do
  let (host, extensions) ← fragments c
  build scan host extensions

/-- Copied cells stand in a row for each merged state, with a cell for each column. -/
theorem shaped_of_copy {host : HostFragment} {extensions : List ExtensionFragment} {l : Layout}
    (laid : Layout.Laid host extensions l) {t : MergedTables}
    (copied : MergedTables.copy host extensions l = .ok t) :
    Shaped l.totalStates l.width t.cells := by
  have merged := (MergedTables.copy_eq_ok_iff laid).mp copied
  rw [merged.cells]
  constructor
  · rw [List.length_map, List.length_range]
  · intro i row found
    obtain ⟨state, _, rfl⟩ := List.mem_map.mp (List.mem_of_getElem? found)
    exact MergedTables.length_denseRow ..

variable {scan} {plain : OrderedMap String → Except CompositionError (ScannerTable × ScannerSets)}

theorem scanner_eq (same : ∀ regexes, scan regexes = lift (plain regexes))
    (extensions : List ExtensionFragment) (l : Layout) :
    scanner scan extensions l = lift (MarkingScanner.buildBy plain extensions l) := by
  simp only [scanner, MarkingScanner.buildBy, same, lift_bind, lift_pure]

/-- Merging finds every place if making scanners does. -/
theorem build_eq (same : ∀ regexes, scan regexes = lift (plain regexes)) (host : HostFragment)
    (extensions : List ExtensionFragment) :
    build scan host extensions = lift (Engine.buildBy plain host extensions) := by
  rw [build, layout_eq, Engine.buildBy, lift_bind]
  apply lift_bind_congr
  intro l computed
  have laid := Layout.compute_eq_ok_iff.mp computed
  rw [copy_eq laid, lift_bind]
  apply lift_bind_congr
  intro t copied
  rw [fill_eq laid (shaped_of_copy laid copied)]
  simp only [scanner_eq same, lift_bind, lift_pure, bind_assoc, ok_bind]

/-- Building an engine finds every place if making scanners does. -/
theorem engine_eq (same : ∀ regexes, scan regexes = lift (plain regexes)) (c : Composition) :
    engine scan c = lift (c.engineBy plain) := by
  simp only [engine, Composition.engineBy, fragments_eq, build_eq same, lift_bind]

end Indexed

end ParserSplice
