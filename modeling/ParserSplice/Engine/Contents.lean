import ParserSplice.Artifact.Basic
import ParserSplice.Engine.Marking

set_option autoImplicit false

namespace ParserSplice

/-- The parts of an engine that its artifacts are made from. -/
structure EngineContents where
  host : HostFragment
  extensions : List ExtensionFragment
  tables : MergedTables
  scanner : MarkingScanner

namespace EngineContents

def perScanner {α : Type} (c : EngineContents) (part : ScannerTable → ScannerSets → α) : List α :=
  part c.scanner.table c.scanner.sets ::
    c.extensions.map (fun e => part e.scanner e.scannerSets)

def productionLengths (c : EngineContents) : List (List Nat) :=
  c.host.grammar.productionLengths :: c.extensions.map (fun e => e.partition.productionLengths)

def content (c : EngineContents) : ArtifactKind → TableContent
  | .parseTable => .cells c.tables.cells
  | .hostUses => .uses c.tables.hostUses
  | .extensionUses => .usesPerFragment c.tables.extensionUses
  | .markingLayouts => .sets c.scanner.layouts
  | .layouts => .sets c.tables.layouts
  | .transitions => .transitions (c.perScanner (fun table _ => table.rows))
  | .accepts => .setsPerFragment (c.perScanner (fun _ sets => sets.accepts))
  | .rejects => .setsPerFragment (c.perScanner (fun _ sets => sets.rejects))
  | .possible => .setsPerFragment (c.perScanner (fun _ sets => sets.possible))
  | .productionLengths => .lengths c.productionLengths

theorem shape_content (c : EngineContents) (k : ArtifactKind) : (c.content k).shape = k.shape := by
  cases k <;> rfl

def artifacts (c : EngineContents) : List (ArtifactKind × Artifact) :=
  ArtifactKind.all.map (fun k => (k, Artifact.ofContent (c.content k)))

end EngineContents

end ParserSplice
