import ParserSplice.Engine.Contents

set_option autoImplicit false

namespace ParserSplice

/-- A merged engine. -/
structure Engine where
  layout : Layout
  tables : MergedTables
  conflicts : List Conflict
  scanner : MarkingScanner
  artifacts : List (ArtifactKind × Artifact)
deriving DecidableEq

section By

variable (scan : OrderedMap String → Except CompositionError (ScannerTable × ScannerSets))

/-- Merges a host and its extensions, by some way to make scanners. -/
def Engine.buildBy (host : HostFragment) (extensions : List ExtensionFragment) :
    Except CompositionError Engine := do
  let layout ← Layout.compute host extensions
  let copied ← MergedTables.copy host extensions layout
  let (tables, filled) := copied.fill host extensions layout
  let conflicts ← filled
  let scanner ← MarkingScanner.buildBy scan extensions layout
  return {
    layout := layout
    tables := tables
    conflicts := conflicts
    scanner := scanner
    artifacts := EngineContents.artifacts ⟨host, extensions, tables, scanner⟩ }

/-- Partitions the extensions of a composition and merges its fragments, by some way to make
scanners. -/
def Composition.engineBy (c : Composition) : Except CompositionError Engine := do
  let (host, extensions) ← c.fragments
  Engine.buildBy scan host extensions

end By

def Engine.build (host : HostFragment) (extensions : List ExtensionFragment) :
    Except CompositionError Engine :=
  Engine.buildBy Scanner.build host extensions

end ParserSplice
