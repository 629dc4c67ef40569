import ParserSplice.Proofs.Artifact.Loading
import ParserSplice.Proofs.Document.Composition
import ParserSplice.Proofs.Emission.ArtifactBlocks
import ParserSplice.Proofs.Engine.MarkingRecognition
import ParserSplice.Proofs.Engine.Reductions
import ParserSplice.Proofs.Scanner.Bounds

set_option autoImplicit false

namespace ParserSplice

theorem fits_of_small {n : Nat} (small : n ≤ UInt32.size) : Fits64 n :=
  Nat.lt_of_le_of_lt small (by decide)

/-- A way to make scanners whose numbers fit if the terminals do. -/
def Scanner.FitsBuilt
    (scan : OrderedMap String → Except CompositionError (ScannerTable × ScannerSets)) : Prop :=
  ∀ (regexes : OrderedMap String) (table : ScannerTable) (sets : ScannerSets),
    (∀ t ∈ regexes.keys, Fits64 t) → scan regexes = .ok (table, sets) → table.Fits ∧ sets.Fits

/-- A library that makes few states fits. -/
theorem Compiler.fitsBuilt {library : Compiler} {limit : Nat} (within : library.Within limit)
    (small : limit ≤ UInt32.size) : Scanner.FitsBuilt library.build := by
  intro regexes table sets own built
  have bounded := bounded_of_build within built
  refine ⟨⟨fits_of_small (by rw [bounded.start]; decide), fun row listed state inside =>
      fits_of_small (Nat.le_trans (bounded.rows row listed state inside) small)⟩,
    ⟨fun set inside t held => own t (bounded.accepts set inside t held), fun set inside => ?_,
      fun set inside t held => own t (bounded.possible set inside t held)⟩⟩
  rw [bounded.rejects set inside]
  exact fun n held => absurd held (OrderedSet.not_mem_empty n)

/-- Sources whose numbers fit, and so do the lengths of their productions. -/
structure SourcesFit (host : HostFragment) (extensions : List ExtensionFragment) : Prop where
  hostFragment : host.toFragment.Fits
  fragments : ∀ e ∈ extensions, e.toFragment.Fits
  hostLengths : ∀ n ∈ host.grammar.productionLengths, Fits64 n
  extensionLengths : ∀ e ∈ extensions, ∀ n ∈ e.partition.productionLengths, Fits64 n

namespace Engine

variable {scan : OrderedMap String → Except CompositionError (ScannerTable × ScannerSets)}
variable {host : HostFragment} {extensions : List ExtensionFragment} {engine : Engine}

/-- The table that an engine holds, by the kind of the artifact that carries it. Tables of scanners
start with the marking scanner, and production lengths with those of the host; those of the
extensions follow in order. -/
def held (engine : Engine) (host : HostFragment) (extensions : List ExtensionFragment) :
    ArtifactKind → TableContent
  | .parseTable => .cells engine.tables.cells
  | .hostUses => .uses engine.tables.hostUses
  | .extensionUses => .usesPerFragment engine.tables.extensionUses
  | .markingLayouts => .sets engine.scanner.layouts
  | .layouts => .sets engine.tables.layouts
  | .transitions =>
    .transitions (engine.scanner.table.rows :: extensions.map (fun e => e.scanner.rows))
  | .accepts =>
    .setsPerFragment
      (engine.scanner.sets.accepts :: extensions.map (fun e => e.scannerSets.accepts))
  | .rejects =>
    .setsPerFragment
      (engine.scanner.sets.rejects :: extensions.map (fun e => e.scannerSets.rejects))
  | .possible =>
    .setsPerFragment
      (engine.scanner.sets.possible :: extensions.map (fun e => e.scannerSets.possible))
  | .productionLengths =>
    .lengths (host.grammar.productionLengths ::
      extensions.map (fun e => e.partition.productionLengths))

theorem content_eq_held (k : ArtifactKind) :
    EngineContents.content ⟨host, extensions, engine.tables, engine.scanner⟩ k =
      engine.held host extensions k := by
  cases k <;> rfl

/-- Layout sets are those of the sources. -/
theorem fits_layouts (built : buildBy scan host extensions = .ok engine)
    (own : SourcesFit host extensions) : ∀ set ∈ engine.tables.layouts, set.Fits Fits64 := by
  obtain ⟨computed, ⟨copied, made, filled⟩, _⟩ := (buildBy_eq_ok_iff engine).mp built
  have laid := Layout.compute_eq_ok_iff.mp computed
  have merged := (MergedTables.copy_eq_ok_iff laid).mp made
  have same : engine.tables.layouts = copied.layouts := by
    rw [← MergedTables.eq_of_fill filled]
  have rows : copied.layouts.length = engine.layout.totalStates := by
    rw [merged.layouts, List.length_map, List.length_range]
  intro set inside
  rw [same] at inside
  obtain ⟨row, found⟩ := List.mem_iff_getElem?.mp inside
  have below := (List.getElem?_eq_some_iff.mp found).1
  rw [rows] at below
  obtain ⟨m, member, s, state, rfl⟩ := Member.exists_of_lt_totalStates laid row below
  rw [merged.getElem?_layouts laid member state] at found
  obtain rfl := Option.some.inj found
  have fragment : m.fragment.Fits := by
    rcases (Member.mem_all_iff m).mp member with rfl | ⟨i, e, listed, rfl⟩
    · exact own.hostFragment
    · exact own.fragments e (List.mem_of_getElem? listed)
  rw [Fragment.layout]
  cases listed : m.fragment.layouts[s]? with
  | none => exact fun n held => absurd held (OrderedSet.not_mem_empty n)
  | some set => exact fragment.layouts set (List.mem_of_getElem? listed)

/-- The marking scanner tells about columns only, which are small. -/
theorem fits_scanner (sized : Scanner.FitsBuilt scan)
    (built : buildBy scan host extensions = .ok engine) :
    engine.scanner.table.Fits ∧ engine.scanner.sets.Fits ∧
      ∀ set ∈ engine.scanner.layouts, set.Fits Fits64 := by
  obtain ⟨computed, _, scanned, _⟩ := (buildBy_eq_ok_iff engine).mp built
  have laid := Layout.compute_eq_ok_iff.mp computed
  simp only [MarkingScanner.buildBy, MarkingScanner.ordered_eq laid, bind_eq_ok_iff,
    pure_eq_ok_iff] at scanned
  obtain ⟨regexes, found, ⟨table, sets⟩, scanned, made⟩ := scanned
  have columns : ∀ t ∈ (OrderedMap.ofList regexes).keys, Fits64 t := by
    intro t inside
    rw [OrderedMap.mem_keys_ofList,
      MarkingScanner.map_fst_of_regexes ((mapM_eq_ok_iff _ _ _).mp found),
      laid.columns_markings, List.mem_range'_1] at inside
    have widest := Nat.le_trans (Nat.le_max_right _ _) laid.fits
    rw [laid.width] at widest
    exact fits_of_small (Nat.le_trans (Nat.le_of_lt inside.2)
      (Nat.le_trans widest (by decide)))
  obtain ⟨rows, told⟩ := sized _ table sets columns scanned
  rw [← made]
  refine ⟨rows, told, fun set inside => ?_⟩
  rw [List.eq_of_mem_replicate inside]
  exact fun n held => absurd held (OrderedSet.not_mem_empty n)

/-- All tables of an engine fit. -/
theorem fits_held (sized : Scanner.FitsBuilt scan)
    (built : buildBy scan host extensions = .ok engine) (own : SourcesFit host extensions)
    (k : ArtifactKind) : (engine.held host extensions k).Fits := by
  obtain ⟨table, sets, layouts⟩ := fits_scanner sized built
  -- A table of every scanner fits if that of the marking scanner and those of the extensions do.
  have each {α : Type} {fits : α → Prop} {first : α} {part : ExtensionFragment → α}
      (marking : fits first) (others : ∀ e ∈ extensions, fits (part e)) :
      ∀ table ∈ first :: extensions.map part, fits table := by
    intro table inside
    rcases List.mem_cons.mp inside with rfl | inside
    · exact marking
    · obtain ⟨e, listed, rfl⟩ := List.mem_map.mp inside
      exact others e listed
  cases k with
  | parseTable | hostUses | extensionUses => trivial
  | markingLayouts => exact layouts
  | layouts => exact fits_layouts built own
  | transitions =>
    exact each table.rows (fun e listed => (own.fragments e listed).scanner.rows)
  | accepts =>
    exact each sets.accepts (fun e listed => (own.fragments e listed).scannerSets.accepts)
  | rejects =>
    exact each sets.rejects (fun e listed => (own.fragments e listed).scannerSets.rejects)
  | possible =>
    exact each sets.possible (fun e listed => (own.fragments e listed).scannerSets.possible)
  | productionLengths => exact each own.hostLengths own.extensionLengths

/-- An artifact that a driver carries: the driver has its block, the bytes and the digest read from
the block are those of the artifact, and loading them at the type of the kind gives a table. -/
structure CarriedBy (artifact : Artifact) (driver : String) (k : ArtifactKind)
    (table : TableContent) : Prop where
  block : Emission.Holds driver (Emission.artifactLines (k, artifact))
  read : ∃ tokens,
    Emission.Lexes (Emission.textOf (Emission.artifactLines (k, artifact))) tokens ∧
    Emission.valueOf (k.constantName ++ "_BYTES") (.slice .byte) tokens = some artifact.bytes ∧
    Emission.valueOf (k.constantName ++ "_HASH") .text tokens = some artifact.hash
  loads : ∀ shape name expected, shape.typeName = k.shape.typeName →
    Artifact.CaseVariant artifact.hash expected →
      Artifact.load shape name artifact.bytes expected = .ok table

/-- Every table of an engine survives its driver. -/
theorem carriesTables_of_build (sized : Scanner.FitsBuilt scan)
    (built : buildBy scan host extensions = .ok engine) (own : SourcesFit host extensions)
    (options : EmitOptions) (k : ArtifactKind) :
    ∃ artifact, engine.artifacts.lookup k = some artifact ∧
      CarriedBy artifact (engine.driver host extensions options) k
        (engine.held host extensions k) := by
  have artifacts := ((buildBy_eq_ok_iff engine).mp built).2.2.2
  have found : engine.artifacts.lookup k = some (.ofContent (engine.held host extensions k)) := by
    rw [← artifacts, EngineContents.lookup_artifacts, content_eq_held]
  have listed : (k, Artifact.ofContent (engine.held host extensions k)) ∈ engine.artifacts := by
    obtain ⟨before, after, split, _⟩ := List.lookup_eq_some_iff.mp found
    rw [split]
    exact List.mem_append_right _ List.mem_cons_self
  have shape : (engine.held host extensions k).shape = k.shape := by
    rw [← content_eq_held, EngineContents.shape_content]
  refine ⟨_, found, Emission.holds_artifactLines listed host extensions options,
    ⟨_, Emission.lexes_artifactLines k _, Emission.read_blockDeclarations k _⟩,
    fun shape' name expected same variant => ?_⟩
  rw [TableShape.typeName_injective same, ← shape]
  exact Artifact.load_ofContent _ (fits_held sized built own k) name expected variant

/-- The parse table of an engine with a state of an extension, behind that of the host. -/
theorem carriesTables_waitingFragment : Scanner.FitsBuilt Scanner.build ∧ ∃ engine artifact,
    buildBy Scanner.build MergedTables.waitingFragment [MergedTables.waitingExtension] = .ok engine ∧
    SourcesFit MergedTables.waitingFragment [MergedTables.waitingExtension] ∧
    engine.artifacts.lookup .parseTable = some artifact ∧
    CarriedBy artifact
      (engine.driver MergedTables.waitingFragment [MergedTables.waitingExtension]
        ⟨"Waiting", none⟩) .parseTable
      (engine.held MergedTables.waitingFragment [MergedTables.waitingExtension] .parseTable) := by
  have sized : Scanner.FitsBuilt Scanner.build :=
    Compiler.fitsBuilt Scanner.compiler_within (by decide)
  obtain ⟨engine, built, _⟩ := exists_waitingEngine
  have own : SourcesFit MergedTables.waitingFragment [MergedTables.waitingExtension] :=
    ⟨by decide +kernel, by decide +kernel, by decide +kernel, by decide +kernel⟩
  obtain ⟨artifact, found, carried⟩ :=
    carriesTables_of_build sized built own ⟨"Waiting", none⟩ .parseTable
  exact ⟨sized, engine, artifact, built, own, found, carried⟩

end Engine

end ParserSplice
