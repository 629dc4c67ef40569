import ParserSplice.Emission.Driver
import ParserSplice.Proofs.Engine.ComposedStates
import ParserSplice.Proofs.Indexing.References
import ParserSplice.Proofs.Scanner.Bounds

set_option autoImplicit false

namespace ParserSplice

namespace Indexed

/-- The line of an extension, whose number of states and first state are looked up. -/
def fragmentLine (l : Layout) (entry : ExtensionFragment × Nat) : Except Stop String := do
  let count ← fetch l.counts entry.2
  let offset ← fetch l.offsets entry.2
  return "  " ++ toString (entry.2 + 1) ++ ": " ++ entry.1.name ++ ", " ++ toString count ++
    " states from " ++ toString offset

/-- The line of a marking terminal, whose extension is looked up. -/
def markingLine (host : HostFragment) (extensions : List ExtensionFragment) (m : PlacedMarking) :
    Except Stop String := do
  let e ← fetch extensions m.extension
  return "  column " ++ toString m.column ++ ": " ++ e.name ++ " terminal " ++
    toString m.terminal ++ " on " ++ (host.symbolTable.name? m.hook).getD "?" ++
    ", enters state " ++ toString m.target

/-- The names of a marking terminal, whose extension is looked up. -/
def markingName (extensions : List ExtensionFragment) (m : PlacedMarking) :
    Except Stop (Option TerminalName) := do
  let e ← fetch extensions m.extension
  return e.partition.symbolTable.terminalName? m.terminal

/-- The text of the driver of an engine. Its first four lines are the same for all engines. -/
def driver (engine : Engine) (host : HostFragment) (extensions : List ExtensionFragment)
    (options : EmitOptions) : Except Stop String := do
  let fragments ← extensions.zipIdx.mapM (fragmentLine engine.layout)
  let markings ← engine.layout.markings.mapM (markingLine host extensions)
  let markingNames ← engine.scanner.terminals.mapM (markingName extensions)
  let names := { NameTables.ofEngine engine host extensions with markings := markingNames }
  let summary := ["Fragments:",
      "  0: host, " ++ toString engine.layout.hostStates ++ " states, marking scanner"] ++
    fragments ++ Emission.titled "Marking terminals:" markings ++
    Emission.titled "Conflicts:" (engine.conflicts.map (fun c => "  " ++ c.text))
  let lines := ((Emission.header engine host extensions).take 4 ++ summary ++ ["*/", ""]) ++
    Emission.preamble options ++ Emission.imports ++
    Emission.constants engine.layout host names ++
    Emission.nameTables (extensions.map ExtensionFragment.name)
      (engine.scanner.terminals.map PlacedMarking.column) names ++
    Emission.artifacts engine ++ Emission.arrays options.parserName ++
    Emission.loader options.parserName ++ Emission.parser options.parserName ++
    Emission.interface options.parserName engine extensions
  return String.join (lines.map (fun line => line ++ "\n"))

section Laid

variable {host : HostFragment} {extensions : List ExtensionFragment} {l : Layout}

theorem fragmentLine_eq (laid : Layout.Laid host extensions l) {entry : ExtensionFragment × Nat}
    (listed : entry ∈ extensions.zipIdx) :
    fragmentLine l entry = .ok (Emission.fragmentLine l entry) := by
  have place := List.mem_zipIdx_iff_getElem?.mp listed
  have first := getElem?_offsets_of_mem laid listed
  have count : l.counts[entry.2]? = some entry.1.size := by
    rw [laid.counts, List.getElem?_map, place]
    rfl
  rw [fragmentLine, fetch_eq count, ok_bind, fetch_eq first, ok_bind, Emission.fragmentLine, count]
  rfl

/-- The extension of a marking terminal is one of the extensions. -/
theorem exists_extension (laid : Layout.Laid host extensions l) {mk : PlacedMarking}
    (inside : mk ∈ l.markings) : ∃ e, extensions[mk.extension]? = some e := by
  obtain ⟨e, _, listed, _⟩ := laid.declared inside
  exact ⟨e, listed⟩

theorem markingLine_eq (laid : Layout.Laid host extensions l) {mk : PlacedMarking}
    (inside : mk ∈ l.markings) :
    markingLine host extensions mk = .ok (Emission.markingLine host extensions mk) := by
  obtain ⟨e, listed⟩ := exists_extension laid inside
  -- The equation that unfolding would use takes long to derive.
  delta Emission.markingLine
  rw [markingLine, fetch_eq listed, ok_bind, listed]
  rfl

theorem markingName_eq (laid : Layout.Laid host extensions l) {mk : PlacedMarking}
    (inside : mk ∈ l.markings) :
    markingName extensions mk = .ok (NameTables.ofMarking extensions mk) := by
  obtain ⟨e, listed⟩ := exists_extension laid inside
  rw [markingName, fetch_eq listed, ok_bind, NameTables.ofMarking, listed]
  rfl

/-- Emitting a driver finds every place if the scanner keeps the marking terminals of the layout. -/
theorem driver_eq {engine : Engine} (laid : Layout.Laid host extensions engine.layout)
    (kept : engine.scanner.terminals = engine.layout.markings) (options : EmitOptions) :
    driver engine host extensions options = .ok (engine.driver host extensions options) := by
  have fragments : extensions.zipIdx.mapM (fragmentLine engine.layout) =
      .ok (extensions.zipIdx.map (Emission.fragmentLine engine.layout)) :=
    mapM_ok (fun _ listed => fragmentLine_eq laid listed)
  have markings : engine.layout.markings.mapM (markingLine host extensions) =
      .ok (engine.layout.markings.map (Emission.markingLine host extensions)) :=
    mapM_ok (fun _ inside => markingLine_eq laid inside)
  have names : engine.scanner.terminals.mapM (markingName extensions) =
      .ok (engine.scanner.terminals.map (NameTables.ofMarking extensions)) :=
    mapM_ok (fun _ inside => markingName_eq laid (kept ▸ inside))
  simp only [driver, fragments, markings, names, ok_bind]
  rfl

end Laid

end Indexed

namespace Composition

open Indexed (Stop)

/-- Nothing that is looked up for a composition is missing, when scanners are made in some way. With
places looked up as they are, everything ends as without: partitioning, merging, and emitting the
driver of an engine that was merged. Two kinds of references are checked and reported if they are
missing, which they never are. -/
structure FindsPlaces (c : Composition)
    (indexed : OrderedMap String → Except Stop (ScannerTable × ScannerSets))
    (scan : OrderedMap String → Except CompositionError (ScannerTable × ScannerSets)) : Prop where
  fragments : Indexed.fragments c = Indexed.lift c.fragments
  engine : Indexed.engine indexed c = Indexed.lift (c.engineBy scan)
  inRange : Indexed.fragments c ≠ .error .outOfRange ∧ Indexed.engine indexed c ≠ .error .outOfRange
  driver : ∀ host extensions engine, c.fragments = .ok (host, extensions) →
    Engine.buildBy scan host extensions = .ok engine →
    ∀ options, Indexed.driver engine host extensions options =
      .ok (engine.driver host extensions options)
  symbolTable : ∀ index, c.fragments ≠ .error (.unknownReference index "symbol table") ∧
    c.engineBy scan ≠ .error (.unknownReference index "symbol table")
  marking : ∀ index, c.engineBy scan ≠ .error (.unknownReference index "marking terminal")

/-- A composition finds places if making scanners does, and is then refused for other reasons. -/
theorem findsPlaces_of_scan (c : Composition)
    {indexed : OrderedMap String → Except Stop (ScannerTable × ScannerSets)}
    {scan : OrderedMap String → Except CompositionError (ScannerTable × ScannerSets)}
    (same : ∀ regexes, indexed regexes = Indexed.lift (scan regexes))
    (quiet : ∀ regexes, Tells CompositionError.ofInput (scan regexes)) :
    c.FindsPlaces indexed scan := by
  have fragments := Indexed.fragments_eq c
  have engine := Indexed.engine_eq same c
  have refused {fault : CompositionError} (missing : fault.ofInput = false) :
      c.fragments ≠ .error fault ∧ c.engineBy scan ≠ .error fault := by
    constructor
    · intro failed
      exact Bool.false_ne_true (missing.symm.trans (c.tells_fragments fault failed))
    · intro failed
      exact Bool.false_ne_true (missing.symm.trans (c.tells_engineBy quiet fault failed))
  constructor
  case fragments => exact fragments
  case engine => exact engine
  case inRange =>
    rw [fragments, engine]
    exact ⟨Indexed.lift_ne_outOfRange _, Indexed.lift_ne_outOfRange _⟩
  case driver =>
    intro host extensions engine _ built options
    have laid := Layout.compute_eq_ok_iff.mp ((Engine.buildBy_eq_ok_iff engine).mp built).1
    exact Indexed.driver_eq laid (Engine.terminals_of_buildBy built) options
  case symbolTable => exact fun index => refused rfl
  case marking => exact fun index => (refused rfl).2

/-- Whatever a composition consists of, nothing that is looked up for it is missing when a library
makes its scanners that only reports patterns that it was given, like that of the program. -/
theorem findsPlaces (library : Compiler) (honest : library.Honest) (c : Composition) :
    c.FindsPlaces (Indexed.scan library) library.build ∧
      c.FindsPlaces (Indexed.scan Scanner.compiler) Scanner.build :=
  ⟨c.findsPlaces_of_scan (Indexed.scan_eq honest) library.tells_build,
    c.findsPlaces_of_scan (Indexed.scan_eq Scanner.compiler_honest) Scanner.compiler.tells_build⟩

/-- The automaton of the one expression `@`. That it matches is reported one step late, by the state
that any byte or the end leads to from the state after the character. -/
def atAutomaton : ByteAutomaton (Fin 4) where
  start := 1
  next state b := if state = 1 ∧ b = 64 then 2 else if state = 2 then 3 else 0
  atEnd state := if state = 2 then 3 else 0
  dead state := state = 0
  quit _ := false
  matching state := state = 3
  patterns _ := [0]

/-- A library that knows no other expression. -/
def atCompiler : Compiler where
  Expression := Unit
  read text := if text = "@" then .ok () else .error "unknown expression"
  compile expressions :=
    match expressions with
    | [_] => .ok ⟨4, atAutomaton⟩
    | _ => .error "not a single expression"

theorem atCompiler_honest : atCompiler.Honest := by
  intro expressions n D compiled state _ pattern listed
  match expressions, compiled with
  | [_], compiled =>
    cases compiled
    rw [List.mem_singleton.mp listed]
    exact Nat.one_pos

def markedComposition : Composition :=
  ⟨MergedTables.statementFragment,
    [{ Engine.statesBundle [∅, ∅] with markings := .ofList [(1, ⟨2, .extension 0, "@"⟩)] }]⟩

theorem exists_atScanner : ∃ scanner, atCompiler.build (.ofList [(4, "@")]) = .ok scanner := by
  obtain ⟨numbering, _, flat⟩ := Compiler.exists_numbered atAutomaton [4]
  exact ⟨_, (Compiler.build_of_nonempty rfl).mpr ⟨[()], 4, atAutomaton, rfl, rfl, flat⟩⟩

theorem findsPlaces_markedComposition : atCompiler.Honest ∧
    (∃ engine, markedComposition.engineBy atCompiler.build = .ok engine ∧
      engine.layout.markings = [⟨0, 1, 2, 3, 4⟩]) ∧
    markedComposition.FindsPlaces (Indexed.scan atCompiler) atCompiler.build ∧
    markedComposition.FindsPlaces (Indexed.scan Scanner.compiler) Scanner.build := by
  refine ⟨atCompiler_honest, ?_, findsPlaces atCompiler atCompiler_honest markedComposition⟩
  have split : markedComposition.fragments = .ok (MergedTables.statementFragment, _) := rfl
  have computed : Layout.compute MergedTables.statementFragment
      [{ Engine.statesFragment [∅, ∅] with markings := .ofList [(1, ⟨2, .extension 0, "@"⟩)] }] =
        .ok _ := rfl
  obtain ⟨engine, built, layout, _⟩ := Engine.exists_buildBy computed rfl rfl rfl exists_atScanner
  have whole : markedComposition.engineBy atCompiler.build = .ok engine :=
    (bind_eq_ok_iff _ _ _).mpr ⟨_, split, built⟩
  exact ⟨engine, whole, (congrArg Layout.markings layout).trans rfl⟩

end Composition

end ParserSplice
