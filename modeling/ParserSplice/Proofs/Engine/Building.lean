import ParserSplice.Engine.Basic
import ParserSplice.Proofs.Engine.MarkingColumns
import ParserSplice.Proofs.Scanner.Compiling

set_option autoImplicit false

namespace ParserSplice

variable {scan : OrderedMap String → Except CompositionError (ScannerTable × ScannerSets)}

namespace MarkingScanner

variable {host : HostFragment} {extensions : List ExtensionFragment} {l : Layout}

/-- Marking terminals are laid out in order of their columns. -/
theorem ordered_eq (laid : Layout.Laid host extensions l) : ordered l = l.markings := by
  apply List.mergeSort_of_pairwise
  have ascending : (l.markings.map (fun mk => mk.column)).Pairwise (· < ·) := by
    rw [laid.columns_markings]
    exact List.pairwise_lt_range'
  rw [List.pairwise_map] at ascending
  exact ascending.imp (fun before => decide_eq_true (Nat.le_of_lt before))

theorem exists_buildBy (laid : Layout.Laid host extensions l) {regexes : List (Nat × String)}
    (found : l.markings.mapM (regexOf extensions) = .ok regexes)
    (scanned : ∃ scanner, scan (.ofList regexes) = .ok scanner) :
    ∃ scanner, buildBy scan extensions l = .ok scanner := by
  obtain ⟨⟨table, sets⟩, scanned⟩ := scanned
  refine ⟨⟨l.markings, table, sets, List.replicate l.totalStates ∅⟩, ?_⟩
  simp only [buildBy, ordered_eq laid, bind_eq_ok_iff, pure_eq_ok_iff]
  exact ⟨regexes, found, (table, sets), scanned, rfl⟩

end MarkingScanner

namespace Engine

variable {host : HostFragment} {extensions : List ExtensionFragment}

theorem buildBy_eq_ok_iff (engine : Engine) : buildBy scan host extensions = .ok engine ↔
    Layout.compute host extensions = .ok engine.layout ∧
    (∃ copied, MergedTables.copy host extensions engine.layout = .ok copied ∧
      copied.fill host extensions engine.layout = (engine.tables, .ok engine.conflicts)) ∧
    MarkingScanner.buildBy scan extensions engine.layout = .ok engine.scanner ∧
    EngineContents.artifacts ⟨host, extensions, engine.tables, engine.scanner⟩ =
      engine.artifacts := by
  simp only [buildBy, bind_eq_ok_iff, pure_eq_ok_iff]
  constructor
  · intro given
    obtain ⟨l, computed, copied, made, conflicts, filled, scanner, scanned, rfl⟩ := given
    exact ⟨computed, ⟨copied, made, Prod.ext rfl filled⟩, scanned, rfl⟩
  · intro given
    obtain ⟨computed, ⟨copied, made, filled⟩, scanned, artifacts⟩ := given
    refine ⟨engine.layout, computed, copied, made, engine.conflicts, ?_, engine.scanner, scanned, ?_⟩
    · rw [filled]
    · rw [filled, artifacts]

/-- A scanner keeps the marking terminals in the order of the layout. -/
theorem terminals_of_buildBy {engine : Engine}
    (built : buildBy scan host extensions = .ok engine) :
    engine.scanner.terminals = engine.layout.markings := by
  obtain ⟨computed, _, scanned, _⟩ := (buildBy_eq_ok_iff engine).mp built
  have laid := Layout.compute_eq_ok_iff.mp computed
  simp only [MarkingScanner.buildBy, MarkingScanner.ordered_eq laid, bind_eq_ok_iff,
    pure_eq_ok_iff] at scanned
  obtain ⟨_, _, _, _, made⟩ := scanned
  rw [← made]

/-- An engine can be built once its tables are filled and its marking terminals can be scanned. -/
theorem exists_buildBy {l : Layout} {t t' : MergedTables} {conflicts : List Conflict}
    (computed : Layout.compute host extensions = .ok l)
    (copied : MergedTables.copy host extensions l = .ok t)
    (filled : t.fill host extensions l = (t', .ok conflicts)) {regexes : List (Nat × String)}
    (found : l.markings.mapM (MarkingScanner.regexOf extensions) = .ok regexes)
    (scanned : ∃ scanner, scan (.ofList regexes) = .ok scanner) :
    ∃ engine, buildBy scan host extensions = .ok engine ∧ engine.layout = l ∧
      engine.tables = t' ∧ engine.conflicts = conflicts := by
  obtain ⟨scanner, scanned⟩ :=
    MarkingScanner.exists_buildBy (Layout.compute_eq_ok_iff.mp computed) found scanned
  exact ⟨⟨l, t', conflicts, scanner, EngineContents.artifacts ⟨host, extensions, t', scanner⟩⟩,
    (buildBy_eq_ok_iff _).mpr ⟨computed, ⟨t, copied, filled⟩, scanned, rfl⟩, rfl, rfl, rfl⟩

def waitingExpressions : List Regex.Meaning :=
  (Scanner.compiler.readAll (.ofList [(7, "@")])).toOption.getD []

theorem exists_waitingScanner : ∃ scanner, Scanner.build (.ofList [(7, "@")]) = .ok scanner := by
  have read : Scanner.compiler.readAll (.ofList [(7, "@")]) = .ok waitingExpressions :=
    eq_ok_of_isOk [] (by decide +kernel)
  let first := Scanner.Progress.initial (Scanner.termsOf waitingExpressions)
  exact Scanner.exists_build rfl read (by decide +kernel)
    (show (Scanner.Progress.automaton _).Closed [first, first.step 64, (first.step 64).step 64] by
      decide +kernel)
    List.mem_cons_self (by decide)

theorem exists_waitingEngine : ∃ engine,
    buildBy Scanner.build MergedTables.waitingFragment [MergedTables.waitingExtension] =
      .ok engine ∧
    engine.tables.action 1 7 = .shift 3 := by
  have computed : Layout.compute MergedTables.waitingFragment [MergedTables.waitingExtension] =
      .ok _ := rfl
  obtain ⟨engine, built, _, tables, _⟩ := exists_buildBy computed rfl rfl rfl exists_waitingScanner
  exact ⟨engine, built, by rw [tables]; rfl⟩

end Engine

end ParserSplice
