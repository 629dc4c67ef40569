import ParserSplice.Proofs.Emission.NameLookup
import ParserSplice.Proofs.Engine.ComposedStates
import ParserSplice.Proofs.Engine.Dispatch
import ParserSplice.Proofs.Partition.Recovery

set_option autoImplicit false

namespace ParserSplice

theorem SymbolTable.entry?_terminalNames (t : SymbolTable) {terminals : IndexSet} {index : Nat}
    (inside : index ∈ terminals) :
    NameTables.entry? (t.terminalNames terminals) index = t.terminalName? index := by
  have contained : terminals.contains index = true :=
    (OrderedSet.contains_iff_mem _ _).mpr inside
  simp [NameTables.entry?, terminalNames, OrderedSet.lt_span inside, contained]

namespace NameTables

section Cases

variable {t : NameTables} {i terminal first : Nat}

theorem name?_of_le (marking : t.markingColumn ≤ terminal) (fragment : Nat) :
    t.name? fragment terminal = entry? t.markings (terminal - t.markingColumn) := by
  unfold name?
  exact if_pos marking

theorem name?_zero (ordinary : ¬ t.markingColumn ≤ terminal) :
    t.name? 0 terminal = entry? t.host terminal := by
  unfold name?
  exact if_neg ordinary

theorem name?_succ (ordinary : ¬ t.markingColumn ≤ terminal)
    (starts : t.extensionColumns[i]? = some first) : t.name? (i + 1) terminal =
      if first ≤ terminal then entry? (t.extensions[i]?.getD []) (terminal - first)
      else entry? t.host terminal := by
  unfold name?
  rw [if_neg ordinary]
  simp only [starts]

end Cases

variable {host : HostFragment} {extensions : List ExtensionFragment} {engine : Engine}

/-- A marking terminal has the names that the symbol table of its extension gives it, in every
fragment. -/
theorem name?_marking (laid : Layout.Laid host extensions engine.layout)
    (ordered : engine.scanner.terminals = engine.layout.markings) {m : PlacedMarking}
    {e : ExtensionFragment} (placed : m ∈ engine.layout.markings)
    (found : extensions[m.extension]? = some e) (fragment : Nat) :
    (ofEngine engine host extensions).name? fragment m.column =
      e.partition.symbolTable.terminalName? m.terminal := by
  obtain ⟨k, listed⟩ := List.mem_iff_getElem?.mp placed
  have past : (ofEngine engine host extensions).markingColumn ≤ m.column :=
    (laid.column_bounds placed).1
  rw [name?_of_le past, laid.column_getElem? listed]
  simp [ofEngine, entry?, ordered, listed, ofMarking, found]

/-- The terminals of an extension have their names at their columns. -/
theorem name?_own (laid : Layout.Laid host extensions engine.layout) {i t : Nat}
    {e : ExtensionFragment} (found : extensions[i]? = some e)
    (inside : t ∈ e.partition.extensionIndices .terminal) :
    (ofEngine engine host extensions).name? (i + 1) (e.partition.columnOf t) =
      e.partition.symbolTable.terminalName? t := by
  have width := laid.extension_tableWidth_le (List.mem_of_getElem? found)
  have spanned := OrderedSet.lt_span inside
  have ordinary : ¬ engine.layout.ordinaryColumns ≤ e.partition.columnOf t := by
    simp only [Partition.tableWidth, Partition.columnOf] at width ⊢
    omega
  have starts : (ofEngine engine host extensions).extensionColumns[i]? =
      some e.partition.columnOffset := by
    simp [ofEngine, found]
  have table : (ofEngine engine host extensions).extensions[i]? = some e.terminalNames := by
    simp [ofEngine, found]
  have first : e.partition.columnOffset ≤ e.partition.columnOf t := Nat.le_add_right _ _
  rw [name?_succ ordinary starts, if_pos first, table, Option.getD_some, Partition.columnOf,
    Nat.add_sub_cancel_left]
  exact SymbolTable.entry?_terminalNames _ inside

/-- The terminals of the host have their names at their columns, in an extension at those before its
own columns. -/
theorem name?_host (laid : Layout.Laid host extensions engine.layout) {t : Nat}
    (inside : t ∈ host.grammar.terminals) :
    (ofEngine engine host extensions).name? 0 t = host.symbolTable.terminalName? t ∧
    ∀ i e, extensions[i]? = some e → t < e.partition.columnOffset →
      (ofEngine engine host extensions).name? (i + 1) t = host.symbolTable.terminalName? t := by
  have width := laid.host_tableWidth_le
  have spanned := OrderedSet.lt_span inside
  have ordinary : ¬ (ofEngine engine host extensions).markingColumn ≤ t := by
    simp only [Grammar.tableWidth, ofEngine] at width ⊢
    omega
  have table : entry? (ofEngine engine host extensions).host t =
      host.symbolTable.terminalName? t := SymbolTable.entry?_terminalNames _ inside
  refine ⟨by rw [name?_zero ordinary, table], fun i e found below => ?_⟩
  have starts : (ofEngine engine host extensions).extensionColumns[i]? =
      some e.partition.columnOffset := by
    simp [ofEngine, found]
  rw [name?_succ ordinary starts, if_neg (Nat.not_le_of_lt below), table]

end NameTables

namespace Engine

/-- Every terminal has its names: those of an extension, the marking terminals and those of the
host. -/
structure NamesTerminals (host : HostFragment) (extensions : List ExtensionFragment) (l : Layout)
    (answer : Nat → Nat → Option (Option TerminalName)) : Prop where
  ofExtension : ∀ i e, extensions[i]? = some e → ∀ t ∈ e.partition.extensionIndices .terminal,
    ∃ entry, e.partition.symbolTable.get? t = some entry ∧
      answer (i + 1) (e.partition.columnOf t) = some (some ⟨entry.name, entry.display⟩)
  ofMarking : ∀ m ∈ l.markings, ∃ e, extensions[m.extension]? = some e ∧ ∀ fragment,
    answer fragment m.column = some (e.partition.symbolTable.terminalName? m.terminal)
  ofHost : ∀ t ∈ host.grammar.terminals, answer 0 t = some (host.symbolTable.terminalName? t)
  shared : ∀ t ∈ host.grammar.terminals, ∀ i e, extensions[i]? = some e →
    t < e.partition.columnOffset → answer (i + 1) t = some (host.symbolTable.terminalName? t)

variable {c : Composition} {host : HostFragment} {extensions : List ExtensionFragment}
  {engine : Engine}
  {scan : OrderedMap String → Except CompositionError (ScannerTable × ScannerSets)}

/-- The tables of names of an engine name every terminal. -/
theorem namesTerminals_ofEngine (parts : c.fragments = .ok (host, extensions))
    (built : buildBy scan host extensions = .ok engine) :
    NamesTerminals host extensions engine.layout
      (fun fragment t => some ((NameTables.ofEngine engine host extensions).name? fragment t)) := by
  have laid := Layout.compute_eq_ok_iff.mp ((buildBy_eq_ok_iff engine).mp built).1
  refine {
    ofExtension := fun i e found t inside => ?_
    ofMarking := fun m placed => ?_
    ofHost := fun t inside => congrArg some (NameTables.name?_host laid inside).1
    shared := fun t inside i e found below =>
      congrArg some ((NameTables.name?_host laid inside).2 i e found below) }
  · obtain ⟨_, paired⟩ := Composition.fragments_ok parts
    obtain ⟨b, _, split⟩ := exists_item_of_mem paired e (List.mem_of_getElem? found)
    have partition := Partition.build_eq_ok_iff.mp (ExtensionBundle.partitioned_ok split)
    obtain ⟨entry, stored, kind⟩ := partition.exists_ownEntry inside
    refine ⟨entry, stored, congrArg some ?_⟩
    rw [NameTables.name?_own laid found inside, SymbolTable.terminalName?, stored]
    exact if_pos kind
  · obtain ⟨e, _, found, _⟩ := laid.declared placed
    have ordered := terminals_of_buildBy built
    exact ⟨e, found, fun fragment =>
      congrArg some (NameTables.name?_marking laid ordered placed found fragment)⟩

open Emission (Commentable Holds emittedName? nameData nameMethod textOf)

/-- What a driver does about names. The text of its tables gives each terminal its names if the
extensions have names that do no harm in a comment. -/
structure EmitsNames (engine : Engine) (host : HostFragment) (extensions : List ExtensionFragment)
    (driver : String) : Prop where
  data : Holds driver (nameData engine host extensions)
  code : Holds driver nameMethod
  tables : NamesTerminals host extensions engine.layout
    (fun fragment t => some ((NameTables.ofEngine engine host extensions).name? fragment t))
  emitted : (∀ e ∈ extensions, Commentable e.name) →
    NamesTerminals host extensions engine.layout
      (emittedName? (textOf (nameData engine host extensions)))

/-- Every driver names its terminals, unless a comment does not end behind the name of its
extension. -/
theorem emitsNames_of_build (parts : c.fragments = .ok (host, extensions))
    (built : buildBy scan host extensions = .ok engine) (options : EmitOptions) :
    engine.EmitsNames host extensions (engine.driver host extensions options) := by
  have tables := namesTerminals_ofEngine parts built
  refine ⟨Emission.holds_nameData engine host extensions options,
    Emission.holds_nameMethod engine host extensions options, tables, fun harmless => ?_⟩
  have same : emittedName? (textOf (nameData engine host extensions)) =
      fun fragment t => some ((NameTables.ofEngine engine host extensions).name? fragment t) :=
    funext (fun fragment => funext (Emission.emittedName?_eq engine host harmless fragment))
  rwa [same]

def quotedHost : HostFragment :=
  { MergedTables.waitingFragment with
    symbolTable := ⟨[⟨.terminal, "$", none⟩, ⟨.terminal, "x", some "\"x\""⟩]⟩ }

def quotedBundle (label : String) : ExtensionBundle :=
  { MergedTables.waitingExtension.toFragment with
    name := label
    grammar := Partition.extendedGrammar
    symbolTable := ⟨Partition.extendedTable.symbols.set 10 ⟨.terminal, "lit", some "\"*/\" \\"⟩⟩
    hostStates := .ofList [(0, 0), (1, 1), (4, 2)]
    extensionStates := .ofList [2, 3]
    markings := MergedTables.waitingExtension.markings }

def quotedExtension (label : String) : ExtensionFragment :=
  { MergedTables.waitingExtension with
    name := label
    partition := ((quotedBundle "").partitioned Partition.statementHost).toOption.get rfl
      |>.partition }

def quotedLayout (label : String) : Layout :=
  (Layout.compute quotedHost [quotedExtension label]).toOption.get rfl

theorem exists_quotedEngine (label : String) : ∃ engine,
    (Composition.mk quotedHost [quotedBundle label]).fragments =
      .ok (quotedHost, [quotedExtension label]) ∧
    buildBy Scanner.build quotedHost [quotedExtension label] = .ok engine ∧
    engine.layout = quotedLayout label := by
  have computed : Layout.compute quotedHost [quotedExtension label] = .ok _ := rfl
  obtain ⟨engine, built, layout, _⟩ := exists_buildBy computed rfl rfl rfl exists_waitingScanner
  exact ⟨engine, rfl, built, layout⟩

/-- A name with a slash in it does no harm. -/
theorem emitsNames_quotedHost : ∃ engine,
    (Composition.mk quotedHost [quotedBundle "if / else"]).fragments =
      .ok (quotedHost, [quotedExtension "if / else"]) ∧
    buildBy Scanner.build quotedHost [quotedExtension "if / else"] = .ok engine ∧
    (∀ e ∈ [quotedExtension "if / else"], Commentable e.name) ∧
    engine.EmitsNames quotedHost [quotedExtension "if / else"]
      (engine.driver quotedHost [quotedExtension "if / else"] ⟨"Quoted", none⟩) := by
  obtain ⟨engine, parts, built, _⟩ := exists_quotedEngine "if / else"
  exact ⟨engine, parts, built, by decide +kernel, emitsNames_of_build parts built ⟨"Quoted", none⟩⟩

/-- A name that ends its comment is read as another table before that of its extension, so that the
terminals of the extension have no names. -/
theorem misnamed_quotedHost : ∃ engine,
    (Composition.mk quotedHost [quotedBundle "*/ &[], /*"]).fragments =
      .ok (quotedHost, [quotedExtension "*/ &[], /*"]) ∧
    buildBy Scanner.build quotedHost [quotedExtension "*/ &[], /*"] = .ok engine ∧
    emittedName? (textOf (nameData engine quotedHost [quotedExtension "*/ &[], /*"])) 1 4 =
      some none ∧
    ¬ NamesTerminals quotedHost [quotedExtension "*/ &[], /*"] engine.layout
      (emittedName? (textOf (nameData engine quotedHost [quotedExtension "*/ &[], /*"]))) := by
  obtain ⟨engine, parts, built, layout⟩ := exists_quotedEngine "*/ &[], /*"
  have none :
      emittedName? (textOf (nameData engine quotedHost [quotedExtension "*/ &[], /*"])) 1 4 =
        some none := by
    simp only [nameData, NameTables.ofEngine, terminals_of_buildBy built, layout]
    decide +kernel
  refine ⟨engine, parts, built, none, fun names => ?_⟩
  have first : 0 ∈ (quotedExtension "*/ &[], /*").partition.extensionIndices .terminal :=
    (OrderedSet.contains_iff_mem _ _).mp (by decide +kernel)
  have column : (quotedExtension "*/ &[], /*").partition.columnOf 0 = 4 := rfl
  obtain ⟨entry, _, named⟩ := names.ofExtension 0 _ rfl 0 first
  rw [column, none] at named
  cases named

end Engine

end ParserSplice
