import ParserSplice.Document.Composition
import ParserSplice.Engine.Basic
import ParserSplice.Proofs.Document.Grammar

set_option autoImplicit false

namespace ParserSplice

open Json (Codec Fields Value)

def FragmentAction.Fits : FragmentAction → Prop
  | .reduce p => Fits64 p
  | _ => True

/-- A scanner whose states fit. -/
structure ScannerTable.Fits (t : ScannerTable) : Prop where
  start : Fits64 t.start
  rows : ∀ row ∈ t.rows, ∀ state ∈ row, Fits64 state

/-- Terminal sets whose terminals fit. -/
structure ScannerSets.Fits (s : ScannerSets) : Prop where
  accepts : ∀ set ∈ s.accepts, set.Fits Fits64
  rejects : ∀ set ∈ s.rejects, set.Fits Fits64
  possible : ∀ set ∈ s.possible, set.Fits Fits64

/-- A fragment whose numbers fit. -/
structure Fragment.Fits (f : Fragment) : Prop where
  table : ∀ row ∈ f.table.rows, row.Fits FragmentAction.Fits
  lookaheads : ∀ set ∈ f.lookaheads, set.Fits Fits64
  layouts : ∀ set ∈ f.layouts, set.Fits Fits64
  transparents : ∀ set ∈ f.transparents, set.Fits Fits64
  scanner : f.scanner.Fits
  scannerSets : f.scannerSets.Fits
  startable : ∀ set ∈ f.startable, set.Fits Fits64
  reducible : ∀ sources ∈ f.reducible, sources.Fits (OrderedSet.Fits Fits64)

/-- A host whose numbers fit. -/
structure HostFragment.Fits (h : HostFragment) : Prop where
  fragment : h.toFragment.Fits
  grammar : h.grammar.Fits

/-- An extension bundle whose numbers fit. -/
structure ExtensionBundle.Fits (b : ExtensionBundle) : Prop where
  fragment : b.toFragment.Fits
  grammar : b.grammar.Fits
  hostStates : b.hostStates.Fits Fits64
  extensionStates : b.extensionStates.Fits Fits64
  markings : b.markings.Fits (fun m => Fits64 m.hook)

/-- A composition whose numbers fit. -/
structure Composition.Fits (c : Composition) : Prop where
  host : c.host.Fits
  extensions : ∀ b ∈ c.extensions, b.Fits

section Decidability

instance : DecidablePred FragmentAction.Fits
  | .reduce p => inferInstanceAs (Decidable (Fits64 p))
  | .error | .accept | .shift _ | .goto _ => inferInstanceAs (Decidable True)

instance : DecidablePred ScannerTable.Fits := fun t =>
  decidable_of_iff (Fits64 t.start ∧ ∀ row ∈ t.rows, ∀ state ∈ row, Fits64 state)
    ⟨fun ⟨x, y⟩ => ⟨x, y⟩, fun ⟨x, y⟩ => ⟨x, y⟩⟩

instance : DecidablePred ScannerSets.Fits := fun s => decidable_of_iff
  ((∀ set ∈ s.accepts, set.Fits Fits64) ∧ (∀ set ∈ s.rejects, set.Fits Fits64) ∧
    ∀ set ∈ s.possible, set.Fits Fits64)
  ⟨fun ⟨x, y, z⟩ => ⟨x, y, z⟩, fun ⟨x, y, z⟩ => ⟨x, y, z⟩⟩

instance : DecidablePred Fragment.Fits := fun f => decidable_of_iff
  ((∀ row ∈ f.table.rows, row.Fits FragmentAction.Fits) ∧
    (∀ set ∈ f.lookaheads, set.Fits Fits64) ∧ (∀ set ∈ f.layouts, set.Fits Fits64) ∧
    (∀ set ∈ f.transparents, set.Fits Fits64) ∧ f.scanner.Fits ∧ f.scannerSets.Fits ∧
    (∀ set ∈ f.startable, set.Fits Fits64) ∧
    ∀ sources ∈ f.reducible, sources.Fits (OrderedSet.Fits Fits64))
  ⟨fun ⟨s, t, u, v, w, x, y, z⟩ => ⟨s, t, u, v, w, x, y, z⟩,
    fun ⟨s, t, u, v, w, x, y, z⟩ => ⟨s, t, u, v, w, x, y, z⟩⟩

instance : DecidablePred HostFragment.Fits := fun h =>
  decidable_of_iff (h.toFragment.Fits ∧ h.grammar.Fits)
    ⟨fun ⟨x, y⟩ => ⟨x, y⟩, fun ⟨x, y⟩ => ⟨x, y⟩⟩

instance : DecidablePred ExtensionBundle.Fits := fun b => decidable_of_iff
  (b.toFragment.Fits ∧ b.grammar.Fits ∧ b.hostStates.Fits Fits64 ∧
    b.extensionStates.Fits Fits64 ∧ b.markings.Fits (fun m => Fits64 m.hook))
  ⟨fun ⟨v, w, x, y, z⟩ => ⟨v, w, x, y, z⟩, fun ⟨v, w, x, y, z⟩ => ⟨v, w, x, y, z⟩⟩

instance : DecidablePred Composition.Fits := fun c =>
  decidable_of_iff (c.host.Fits ∧ ∀ b ∈ c.extensions, b.Fits)
    ⟨fun ⟨x, y⟩ => ⟨x, y⟩, fun ⟨x, y⟩ => ⟨x, y⟩⟩

end Decidability

theorem FragmentAction.codec_roundTrips : FragmentAction.codec.RoundTrips Fits where
  legible
    | .error, _ => .string "Error"
    | .accept, _ => .string "Accept"
    | .shift target, _ => (Decomposed.codec_lossless.legible target trivial).tagged
    | .reduce p, own => (Codec.number_roundTrips.legible p (own)).tagged
    | .goto target, _ => (Decomposed.codec_lossless.legible target trivial).tagged
  decode
    | .error, _ => by simp [codec]
    | .accept, _ => by simp [codec]
    | .shift target, _ => by simp [codec, Decomposed.codec_lossless.decode target trivial]
    | .reduce p, own => by simp [codec, Codec.number_roundTrips.decode p (own)]
    | .goto target, _ => by simp [codec, Decomposed.codec_lossless.decode target trivial]

theorem FragmentTable.codec_roundTrips : FragmentTable.codec.RoundTrips
    (fun t => ∀ row ∈ t.rows, row.Fits FragmentAction.Fits) := by
  have rows := FragmentAction.codec_roundTrips.map.list
  refine ⟨fun t own => rows.legible t.rows own, fun t own => ?_⟩
  change (FragmentAction.codec.map.list.decode
    (FragmentAction.codec.map.list.encode t.rows)).map FragmentTable.mk = _
  rw [rows.decode t.rows own, Option.map_some]

theorem ScannerTable.codec_roundTrips : ScannerTable.codec.RoundTrips Fits where
  legible t own := by
    refine Value.legible_ofMembers ?_
    simp only [List.forall_mem_cons, List.not_mem_nil, false_implies, implies_true, and_true]
    exact ⟨Codec.number_roundTrips.legible _ own.start,
      Codec.number_roundTrips.list.list.legible _ own.rows⟩
  decode t own := by
    have given : Fields.ofValue ["start_state", "transitions"] (codec.encode t) = some _ :=
      Fields.ofValue_ofMembers rfl (by decide)
    refine Fields.bind_eq_of_some given ?_
    refine Fields.bind_required Codec.number_roundTrips own.start rfl ?_
    exact Fields.bind_required Codec.number_roundTrips.list.list own.rows rfl rfl

theorem ScannerSets.codec_roundTrips : ScannerSets.codec.RoundTrips Fits := by
  have sets := Codec.numbers_roundTrips.list
  constructor
  · intro s own
    refine Value.legible_ofMembers ?_
    simp only [List.forall_mem_cons, List.not_mem_nil, false_implies, implies_true, and_true]
    exact ⟨sets.legible _ own.accepts, sets.legible _ own.rejects, sets.legible _ own.possible⟩
  · intro s own
    have given : Fields.ofValue ["accept_sets", "reject_sets", "possible_sets"]
        (codec.encode s) = some _ := Fields.ofValue_ofMembers rfl (by decide)
    refine Fields.bind_eq_of_some given ?_
    refine Fields.bind_required sets own.accepts rfl ?_
    refine Fields.bind_required sets own.rejects rfl ?_
    exact Fields.bind_required sets own.possible rfl rfl

theorem MarkingTerminal.codec_roundTrips :
    MarkingTerminal.codec.RoundTrips (fun m => Fits64 m.hook) where
  legible m own := by
    refine Value.legible_ofMembers ?_
    simp only [List.forall_mem_cons, List.not_mem_nil, false_implies, implies_true, and_true]
    exact ⟨Codec.number_roundTrips.legible _ own, Decomposed.codec_lossless.legible _ trivial,
      Codec.text_lossless.legible _ trivial⟩
  decode m own := by
    have given : Fields.ofValue ["hook_nonterminal", "entry_state", "regex"]
        (codec.encode m) = some _ := Fields.ofValue_ofMembers rfl (by decide)
    refine Fields.bind_eq_of_some given ?_
    refine Fields.bind_required Codec.number_roundTrips own rfl ?_
    refine Fields.bind_required Decomposed.codec_lossless trivial rfl ?_
    exact Fields.bind_required Codec.text_lossless trivial rfl rfl

namespace Fragment

theorem setsCodec_roundTrips : setsCodec.RoundTrips
    (fun s => (∀ set ∈ s.1, set.Fits Fits64) ∧ ∀ set ∈ s.2, set.Fits Fits64) := by
  have sets := Codec.numbers_roundTrips.list
  constructor
  · intro s own
    refine Value.legible_ofMembers ?_
    simp only [List.forall_mem_cons, List.not_mem_nil, false_implies, implies_true, and_true]
    exact ⟨sets.legible _ own.1, sets.legible _ own.2⟩
  · intro s own
    have given : Fields.ofValue ["lookaheads", "layouts"] (setsCodec.encode s) = some _ :=
      Fields.ofValue_ofMembers rfl (by decide)
    refine Fields.bind_eq_of_some given ?_
    refine Fields.bind_withDefault sets own.1 rfl ?_
    exact Fields.bind_withDefault sets own.2 rfl rfl

theorem reducibleCodec_roundTrips : reducibleCodec.RoundTrips
    (fun reducible => ∀ sources ∈ reducible, sources.Fits (OrderedSet.Fits Fits64)) :=
  Codec.numbers_roundTrips.map.list

variable {f : Fragment} {table : String}

theorem legible_members (own : f.Fits) : ∀ m ∈ f.members table, m.2.Legible := by
  have sets := Codec.numbers_roundTrips.list
  simp only [members, List.forall_mem_cons, List.not_mem_nil, false_implies, implies_true,
    and_true]
  exact ⟨FragmentTable.codec_roundTrips.legible _ own.table,
    setsCodec_roundTrips.legible (f.lookaheads, f.layouts) ⟨own.lookaheads, own.layouts⟩,
    sets.legible _ own.transparents, ScannerTable.codec_roundTrips.legible _ own.scanner,
    ScannerSets.codec_roundTrips.legible _ own.scannerSets, sets.legible _ own.startable,
    reducibleCodec_roundTrips.legible _ own.reducible⟩

/-- A fragment is read from a record that gives its members among others. -/
theorem ofFields_members (own : f.Fits) {given : Fields}
    (each : ∀ m ∈ f.members table, given.given.lookup m.1 = some m.2) :
    ofFields table given = some f := by
  have sets := Codec.numbers_roundTrips.list
  simp only [members, List.forall_mem_cons, List.not_mem_nil, false_implies, implies_true,
    and_true] at each
  obtain ⟨rows, both, transparents, scanner, scannerSets, startable, reducible⟩ := each
  refine Fields.bind_withDefault FragmentTable.codec_roundTrips own.table rows ?_
  refine Fields.bind_withDefault setsCodec_roundTrips ⟨own.lookaheads, own.layouts⟩ both ?_
  refine Fields.bind_withDefault sets own.transparents transparents ?_
  refine Fields.bind_withDefault ScannerTable.codec_roundTrips own.scanner scanner ?_
  refine Fields.bind_withDefault ScannerSets.codec_roundTrips own.scannerSets scannerSets ?_
  refine Fields.bind_withDefault sets own.startable startable ?_
  exact Fields.bind_withDefault reducibleCodec_roundTrips own.reducible reducible rfl

end Fragment

theorem HostFragment.codec_roundTrips : HostFragment.codec.RoundTrips Fits where
  legible h own := by
    refine Value.legible_ofMembers (List.forall_mem_append.mpr ⟨?_, ?_⟩)
    · simp only [List.forall_mem_cons, List.not_mem_nil, false_implies, implies_true, and_true]
      exact ⟨Grammar.codec_roundTrips.legible _ own.grammar,
        SymbolTable.codec_lossless.legible _ trivial⟩
    · exact Fragment.legible_members own.fragment
  decode h own := by
    have given : Fields.ofValue (["spec", "symbol_table"] ++ Fragment.fields "parse_table")
        (codec.encode h) = some _ := Fields.ofValue_ofMembers rfl (by decide)
    refine Fields.bind_eq_of_some given ?_
    refine Fields.bind_withDefault Grammar.codec_roundTrips own.grammar rfl ?_
    refine Fields.bind_withDefault SymbolTable.codec_lossless trivial rfl ?_
    refine Fields.bind_eq_of_some (Fragment.ofFields_members own.fragment ?_) rfl
    simp only [Fragment.members, List.forall_mem_cons, List.not_mem_nil, false_implies,
      implies_true, and_true]
    exact ⟨rfl, rfl, rfl, rfl, rfl, rfl, rfl⟩

theorem ExtensionBundle.codec_roundTrips : ExtensionBundle.codec.RoundTrips Fits where
  legible b own := by
    refine Value.legible_ofMembers (List.forall_mem_append.mpr
      ⟨List.forall_mem_append.mpr ⟨?_, Fragment.legible_members own.fragment⟩, ?_⟩)
    · simp only [List.forall_mem_cons, List.not_mem_nil, false_implies, implies_true, and_true]
      exact ⟨Codec.text_lossless.legible _ trivial,
        Grammar.codec_roundTrips.legible _ own.grammar,
        SymbolTable.codec_lossless.legible _ trivial,
        Codec.number_roundTrips.map.legible _ own.hostStates,
        Codec.numbers_roundTrips.legible _ own.extensionStates⟩
    · simp only [List.forall_mem_cons, List.not_mem_nil, false_implies, implies_true, and_true]
      exact MarkingTerminal.codec_roundTrips.map.legible _ own.markings
  decode b own := by
    have given : Fields.ofValue fields (codec.encode b) = some _ :=
      Fields.ofValue_ofMembers rfl (by decide)
    refine Fields.bind_eq_of_some given ?_
    refine Fields.bind_withDefault Codec.text_lossless trivial rfl ?_
    refine Fields.bind_withDefault Grammar.codec_roundTrips own.grammar rfl ?_
    refine Fields.bind_withDefault SymbolTable.codec_lossless trivial rfl ?_
    refine Fields.bind_withDefault Codec.number_roundTrips.map own.hostStates rfl ?_
    refine Fields.bind_withDefault Codec.numbers_roundTrips own.extensionStates rfl ?_
    refine Fields.bind_eq_of_some (Fragment.ofFields_members own.fragment ?_) ?_
    · simp only [Fragment.members, List.forall_mem_cons, List.not_mem_nil, false_implies,
        implies_true, and_true]
      exact ⟨rfl, rfl, rfl, rfl, rfl, rfl, rfl⟩
    · exact Fields.bind_withDefault MarkingTerminal.codec_roundTrips.map own.markings rfl rfl

namespace Composition

theorem codec_roundTrips : Composition.codec.RoundTrips Fits where
  legible c own := by
    refine Value.legible_ofMembers ?_
    simp only [List.forall_mem_cons, List.not_mem_nil, false_implies, implies_true, and_true]
    exact ⟨HostFragment.codec_roundTrips.legible _ own.host,
      ExtensionBundle.codec_roundTrips.list.legible _ own.extensions⟩
  decode c own := by
    have given : Fields.ofValue ["host", "extensions"] (codec.encode c) = some _ :=
      Fields.ofValue_ofMembers rfl (by decide)
    refine Fields.bind_eq_of_some given ?_
    refine Fields.bind_required HostFragment.codec_roundTrips own.host rfl ?_
    exact Fields.bind_withDefault ExtensionBundle.codec_roundTrips.list own.extensions rfl rfl

/-- What the text of a composition keeps: the composition itself, read from the text or from its
bytes, and so its fragments and its engine, or the errors in their place, in whatever way scanners
are made. -/
structure Survives (c : Composition) : Prop where
  text : read c.render = some c
  bytes : readBytes c.render.toUTF8.data.toList = some c
  fragments : (read c.render).map Composition.fragments = some c.fragments
  engine : ∀ scan, (read c.render).map (Composition.engineBy scan) = some (c.engineBy scan)

/-- A composition whose numbers are in the ranges of their types survives as text. -/
theorem survives_of_fits (c : Composition) (own : c.Fits) : c.Survives := by
  have legible := codec_roundTrips.legible c own
  have decoded := codec_roundTrips.decode c own
  have text : read c.render = some c := by
    rw [read, render, Value.read_render legible, Option.bind_some, decoded]
  have bytes : readBytes c.render.toUTF8.data.toList = some c := by
    rw [readBytes, Array.toArray_toList]
    change (Json.readBytes c.render.toUTF8).bind _ = _
    rw [render, Value.readBytes_render legible, Option.bind_some, decoded]
  exact ⟨text, bytes, by rw [text, Option.map_some], fun scan => by rw [text, Option.map_some]⟩

/-- A composition with every kind of reference and action, with names that need escapes, and with
the highest and lowest numbers. -/
def escapedComposition : Composition where
  host :=
    { grammar :=
        { terminals := .ofList [0, 1]
          nonterminals := .ofList [2]
          productions := .ofList [3]
          terminalData := .ofList
            [(1, ⟨"a|\"\\", .ofList [4, 7], none, some 5, -2147483648, .left⟩)]
          productionData := .ofList [(3, ⟨2, [1, 1], some 1, 2147483647, true, .ofList [0]⟩)]
          startProduction := 3
          endOfInput := 18446744073709551615 }
      symbolTable := ⟨[⟨.terminal, "tab\tquote\"", some "λ\u0001😀"⟩, ⟨.parserAttribute, "", none⟩]⟩
      table := ⟨[.ofList [(0, .accept), (1, .shift (.host 1))], .ofList [(2, .reduce 3)]]⟩
      reducible := [.ofList [(2, .ofList [3])]] }
  extensions :=
    [{ name := "*/ \\ \n"
       grammar := { disambiguationData := .ofList [(6, ⟨.ofList [0, 1], some 0, true⟩)] }
       hostStates := .ofList [(0, 0), (9, 1)]
       extensionStates := .ofList [10, 2]
       markings := .ofList [(8, ⟨2, .extension 4294967295, "[\\x00-/]+"⟩)]
       table := ⟨[.ofList [(1, .goto (.extension 0)), (4, .error)]]⟩
       scannerSets := ⟨[.ofList [0]], [], [∅]⟩ }]

theorem survives_escapedComposition : escapedComposition.Fits ∧ escapedComposition.Survives :=
  have own : escapedComposition.Fits := by decide +kernel
  ⟨own, survives_of_fits escapedComposition own⟩

end Composition

end ParserSplice
