import ParserSplice.Proofs.Engine.Faults
import ParserSplice.Proofs.Indexing.Building
import ParserSplice.Proofs.Partition.SymbolFaults

set_option autoImplicit false

namespace ParserSplice

namespace CompositionError

/-- Whether an error tells that an entry to be copied, or a placed marking terminal, is missing. -/
def ofMissing : CompositionError → Bool
  | .unknownReference _ context => context == "symbol table" || context == "marking terminal"
  | _ => false

/-- Whether an error is about something else than what is never missing. -/
def ofInput (fault : CompositionError) : Bool := !fault.ofMissing

theorem ofInput_of_partition {fault : CompositionError}
    (about : (fault.ofStates || fault.ofSymbols) = true) : fault.ofInput = true := by
  cases fault with
  | unknownReference index context =>
    -- None of the contexts that symbols are referred to from is one of the two.
    have listed : context ∈ contexts := by simpa [ofStates, ofSymbols] using about
    have others : ∀ known ∈ contexts, (unknownReference index known).ofInput = true := by
      simp [contexts, ofInput, ofMissing]
    exact others context listed
  | _ => rfl

end CompositionError

open CompositionError

/-- Partitioning has the entries that it copies. -/
theorem Composition.tells_fragments (c : Composition) : Tells ofInput c.fragments := by
  refine (tells_mapM (fun b => Tells.map (fun fault failed => ?_) _) _).map _
  apply ofInput_of_partition
  rcases Partition.tells_of_build failed with states | symbols
  · exact StatePartition.tells_build _ _ fault states
  · simp [symbols]

theorem Layout.tells_compute (host : HostFragment) (extensions : List ExtensionFragment) :
    Tells ofInput (Layout.compute host extensions) := by
  have target (offset : Nat) (e : ExtensionFragment) (entry : Decomposed) :
      Tells ofInput (Layout.target host.size offset e entry) := by
    cases entry with
    | host h =>
      by_cases inside : h.toNat < host.size
      · simp [Layout.target, inside, tells_ok]
      · simp [Layout.target, inside, tells_error, ofInput, ofMissing]
    | extension s =>
      by_cases inside : s.toNat < e.size
      · simp [Layout.target, inside, tells_ok]
      · simp [Layout.target, inside, tells_error, ofInput, ofMissing]
  have placed (member : (ExtensionFragment × Nat) × Nat) :
      Tells ofInput (Layout.placeMarkings host member) := by
    apply tells_mapM
    intro marking
    by_cases hooked : host.grammar.nonterminals.contains marking.2.hook = true
    · rw [Layout.placeMarking, if_pos hooked]
      exact (target _ _ _).map _
    · rw [Layout.placeMarking, if_neg hooked]
      exact tells_error rfl
  refine (tells_mapM placed _).bind (fun found => ?_)
  dsimp only
  split
  · exact tells_error rfl
  · exact tells_ok _

theorem Member.StateFault.ofInput {m : Member} {host : Grammar} {l : Layout} {state : Nat}
    {e : CompositionError} (fault : m.StateFault host l state e) : e.ofInput = true := by
  cases fault with
  | entry _ own =>
    cases own with
    | outside => rfl
    | unclassified => rfl
    | shift _ missing => cases missing <;> rfl
    | goto _ missing => cases missing <;> rfl
    | reduce => rfl
  | layout => rfl
  | transparent => rfl

section Laid

variable {host : HostFragment} {extensions : List ExtensionFragment} {l : Layout}

theorem MergedTables.tells_copy (laid : Layout.Laid host extensions l) :
    Tells ofInput (MergedTables.copy host extensions l) := by
  intro fault failed
  obtain ⟨_, _, _, _, own⟩ := stateFault_of_copy laid failed
  exact own.ofInput

theorem Filling.tells_write (s : Filling) (w : MarkingWrite) : Tells ofInput (s.write w) := by
  have parameter (value : Nat) : Tells ofInput (MergedTables.parameter value) := by
    intro fault failed
    rw [((MergedTables.parameter_eq_error_iff value fault).mp failed).2]
    rfl
  have pack (action : EngineAction) : Tells ofInput (MergedTables.pack action) := by
    intro fault failed
    rw [((MergedTables.pack_eq_error_iff action fault).mp failed).2]
    rfl
  have action : Tells ofInput w.action.engineAction := by
    cases w.action with
    | shift target => exact (parameter target).map _
    | reduce production => exact (parameter production).map _
  exact action.bind (fun found => (pack found).map _)

theorem MergedTables.tells_fill (t : MergedTables) :
    Tells ofInput (t.fill host extensions l).2 := by
  have writes := tells_foldlM Filling.tells_write (MarkingWrite.all host extensions l) ⟨t.cells, []⟩
  rw [Indexed.foldlM_filling_eq] at writes
  rw [MergedTables.fill]
  dsimp only
  cases last : (Filling.writeAll ⟨t.cells, []⟩ (MarkingWrite.all host extensions l)).2 with
  | some fault =>
    rw [last] at writes
    exact tells_error (writes fault rfl)
  | none => exact tells_ok _

/-- Every marking terminal of a layout has a regular expression. -/
theorem MarkingScanner.exists_regexes (laid : Layout.Laid host extensions l) :
    ∃ regexes, l.markings.mapM (regexOf extensions) = .ok regexes := by
  rw [exists_mapM_iff]
  intro mk inside
  obtain ⟨e, declared, listed, entry, _⟩ := laid.declared inside
  have own := (e.markings.get?_eq_some_iff _ _).mpr entry
  exact ⟨(mk.column, declared.regex), by rw [regexOf, listed, Option.bind_some, own]⟩

variable {scan : OrderedMap String → Except CompositionError (ScannerTable × ScannerSets)}

/-- Scanning marking terminals is refused only if no scanner can be made. -/
theorem MarkingScanner.tells_buildBy (laid : Layout.Laid host extensions l)
    (quiet : ∀ regexes, Tells ofInput (scan regexes)) :
    Tells ofInput (MarkingScanner.buildBy scan extensions l) := by
  obtain ⟨regexes, found⟩ := exists_regexes laid
  simp only [buildBy, ordered_eq laid, found]
  exact (quiet _).map _

end Laid

section Engine

variable {scan : OrderedMap String → Except CompositionError (ScannerTable × ScannerSets)}

theorem Engine.tells_buildBy (quiet : ∀ regexes, Tells ofInput (scan regexes))
    (host : HostFragment) (extensions : List ExtensionFragment) :
    Tells ofInput (Engine.buildBy scan host extensions) := by
  refine (Layout.tells_compute host extensions).bind_of (fun l computed => ?_)
  have laid := Layout.compute_eq_ok_iff.mp computed
  refine (MergedTables.tells_copy laid).bind (fun t => ?_)
  exact (MergedTables.tells_fill t).bind (fun _ => (MarkingScanner.tells_buildBy laid quiet).map _)

/-- A composition is refused neither for the entry of a symbol nor for a marking terminal that is
missing. -/
theorem Composition.tells_engineBy (quiet : ∀ regexes, Tells ofInput (scan regexes))
    (c : Composition) : Tells ofInput (c.engineBy scan) :=
  c.tells_fragments.bind (fun split => Engine.tells_buildBy quiet split.1 split.2)

end Engine

theorem Compiler.tells_readAll (library : Compiler) (regexes : OrderedMap String) :
    Tells ofInput (library.readAll regexes) := by
  apply tells_mapM
  intro entry
  unfold Compiler.readEntry
  split
  · exact tells_ok _
  · exact tells_error rfl

theorem Compiler.tells_build (library : Compiler) (regexes : OrderedMap String) :
    Tells ofInput (library.build regexes) := by
  rw [build]
  split
  · exact tells_ok _
  · refine (library.tells_readAll regexes).bind (fun expressions => ?_)
    split
    · exact tells_error rfl
    · rw [flattened]
      split
      · exact tells_error rfl
      · exact tells_ok _

end ParserSplice
