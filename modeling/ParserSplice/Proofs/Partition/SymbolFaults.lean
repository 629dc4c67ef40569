import ParserSplice.Proofs.Partition.Consistency

set_option autoImplicit false

namespace ParserSplice

namespace CompositionError

/-- Whether an error is about the owners of states. -/
def ofStates : CompositionError → Bool
  | .overlappingState _ => true
  | .stateCoverage _ => true
  | _ => false

/-- Where a symbol may be referred to in the data of another one. -/
def contexts : List String :=
  ["terminal classes", "transparent prefix", "operator class", "nonterminal productions",
    "production right-hand side", "production left-hand side", "production operator",
    "production layout", "disambiguation function members", "disambiguation target",
    "terminal class members"]

/-- Whether an error is about symbols, or about a number that does not fit. -/
def ofSymbols : CompositionError → Bool
  | .duplicateComposedIndex _ _ _ => true
  | .hostSymbolNotComposed _ _ => true
  | .uncoveredSymbol _ _ => true
  | .symbolKindMismatch _ _ _ => true
  | .missingSymbolData _ _ => true
  | .indexOverflow _ => true
  | .unknownReference _ context => contexts.contains context
  | _ => false

theorem ofStates_of_ofSymbols {fault : CompositionError} (about : fault.ofSymbols = true) :
    fault.ofStates = false := by
  cases fault <;> simp_all [ofSymbols, ofStates]

end CompositionError

section Telling

variable {α β : Type} {about : CompositionError → Bool}

/-- An outcome whose error, if it is one, is about certain things. -/
def Tells (about : CompositionError → Bool) (outcome : Except CompositionError α) : Prop :=
  ∀ fault, outcome = .error fault → about fault = true

theorem tells_ok (value : α) : Tells about (.ok value : Except CompositionError α) :=
  fun _ impossible => nomatch impossible

theorem tells_error {fault : CompositionError} (own : about fault = true) :
    Tells about (.error fault : Except CompositionError α) :=
  fun _ same => Except.error.inj same ▸ own

theorem Tells.bind_of {first : Except CompositionError α} {next : α → Except CompositionError β}
    (before : Tells about first) (after : ∀ value, first = .ok value → Tells about (next value)) :
    Tells about (first >>= next) := by
  intro fault failed
  rcases (bind_eq_error_iff _ _ _).mp failed with early | ⟨value, done, late⟩
  · exact before fault early
  · exact after value done fault late

theorem Tells.bind {first : Except CompositionError α} {next : α → Except CompositionError β}
    (before : Tells about first) (after : ∀ value, Tells about (next value)) :
    Tells about (first >>= next) :=
  before.bind_of (fun value _ => after value)

theorem Tells.map {first : Except CompositionError α} (before : Tells about first) (wrap : α → β) :
    Tells about (do let value ← first; return wrap value) :=
  before.bind (fun value => tells_ok (wrap value))

theorem tells_mapM {step : α → Except CompositionError β} (each : ∀ item, Tells about (step item))
    (items : List α) : Tells about (items.mapM step) := by
  intro fault failed
  obtain ⟨item, _, own⟩ := exists_error_of_mapM failed
  exact each item fault own

theorem tells_foldlM {step : β → α → Except CompositionError β}
    (each : ∀ acc item, Tells about (step acc item)) (items : List α) (acc : β) :
    Tells about (items.foldlM step acc) := by
  induction items generalizing acc with
  | nil => exact tells_ok acc
  | cons item rest ih =>
    rw [List.foldlM_cons]
    exact (each acc item).bind ih

theorem tells_forM {step : α → Except CompositionError Unit}
    (each : ∀ item, Tells about (step item)) (items : List α) :
    Tells about (items.forM step) := by
  induction items with
  | nil => exact tells_ok ()
  | cons item rest ih => exact (each item).bind (fun _ => ih)

theorem tells_hostNumber (large : ∀ n, about (.indexOverflow n) = true) (n : Nat) :
    Tells about (hostNumber n) := by
  unfold hostNumber
  split
  · exact tells_ok _
  · exact tells_error (large n)

theorem tells_extensionNumber (large : ∀ n, about (.indexOverflow n) = true) (n : Nat) :
    Tells about (extensionNumber n) := by
  unfold extensionNumber
  split
  · exact tells_ok _
  · exact tells_error (large n)

end Telling

namespace StatePartition

/-- States are refused for their owners, or for a number that does not fit. -/
theorem tells_build (hostStates : OrderedMap Nat) (extensionStates : IndexSet) :
    Tells (fun fault => fault.ofStates || fault.ofSymbols) (build hostStates extensionStates) := by
  have hosts : Tells (fun fault => fault.ofStates || fault.ofSymbols) (hostEntries hostStates) :=
    tells_mapM (fun (entry : Nat × Nat) => (tells_hostNumber (fun _ => rfl) entry.2).map _) _
  have extensions : Tells (fun fault => fault.ofStates || fault.ofSymbols)
      (extensionEntries hostStates extensionStates) := by
    apply tells_mapM
    intro entry
    by_cases taken : hostStates.contains entry.1 = true
    · rw [if_pos taken]
      exact tells_error rfl
    · rw [if_neg taken]
      exact (tells_extensionNumber (fun _ => rfl) entry.2).map _
  refine hosts.bind (fun host => extensions.bind (fun extension => ?_))
  dsimp only
  split
  · exact tells_error rfl
  · exact tells_ok _

end StatePartition

namespace SymbolPartition

theorem tells_noteAll (c : Category) (seen : Seen) (indices : List Nat) :
    Tells CompositionError.ofSymbols (noteAll c seen indices) := by
  induction indices generalizing seen with
  | nil => exact tells_ok seen
  | cons index rest ih =>
    unfold noteAll
    split
    · exact tells_error rfl
    · exact ih _

theorem tells_noteCategory (full host : Grammar) (seen : Seen) (c : Category) :
    Tells CompositionError.ofSymbols (noteCategory full host seen c) := by
  unfold noteCategory
  split
  · exact tells_error rfl
  · exact tells_noteAll c seen _

theorem tells_build (full host : Grammar) :
    Tells CompositionError.ofSymbols (build full host) := by
  have checked : Tells CompositionError.ofSymbols (check full host) :=
    (tells_foldlM (tells_noteCategory full host) _ _).map _
  have hosts (n : Nat) : Tells CompositionError.ofSymbols (hostNumber n) :=
    tells_hostNumber (fun _ => rfl) n
  have extensions (n : Nat) : Tells CompositionError.ofSymbols (extensionNumber n) :=
    tells_extensionNumber (fun _ => rfl) n
  exact checked.bind (fun _ =>
    (tells_mapM (fun (entry : CategorizedSymbol × Nat) => (hosts entry.2).map _) _).bind (fun _ =>
      (tells_mapM (fun (entry : CategorizedSymbol × Nat) => (extensions entry.2).map _) _).map _))

end SymbolPartition

namespace ExtensionData

variable (symbols : OrderedMap Decomposed)

theorem tells_resolve {context : String}
    (listed : CompositionError.contexts.contains context = true) (index : Nat) :
    Tells CompositionError.ofSymbols (resolve symbols context index) := by
  unfold resolve
  split
  · exact tells_ok _
  · exact tells_error listed

theorem tells_resolveSet {context : String}
    (listed : CompositionError.contexts.contains context = true) (set : IndexSet) :
    Tells CompositionError.ofSymbols (resolveSet symbols context set) :=
  (tells_mapM (tells_resolve symbols listed) _).map _

theorem tells_resolveOption {context : String}
    (listed : CompositionError.contexts.contains context = true) (index : Option Nat) :
    Tells CompositionError.ofSymbols (resolveOption symbols context index) := by
  cases index with
  | none => exact tells_ok none
  | some index => exact (tells_resolve symbols listed index).map some

theorem tells_need {α : Type} (data : OrderedMap α) (c : Category) (index : Nat) :
    Tells CompositionError.ofSymbols (need data c index) := by
  unfold need
  split
  · exact tells_ok _
  · exact tells_error rfl

theorem tells_collect {α β : Type} {find : Nat → Except CompositionError α}
    {translate : α → Except CompositionError β}
    (found : ∀ index, Tells CompositionError.ofSymbols (find index))
    (translated : ∀ data, Tells CompositionError.ofSymbols (translate data))
    (owned : List CategorizedSymbol) (c : Category) :
    Tells CompositionError.ofSymbols (collect owned c find translate) := by
  refine (tells_mapM (fun entry => ?_) _).map _
  exact (found entry.2).bind (fun data => (translated data).map _)

theorem tells_build (full : Grammar) (owned : List CategorizedSymbol) :
    Tells CompositionError.ofSymbols (build full symbols owned) := by
  have resolveSet {context : String} (listed : CompositionError.contexts.contains context = true)
      (set : IndexSet) : Tells CompositionError.ofSymbols (resolveSet symbols context set) :=
    tells_resolveSet symbols listed set
  have resolveOption {context : String}
      (listed : CompositionError.contexts.contains context = true) (index : Option Nat) :
      Tells CompositionError.ofSymbols (resolveOption symbols context index) :=
    tells_resolveOption symbols listed index
  have terminals : ∀ a, Tells CompositionError.ofSymbols (resolveTerminal symbols a) := fun a =>
    (resolveSet rfl _).bind (fun _ =>
      (resolveOption rfl _).bind (fun _ => (resolveOption rfl _).map _))
  have nonterminals : ∀ a, Tells CompositionError.ofSymbols (resolveNonterminal symbols a) :=
    fun a => (resolveSet rfl _).map _
  have productions : ∀ a, Tells CompositionError.ofSymbols (resolveProduction symbols a) := fun a =>
    (tells_mapM (tells_resolve symbols rfl) _).bind (fun _ =>
      (tells_resolve symbols rfl _).bind (fun _ =>
        (resolveOption rfl _).bind (fun _ => (resolveSet rfl _).map _)))
  have disambiguations : ∀ a, Tells CompositionError.ofSymbols (resolveDisambiguation symbols a) :=
    fun a => (resolveSet rfl _).bind (fun _ => (resolveOption rfl _).map _)
  have terminalClasses : ∀ a, Tells CompositionError.ofSymbols (resolveTerminalClass symbols a) :=
    fun a => (resolveSet rfl _).map _
  exact (tells_collect (tells_need _ _) terminals _ _).bind (fun _ =>
    (tells_collect (fun _ => tells_ok _) nonterminals _ _).bind (fun _ =>
      (tells_collect (tells_need _ _) productions _ _).bind (fun _ =>
        (tells_collect (fun _ => tells_ok _) disambiguations _ _).bind (fun _ =>
          (tells_collect (fun _ => tells_ok _) terminalClasses _ _).map _))))

end ExtensionData

namespace Partition

theorem tells_checkEntry (table : SymbolTable) (s : CategorizedSymbol) :
    Tells CompositionError.ofSymbols (checkEntry table s) := by
  unfold checkEntry
  split
  · exact tells_error rfl
  · split
    · exact tells_ok ()
    · exact tells_error rfl

/-- Once all symbols have passed the check, those of the extension have entries. -/
theorem exists_ownEntries {full : Grammar} {table : SymbolTable} (host : Grammar)
    (checked : (SymbolPartition.composed full).forM (checkEntry table) = .ok ()) :
    ∃ kept, ownEntries table (SymbolPartition.extensionOwned full host) = .ok kept := by
  rw [exists_ownEntries_iff]
  intro s own
  have passed := (forM_eq_ok_iff _ _).mp checked s (List.mem_of_mem_filter own)
  obtain ⟨entry, found, _⟩ := (checkEntry_eq_ok_iff s).mp passed
  exact ⟨entry, found⟩

/-- A partition is refused for its states, or else for what is wrong with symbols. -/
theorem tells_of_build {full : Grammar} {table : SymbolTable} {host : Grammar}
    {hostStates : OrderedMap Nat} {extensionStates : IndexSet} {fault : CompositionError}
    (failed : build full table host hostStates extensionStates = .error fault) :
    StatePartition.build hostStates extensionStates = .error fault ∨ fault.ofSymbols = true := by
  rw [build, bind_eq_error_iff] at failed
  rcases failed with states | ⟨states, _, failed⟩
  · exact Or.inl states
  · right
    refine (SymbolPartition.tells_build full host).bind (fun symbols =>
      (tells_forM (tells_checkEntry table) _).bind_of (fun _ checked => ?_)) fault failed
    obtain ⟨kept, copied⟩ := exists_ownEntries host checked
    rw [copied]
    exact (ExtensionData.tells_build symbols full _).map _

end Partition

end ParserSplice
