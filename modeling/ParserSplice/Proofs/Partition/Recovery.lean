import ParserSplice.Proofs.Partition.Bijection

set_option autoImplicit false

namespace ParserSplice

section Replacement

variable {S T : Type} [Ranked S] [Ranked T] [DecidableEq T]

/-- Replaces the members of a set, which have to stay apart. -/
def OrderedSet.replace (f : S → Option T) (s : OrderedSet S) : Option (OrderedSet T) := do
  let members ← s.elems.mapM f
  if members.Nodup then return OrderedSet.ofList members else none

def TerminalData.replace (f : S → Option T) (a : TerminalData S) : Option (TerminalData T) := do
  let classes ← a.classes.replace f
  let leading ← a.transparentPrefix.mapM f
  let operatorClass ← a.operatorClass.mapM f
  return ⟨a.regex, classes, leading, operatorClass, a.precedence, a.associativity⟩

def NonterminalData.replace (f : S → Option T) (a : NonterminalData S) :
    Option (NonterminalData T) := do
  let productions ← a.productions.replace f
  return ⟨productions⟩

def ProductionData.replace (f : S → Option T) (a : ProductionData S) :
    Option (ProductionData T) := do
  let lhs ← f a.lhs
  let rhs ← a.rhs.mapM f
  let operator ← a.operator.mapM f
  let layouts ← a.layouts.replace f
  return ⟨lhs, rhs, operator, a.precedence, a.hasLayout, layouts⟩

def DisambiguationData.replace (f : S → Option T) (a : DisambiguationData S) :
    Option (DisambiguationData T) := do
  let members ← a.members.replace f
  let target ← a.target.mapM f
  return ⟨members, target, a.appliesToSubsets⟩

def TerminalClassData.replace (f : S → Option T) (a : TerminalClassData S) :
    Option (TerminalClassData T) := do
  let members ← a.members.replace f
  return ⟨members⟩

end Replacement

namespace ExtensionData

def Inverts (back : Decomposed → Option Nat) (symbols : OrderedMap Decomposed) : Prop :=
  ∀ d s, back d = some s ↔ symbols.get? s = some d

variable {symbols : OrderedMap Decomposed} {back : Decomposed → Option Nat} {context : String}

theorem resolve_eq_ok_iff (s : Nat) (d : Decomposed) :
    resolve symbols context s = .ok d ↔ symbols.get? s = some d := by
  unfold resolve
  cases symbols.get? s <;> simp

theorem mapM_resolve (inverts : Inverts back symbols) {indices : List Nat} {found : List Decomposed}
    (run : indices.mapM (resolve symbols context) = .ok found) :
    found.mapM back = some indices := by
  apply mapM_option_of_forall₂
  refine ((mapM_eq_ok_iff _ _ _).mp run).flip.imp (fun d s resolved => ?_)
  exact (inverts d s).mpr ((resolve_eq_ok_iff s d).mp resolved)

theorem replace_resolveSet (inverts : Inverts back symbols) {set : IndexSet}
    {found : OrderedSet Decomposed} (run : resolveSet symbols context set = .ok found) :
    found.replace back = some set := by
  obtain ⟨members, resolved, joined⟩ := (bind_eq_ok_iff _ _ _).mp run
  have paired := (mapM_eq_ok_iff _ _ _).mp resolved
  have mem_found : ∀ d, d ∈ found ↔ d ∈ members := by
    intro d
    rw [← (pure_eq_ok_iff _ _).mp joined, OrderedSet.mem_ofList]
  have source : ∀ d ∈ members, ∃ s ∈ set.elems, back d = some s := by
    intro d inside
    obtain ⟨s, member, named⟩ := exists_item_of_mem paired d inside
    exact ⟨s, member, (inverts d s).mpr ((resolve_eq_ok_iff s d).mp named)⟩
  obtain ⟨results, replaced⟩ := exists_forall₂_option (f := back) found.elems (by
    intro d inside
    obtain ⟨s, _, same⟩ := source d ((mem_found d).mp inside)
    exact ⟨s, same⟩)
  have distinct : results.Nodup := by
    refine nodup_of_forall₂_option replaced (fun a b s first second => ?_) found.nodup_elems
    rw [inverts] at first second
    exact Option.some.inj (first.symm.trans second)
  have same : OrderedSet.ofList results = set := by
    apply OrderedSet.ext_mem
    intro s
    rw [OrderedSet.mem_ofList]
    constructor
    · intro inside
      obtain ⟨d, member, named⟩ := exists_item_of_mem replaced s inside
      obtain ⟨t, original, sameName⟩ := source d ((mem_found d).mp member)
      rw [Option.some.inj (named.symm.trans sameName)]
      exact original
    · intro inside
      obtain ⟨d, member, named⟩ := exists_result_of_mem paired s inside
      obtain ⟨t, result, other⟩ := exists_result_of_mem replaced d ((mem_found d).mpr member)
      have back_d := (inverts d s).mpr ((resolve_eq_ok_iff s d).mp named)
      rwa [Option.some.inj (back_d.symm.trans other)]
  simp [OrderedSet.replace, mapM_option_of_forall₂ replaced, distinct, same]

theorem mapM_resolveOption (inverts : Inverts back symbols) {index : Option Nat}
    {found : Option Decomposed} (run : resolveOption symbols context index = .ok found) :
    found.mapM back = some index := by
  cases index with
  | none =>
    cases run
    rfl
  | some s =>
    obtain ⟨d, resolved, joined⟩ := (bind_eq_ok_iff _ _ _).mp run
    have named := (inverts d s).mpr ((resolve_eq_ok_iff s d).mp resolved)
    rw [← (pure_eq_ok_iff _ _).mp joined]
    simp [named]

section Data

variable (inverts : Inverts back symbols)

include inverts

theorem replace_resolveTerminal {a : TerminalData Nat} {r : TerminalData Decomposed}
    (run : resolveTerminal symbols a = .ok r) : r.replace back = some a := by
  simp only [resolveTerminal, bind_eq_ok_iff, pure_eq_ok_iff] at run
  obtain ⟨classes, classRun, leading, leadingRun, operatorClass, operatorRun, rfl⟩ := run
  simp [TerminalData.replace, replace_resolveSet inverts classRun,
    mapM_resolveOption inverts leadingRun, mapM_resolveOption inverts operatorRun]

theorem replace_resolveNonterminal {a : NonterminalData Nat} {r : NonterminalData Decomposed}
    (run : resolveNonterminal symbols a = .ok r) : r.replace back = some a := by
  simp only [resolveNonterminal, bind_eq_ok_iff, pure_eq_ok_iff] at run
  obtain ⟨productions, setRun, rfl⟩ := run
  simp [NonterminalData.replace, replace_resolveSet inverts setRun]

theorem replace_resolveProduction {a : ProductionData Nat} {r : ProductionData Decomposed}
    (run : resolveProduction symbols a = .ok r) : r.replace back = some a := by
  simp only [resolveProduction, bind_eq_ok_iff, pure_eq_ok_iff] at run
  obtain ⟨rhs, rhsRun, lhs, lhsRun, operator, operatorRun, layouts, layoutRun, rfl⟩ := run
  have head := (inverts lhs a.lhs).mpr ((resolve_eq_ok_iff a.lhs lhs).mp lhsRun)
  simp [ProductionData.replace, head, mapM_resolve inverts rhsRun,
    mapM_resolveOption inverts operatorRun, replace_resolveSet inverts layoutRun]

theorem replace_resolveDisambiguation {a : DisambiguationData Nat}
    {r : DisambiguationData Decomposed} (run : resolveDisambiguation symbols a = .ok r) :
    r.replace back = some a := by
  simp only [resolveDisambiguation, bind_eq_ok_iff, pure_eq_ok_iff] at run
  obtain ⟨members, setRun, target, targetRun, rfl⟩ := run
  simp [DisambiguationData.replace, replace_resolveSet inverts setRun,
    mapM_resolveOption inverts targetRun]

theorem replace_resolveTerminalClass {a : TerminalClassData Nat} {r : TerminalClassData Decomposed}
    (run : resolveTerminalClass symbols a = .ok r) : r.replace back = some a := by
  simp only [resolveTerminalClass, bind_eq_ok_iff, pure_eq_ok_iff] at run
  obtain ⟨members, setRun, rfl⟩ := run
  simp [TerminalClassData.replace, replace_resolveSet inverts setRun]

end Data

theorem resolveProduction_length {a : ProductionData Nat} {r : ProductionData Decomposed}
    (run : resolveProduction symbols a = .ok r) : r.rhs.length = a.rhs.length := by
  simp only [resolveProduction, bind_eq_ok_iff, pure_eq_ok_iff] at run
  obtain ⟨rhs, rhsRun, _, _, _, _, _, _, rfl⟩ := run
  exact ((mapM_eq_ok_iff _ _ _).mp rhsRun).length_eq.symm

theorem need_eq_ok_iff {α : Type} (data : OrderedMap α) (c : Category) (index : Nat) (a : α) :
    need data c index = .ok a ↔ data.get? index = some a := by
  unfold need
  cases data.get? index <;> simp

theorem mem_ofCategory (owned : List CategorizedSymbol) (c : Category) (place index : Nat) :
    (place, index) ∈ ofCategory owned c ↔ owned[place]? = some (c, index) := by
  simp only [ofCategory, List.mem_map, List.mem_filter, List.mem_zipIdx_iff_getElem?, beq_iff_eq,
    Prod.mk.injEq]
  constructor
  · intro given
    obtain ⟨⟨⟨_, _⟩, _⟩, ⟨found, rfl⟩, rfl, rfl⟩ := given
    exact found
  · intro found
    exact ⟨((c, index), place), ⟨found, rfl⟩, rfl, rfl⟩

theorem nodup_ofCategory (owned : List CategorizedSymbol) (c : Category) :
    ((ofCategory owned c).map Prod.fst).Nodup := by
  have places : (owned.zipIdx.map Prod.snd).Nodup := by
    rw [List.zipIdx_map_snd]
    exact List.nodup_range'
  have kept : (ofCategory owned c).map Prod.fst =
      (owned.zipIdx.filter (fun entry => entry.1.1 == c)).map Prod.snd := by
    rw [ofCategory, List.map_map]
    rfl
  rw [kept]
  exact (List.filter_sublist.map Prod.snd).nodup places

/-- Collected data stands at the numbers of its category, each entry read and translated from the
symbol with that number. -/
theorem collect_ok {α β : Type} {owned : List CategorizedSymbol} {c : Category}
    {find : Nat → Except CompositionError α} {translate : α → Except CompositionError β}
    {kept : OrderedMap β} (run : collect owned c find translate = .ok kept) :
    kept.keys = placesOf owned c ∧
      ∀ place index, owned[place]? = some (c, index) →
        ∃ a r, find index = .ok a ∧ translate a = .ok r ∧ kept.get? place = some r := by
  obtain ⟨entries, read, joined⟩ := (bind_eq_ok_iff _ _ _).mp run
  have paired : List.Forall₂ (fun (item : Nat × Nat) (entry : Nat × β) => item.1 = entry.1 ∧
      ∃ a, find item.2 = .ok a ∧ translate a = .ok entry.2) (ofCategory owned c) entries := by
    refine ((mapM_eq_ok_iff _ _ _).mp read).imp (fun item entry done => ?_)
    simp only [bind_eq_ok_iff, pure_eq_ok_iff] at done
    obtain ⟨a, found, r, translated, rfl⟩ := done
    exact ⟨rfl, a, found, translated⟩
  have keys : (ofCategory owned c).map Prod.fst = entries.map Prod.fst := by
    rw [← List.forall₂_eq_eq_eq, List.forall₂_map_left_iff, List.forall₂_map_right_iff]
    exact paired.imp (fun _ _ related => related.1)
  have lookup : ∀ place r, kept.get? place = some r ↔ (place, r) ∈ entries := by
    rw [← (pure_eq_ok_iff _ _).mp joined]
    exact OrderedMap.get?_ofList_iff entries (keys ▸ nodup_ofCategory owned c)
  have each : ∀ place index, owned[place]? = some (c, index) →
      ∃ a r, find index = .ok a ∧ translate a = .ok r ∧ kept.get? place = some r := by
    intro place index found
    obtain ⟨⟨_, r⟩, inside, rfl, a, read, translated⟩ :=
      exists_result_of_mem paired _ ((mem_ofCategory owned c place index).mpr found)
    exact ⟨a, r, read, translated, (lookup _ r).mpr inside⟩
  refine ⟨OrderedSet.ext_mem (fun place => ?_), each⟩
  rw [OrderedMap.mem_keys, mem_placesOf]
  constructor
  · intro given
    obtain ⟨r, found⟩ := given
    obtain ⟨⟨_, index⟩, item, rfl, _⟩ := exists_item_of_mem paired _ ((lookup place r).mp found)
    exact ⟨index, (mem_ofCategory owned c _ index).mp item⟩
  · intro given
    obtain ⟨index, found⟩ := given
    obtain ⟨_, r, _, _, stored⟩ := each place index found
    exact ⟨r, stored⟩

theorem longest_eq (productions : OrderedMap (ProductionData Decomposed)) :
    longest productions =
      (productions.entries.map (fun entry => entry.2.rhs.length)).foldl max 2 := by
  rw [longest, List.foldl_map]

end ExtensionData

namespace Partition

/-- The composed symbol that is mapped to an owner and number. -/
def compose? (p : Partition) (d : Decomposed) : Option Nat :=
  (p.symbols.entries.find? (fun entry => entry.2 == d)).map Prod.fst

/-- The data kept for a category stands at exactly the extension numbers of the category, and
putting the composed symbols back gives the data of the symbol with that number. -/
def Recovers {α β : Type} (p : Partition) (c : Category) (kept : OrderedMap α)
    (replace : α → Option β) (source : Nat → Option β) : Prop :=
  kept.keys = p.extensionIndices c ∧ ∀ e ∈ p.extensionIndices c, ∃ s r a,
    p.ownSymbols[e]? = some s ∧ kept.get? e = some r ∧ source s = some a ∧ replace r = some a

/-- Lengths of the right-hand sides of the productions that the extension owns. -/
def ownLengths (full host : Grammar) : List Nat :=
  (full.productions.elems.filter (fun s => !host.productions.contains s)).map full.rhsLength

/-- A partition loses no grammar data of the extension. -/
structure KeepsGrammar (full : Grammar) (table : SymbolTable) (host : Grammar) (p : Partition) :
    Prop where
  unique : ∀ d s, p.compose? d = some s ↔ p.symbol? s = some d
  terminals : p.Recovers .terminal p.data.terminals (·.replace p.compose?) full.terminalData.get?
  nonterminals : p.Recovers .nonterminal p.data.nonterminals (·.replace p.compose?)
    (fun s => some ((full.nonterminalData.get? s).getD {}))
  productions : p.Recovers .production p.data.productions (·.replace p.compose?)
    full.productionData.get?
  disambiguations : p.Recovers .disambiguationFunction p.data.disambiguations
    (·.replace p.compose?) (fun s => some ((full.disambiguationData.get? s).getD {}))
  terminalClasses : p.Recovers .terminalClass p.data.terminalClasses (·.replace p.compose?)
    (fun s => some ((full.terminalClassData.get? s).getD {}))
  tableSize : p.symbolTable.size = p.extensionCount
  tableEntries : ∀ c, ∀ e ∈ p.extensionIndices c, ∃ s entry, p.ownSymbols[e]? = some s ∧
    table.get? s = some entry ∧ p.symbolTable.get? e = some entry ∧ entry.kind = c
  longestRhs : p.data.longestRhs = (ownLengths full host).foldl max 2

variable {full : Grammar} {table : SymbolTable} {host : Grammar} {hostStates : OrderedMap Nat}
  {extensionStates : IndexSet} {p : Partition}

theorem checkEntry_eq_ok_iff (s : CategorizedSymbol) : checkEntry table s = .ok () ↔
    ∃ entry, table.get? s.2 = some entry ∧ entry.kind = s.1 := by
  unfold checkEntry
  cases table.get? s.2 with
  | none => simp
  | some entry =>
    by_cases same : entry.kind = s.1 <;> simp [same]

theorem ownEntries_ok {owned : List CategorizedSymbol} {kept : SymbolTable}
    (run : ownEntries table owned = .ok kept) :
    List.Forall₂ (fun (s : CategorizedSymbol) entry => table.get? s.2 = some entry) owned
      kept.symbols := by
  obtain ⟨entries, read, joined⟩ := (bind_eq_ok_iff _ _ _).mp run
  rw [← (pure_eq_ok_iff _ _).mp joined]
  refine ((mapM_eq_ok_iff _ _ _).mp read).imp (fun s entry found => ?_)
  cases present : table.get? s.2 with
  | none => simp [present] at found
  | some other => simpa [present] using found

/-- Each symbol that the extension owns has a symbol table entry of its category. -/
theorem Built.exists_entry (b : Built full table host hostStates extensionStates p) {c : Category}
    {s : Nat} (inside : s ∈ full.symbols c) : ∃ entry, table.get? s = some entry ∧ entry.kind = c :=
  (checkEntry_eq_ok_iff (c, s)).mp
    (b.entries (c, s) ((SymbolPartition.mem_composed full c s).mpr inside))

/-- A symbol that the extension owns has its entry at its extension number. -/
theorem Built.exists_ownEntry (b : Built full table host hostStates extensionStates p)
    {c : Category} {e : Nat} (inside : e ∈ p.extensionIndices c) :
    ∃ entry, p.symbolTable.get? e = some entry ∧ entry.kind = c := by
  obtain ⟨s, found⟩ := (mem_placesOf p.extensionOwned c e).mp inside
  obtain ⟨entry, stored, read⟩ :=
    exists_result_of_getElem? (ownEntries_ok b.ownTable) e (c, s) found
  have listed : (c, s) ∈ p.extensionOwned := List.mem_of_getElem? found
  rw [b.extensionOwned] at listed
  obtain ⟨other, looked, kind⟩ :=
    (checkEntry_eq_ok_iff (c, s)).mp (b.entries (c, s) (List.mem_of_mem_filter listed))
  obtain rfl : entry = other := Option.some.inj (read.symm.trans looked)
  exact ⟨entry, stored, kind⟩

theorem Built.compose?_eq_some_iff (b : Built full table host hostStates extensionStates p)
    (d : Decomposed) (s : Nat) : p.compose? d = some s ↔ p.symbol? s = some d := by
  rw [compose?, Option.map_eq_some_iff, symbol?, OrderedMap.get?_eq_some_iff]
  constructor
  · intro given
    obtain ⟨⟨index, other⟩, found, rfl⟩ := given
    have same : other = d := by simpa using List.find?_some found
    rw [← same]
    exact List.mem_of_find?_eq_some found
  · intro inside
    have present : (p.symbols.entries.find? (fun entry => entry.2 == d)).isSome :=
      List.find?_isSome.mpr ⟨_, inside, by simp⟩
    obtain ⟨⟨index, other⟩, found⟩ := Option.isSome_iff_exists.mp present
    have same : other = d := by simpa using List.find?_some found
    refine ⟨_, found, ?_⟩
    refine b.symbol?_injective (d := d) ?_ ((OrderedMap.get?_eq_some_iff _ _ _).mpr inside)
    rw [symbol?, OrderedMap.get?_eq_some_iff, ← same]
    exact List.mem_of_find?_eq_some found

theorem recovers_of_collect {α β : Type} {c : Category}
    {find : Nat → Except CompositionError α} {translate : α → Except CompositionError β}
    {kept : OrderedMap β} {replace : β → Option α} {source : Nat → Option α}
    (run : ExtensionData.collect p.extensionOwned c find translate = .ok kept)
    (sourced : ∀ s a, find s = .ok a → source s = some a)
    (replaced : ∀ a r, translate a = .ok r → replace r = some a) :
    p.Recovers c kept replace source := by
  obtain ⟨keys, each⟩ := ExtensionData.collect_ok run
  refine ⟨keys, fun e inside => ?_⟩
  obtain ⟨s, found⟩ := (mem_placesOf p.extensionOwned c e).mp inside
  obtain ⟨a, r, read, translated, stored⟩ := each e s found
  refine ⟨s, r, a, ?_, stored, sourced s a read, replaced a r translated⟩
  rw [ownSymbols, List.getElem?_map, found]
  rfl

/-- The longest right-hand side is found among the productions that the extension owns. -/
theorem Built.longest_eq (b : Built full table host hostStates extensionStates p)
    {kept : OrderedMap (ProductionData Decomposed)}
    (run : ExtensionData.collect p.extensionOwned .production
      (ExtensionData.need full.productionData .production)
      (ExtensionData.resolveProduction p.symbols) = .ok kept) :
    ExtensionData.longest kept = (ownLengths full host).foldl max 2 := by
  obtain ⟨keys, each⟩ := ExtensionData.collect_ok run
  have lengths : ∀ place index, p.extensionOwned[place]? = some (.production, index) →
      ∃ r, kept.get? place = some r ∧ r.rhs.length = full.rhsLength index := by
    intro place index found
    obtain ⟨a, r, read, translated, stored⟩ := each place index found
    refine ⟨r, stored, ?_⟩
    rw [ExtensionData.resolveProduction_length translated, Grammar.rhsLength,
      (ExtensionData.need_eq_ok_iff _ _ _ _).mp read]
  rw [ExtensionData.longest_eq]
  apply foldl_max_congr
  intro n
  simp only [ownLengths, List.mem_map]
  constructor
  · intro given
    obtain ⟨⟨place, r⟩, stored, rfl⟩ := given
    have inside : place ∈ kept.keys := List.mem_map.mpr ⟨_, stored, rfl⟩
    rw [keys] at inside
    obtain ⟨index, found⟩ := (mem_placesOf _ _ _).mp inside
    obtain ⟨other, lookup, length⟩ := lengths place index found
    have same : r = other :=
      Option.some.inj (((OrderedMap.get?_eq_some_iff _ _ _).mpr stored).symm.trans lookup)
    refine ⟨index, ?_, by rw [same, length]⟩
    rw [b.extensionOwned_eq_listed] at found
    exact (SymbolPartition.mem_listed_all _ _ _).mp (List.mem_of_getElem? found)
  · intro given
    obtain ⟨index, own, rfl⟩ := given
    have listed := (SymbolPartition.mem_listed_all
      (SymbolPartition.extensionMembers full host) .production index).mpr own
    rw [← b.extensionOwned_eq_listed] at listed
    obtain ⟨place, found⟩ := List.mem_iff_getElem?.mp listed
    obtain ⟨r, stored, length⟩ := lengths place index found
    exact ⟨(place, r), (OrderedMap.get?_eq_some_iff _ _ _).mp stored, length⟩

/-- Every partition that is built keeps the grammar data of the extension. -/
theorem keepsGrammar_of_build (built : build full table host hostStates extensionStates = .ok p) :
    p.KeepsGrammar full table host := by
  have b := build_eq_ok_iff.mp built
  have inverts : ExtensionData.Inverts p.compose? p.symbols := b.compose?_eq_some_iff
  have dataRun := b.data
  simp only [ExtensionData.build, bind_eq_ok_iff, pure_eq_ok_iff] at dataRun
  obtain ⟨terminals, terminalRun, nonterminals, nonterminalRun, productions, productionRun,
    disambiguations, disambiguationRun, terminalClasses, classRun, data⟩ := dataRun
  have paired := ownEntries_ok b.ownTable
  refine {
    unique := b.compose?_eq_some_iff
    terminals := ?_
    nonterminals := ?_
    productions := ?_
    disambiguations := ?_
    terminalClasses := ?_
    tableSize := paired.length_eq.symm
    tableEntries := fun c e inside => ?_
    longestRhs := ?_ }
  · rw [← data]
    exact recovers_of_collect terminalRun (fun s a => (ExtensionData.need_eq_ok_iff _ _ _ _).mp)
      (fun a r => ExtensionData.replace_resolveTerminal inverts)
  · rw [← data]
    exact recovers_of_collect nonterminalRun (fun s a read => congrArg some (Except.ok.inj read))
      (fun a r => ExtensionData.replace_resolveNonterminal inverts)
  · rw [← data]
    exact recovers_of_collect productionRun (fun s a => (ExtensionData.need_eq_ok_iff _ _ _ _).mp)
      (fun a r => ExtensionData.replace_resolveProduction inverts)
  · rw [← data]
    exact recovers_of_collect disambiguationRun (fun s a read => congrArg some (Except.ok.inj read))
      (fun a r => ExtensionData.replace_resolveDisambiguation inverts)
  · rw [← data]
    exact recovers_of_collect classRun (fun s a read => congrArg some (Except.ok.inj read))
      (fun a r => ExtensionData.replace_resolveTerminalClass inverts)
  · obtain ⟨s, found⟩ := (mem_placesOf p.extensionOwned c e).mp inside
    obtain ⟨entry, stored, read⟩ := exists_result_of_getElem? paired e (c, s) found
    have own : (c, s) ∈ SymbolPartition.listed _ Category.all :=
      b.extensionOwned_eq_listed ▸ List.mem_of_getElem? found
    have composed := (SymbolPartition.mem_extensionMembers full host c s).mp
      ((SymbolPartition.mem_listed_all _ c s).mp own)
    obtain ⟨other, looked, kind⟩ := b.exists_entry composed.1
    have same : entry = other := Option.some.inj (read.symm.trans looked)
    refine ⟨s, entry, ?_, read, stored, same ▸ kind⟩
    rw [ownSymbols, List.getElem?_map, found]
    rfl
  · rw [← data]
    exact b.longest_eq productionRun

theorem keepsGrammar_extendedPartition : ∃ p, extendedPartition = .ok p ∧
    p.data.longestRhs = 5 ∧ p.KeepsGrammar extendedGrammar extendedTable statementHost :=
  ⟨_, rfl, rfl, keepsGrammar_of_build (show extendedPartition = _ from rfl)⟩

end Partition

end ParserSplice
