import ParserSplice.Fragment.Column
import ParserSplice.Proofs.Partition.Bijection

set_option autoImplicit false

namespace ParserSplice

def ColumnClass.category : ColumnClass → Category
  | terminal => .terminal
  | nonterminal => .nonterminal

/-- The terminals are the first numbers, and the nonterminals the next ones. -/
structure Grammar.Contiguous (g : Grammar) : Prop where
  terminals : g.terminals = OrderedSet.interval 0 g.terminals.size
  nonterminals : g.nonterminals = OrderedSet.interval g.terminals.size g.nonterminals.size

namespace Owner

variable (host : Grammar) (column : Nat)

theorem classifyHost_eq_terminal_iff :
    classifyHost host column = some .terminal ↔ column ∈ host.terminals := by
  rw [← OrderedSet.contains_iff_mem, classifyHost]
  cases host.terminals.contains column <;> cases host.nonterminals.contains column <;> simp

theorem classifyHost_eq_nonterminal_iff : classifyHost host column = some .nonterminal ↔
    column ∉ host.terminals ∧ column ∈ host.nonterminals := by
  rw [← OrderedSet.contains_iff_mem, ← OrderedSet.contains_iff_mem, classifyHost]
  cases host.terminals.contains column <;> cases host.nonterminals.contains column <;> simp

end Owner

namespace Partition

/-- The column of the extension table for an owner and a number. -/
def columnAt (p : Partition) : Decomposed → Nat
  | .host h => h.toNat
  | .extension e => p.columnOf e.toNat

/-- The column of the extension table for a composed symbol. -/
def column? (p : Partition) (s : Nat) : Option Nat := (p.symbol? s).map p.columnAt

/-- The column of a composed symbol is read as one of a class. -/
def Reads (p : Partition) (host : Grammar) (kind : ColumnClass) (s : Nat) : Prop :=
  ∀ column, p.column? s = some column → (Owner.extension p).classify host column = some kind

variable {full : Grammar} {table : SymbolTable} {host : Grammar} {hostStates : OrderedMap Nat}
  {extensionStates : IndexSet} {p : Partition}

theorem reads_iff {s : Nat} {d : Decomposed} (found : p.symbol? s = some d) (kind : ColumnClass) :
    p.Reads host kind s ↔ (Owner.extension p).classify host (p.columnAt d) = some kind := by
  simp only [Reads, column?, found, Option.map_some, Option.some.injEq, forall_eq']

namespace Built

open SymbolPartition (hostMembers extensionMembers start)

variable (b : Built full table host hostStates extensionStates p)

include b

theorem hostMembers_eq (c : Category) : hostMembers full host c = (host.symbols c).elems := by
  have same : (⟨_, SymbolPartition.ascending_hostMembers full host c⟩ : IndexSet) =
      host.symbols c := by
    apply OrderedSet.ext_mem
    intro index
    refine (SymbolPartition.mem_hostMembers full host c index).trans ⟨And.right, fun inside => ?_⟩
    exact ⟨b.numbers.included c index inside, inside⟩
  exact congrArg OrderedSet.elems same

theorem hostIndices_terminal :
    p.hostIndices .terminal = OrderedSet.interval 0 host.terminals.size := by
  rw [b.hostIndices_eq, b.hostMembers_eq]
  rfl

theorem hostIndices_nonterminal : p.hostIndices .nonterminal =
    OrderedSet.interval host.terminals.size host.nonterminals.size := by
  have before : start (hostMembers full host) .nonterminal = host.terminals.size :=
    (Nat.add_zero _).trans (congrArg List.length (b.hostMembers_eq .terminal))
  rw [b.hostIndices_eq, before, b.hostMembers_eq]
  rfl

/-- Each host number of a category is the number of a symbol of the category. -/
theorem exists_symbol_of_mem_hostIndices {c : Category} {n : Nat} (inside : n ∈ p.hostIndices c) :
    ∃ s ∈ full.symbols c, ∃ h : UInt32, h.toNat = n ∧ p.symbol? s = some (.host h) := by
  rw [hostIndices, b.hostOwned_eq_listed, mem_placesOf] at inside
  obtain ⟨s, listed⟩ := inside
  obtain ⟨h, number, found⟩ := b.numbers.hostSide.exists_word_of_place listed
  have member := (SymbolPartition.mem_listed_all _ c s).mp (List.mem_of_getElem? listed)
  exact ⟨s, ((SymbolPartition.mem_hostMembers full host c s).mp member).1, h, number, found⟩

theorem lt_columnOffset {s : Nat} {h : UInt32} (found : p.symbol? s = some (.host h)) :
    h.toNat < p.columnOffset := by
  rw [columnOffset, hostCount, b.hostOwned_eq_listed]
  exact (b.numbers.hostSide.exists_number_iff h.toNat).mp ⟨s, h, found, rfl⟩

theorem columnAt_injective {s s' : Nat} {d d' : Decomposed} (found : p.symbol? s = some d)
    (found' : p.symbol? s' = some d') (same : p.columnAt d = p.columnAt d') : d = d' := by
  cases d with
  | host h =>
    have below := b.lt_columnOffset found
    cases d' with
    | host h' => rw [UInt32.toNat_inj.mp same]
    | extension e' =>
      rw [columnAt, columnAt, columnOf] at same
      omega
  | extension e =>
    cases d' with
    | host h' =>
      have below := b.lt_columnOffset found'
      rw [columnAt, columnAt, columnOf] at same
      omega
    | extension e' => rw [UInt32.toNat_inj.mp (Nat.add_left_cancel same)]

theorem column?_injective {s s' column : Nat} (found : p.column? s = some column)
    (found' : p.column? s' = some column) : s = s' := by
  obtain ⟨d, first, rfl⟩ := Option.map_eq_some_iff.mp found
  obtain ⟨d', second, same⟩ := Option.map_eq_some_iff.mp found'
  exact b.symbol?_injective first (b.columnAt_injective second first same ▸ second)

/-- Columns of the extension's own symbols are read as what the symbols are. -/
theorem reads_of_extension {kind : ColumnClass} {s : Nat} {e : UInt32}
    (inside : s ∈ full.symbols kind.category) (found : p.symbol? s = some (.extension e)) :
    p.Reads host kind s := by
  have own := fun c => b.mem_extensionIndices_iff c found
  have past : ¬ p.columnOf e.toNat < p.columnOffset := Nat.not_lt_of_le (Nat.le_add_right _ _)
  have number : p.columnOf e.toNat - p.columnOffset = e.toNat := Nat.add_sub_cancel_left _ _
  rw [reads_iff found, columnAt]
  simp only [Owner.classify, columnCategory, if_neg past, if_pos (Nat.le_of_not_lt past), number]
  cases kind with
  | terminal =>
    have terminal : (p.extensionIndices .terminal).contains e.toNat = true :=
      (OrderedSet.contains_iff_mem _ _).mpr ((own .terminal).mpr inside)
    simp only [List.find?_cons, terminal]
    rfl
  | nonterminal =>
    have other : ¬ (p.extensionIndices .terminal).contains e.toNat = true := by
      rw [OrderedSet.contains_iff_mem, own]
      intro impossible
      have outside := fun c (listed : s ∈ full.symbols c) => b.not_mem_host_of_symbol? listed found
      have same : Category.terminal = .nonterminal := b.numbers.extensionSide.category_unique
        ((SymbolPartition.mem_extensionMembers _ _ _ s).mpr ⟨impossible, outside _ impossible⟩)
        ((SymbolPartition.mem_extensionMembers _ _ _ s).mpr ⟨inside, outside _ inside⟩)
      cases same
    have nonterminal : (p.extensionIndices .nonterminal).contains e.toNat = true :=
      (OrderedSet.contains_iff_mem _ _).mpr ((own .nonterminal).mpr inside)
    simp only [List.find?_cons, other, nonterminal]
    rfl

/-- The column of a host symbol is looked up among the numbers of the host grammar. -/
theorem reads_iff_of_host {s : Nat} {h : UInt32} (found : p.symbol? s = some (.host h))
    (kind : ColumnClass) :
    p.Reads host kind s ↔ Owner.classifyHost host h.toNat = some kind := by
  have before : ¬ p.columnOffset ≤ h.toNat := Nat.not_le_of_lt (b.lt_columnOffset found)
  rw [reads_iff found, columnAt]
  simp only [Owner.classify, if_neg before]

/-- If all columns are read right, the host has no other terminals and nonterminals than the first
numbers, since it has as many of them. -/
theorem contiguous_of_reads
    (right : ∀ kind : ColumnClass, ∀ s ∈ full.symbols kind.category, p.Reads host kind s) :
    host.Contiguous := by
  have read : ∀ (kind : ColumnClass) n, n ∈ p.hostIndices kind.category →
      Owner.classifyHost host n = some kind := by
    intro kind n inside
    obtain ⟨s, listed, h, rfl, found⟩ := b.exists_symbol_of_mem_hostIndices inside
    exact (b.reads_iff_of_host found kind).mp (right kind s listed)
  refine ⟨?_, ?_⟩
  · refine (OrderedSet.eq_of_subset (fun n inside => ?_) ?_).symm
    · rw [← b.hostIndices_terminal] at inside
      exact (Owner.classifyHost_eq_terminal_iff host n).mp (read .terminal n inside)
    · rw [OrderedSet.size_interval]
  · refine (OrderedSet.eq_of_subset (fun n inside => ?_) ?_).symm
    · rw [← b.hostIndices_nonterminal] at inside
      exact ((Owner.classifyHost_eq_nonterminal_iff host n).mp (read .nonterminal n inside)).2
    · rw [OrderedSet.size_interval]

theorem reads_of_contiguous (contiguous : host.Contiguous) {kind : ColumnClass} {s : Nat}
    (inside : s ∈ full.symbols kind.category) : p.Reads host kind s := by
  obtain ⟨h | e, found⟩ := (b.exists_symbol?_iff s).mpr ⟨_, inside⟩
  · have number := (b.mem_hostIndices_iff kind.category found).mpr inside
    rw [b.reads_iff_of_host found]
    cases kind with
    | terminal =>
      rw [Owner.classifyHost_eq_terminal_iff, contiguous.terminals, ← b.hostIndices_terminal]
      exact number
    | nonterminal =>
      have placed : h.toNat ∈ OrderedSet.interval host.terminals.size host.nonterminals.size :=
        b.hostIndices_nonterminal ▸ number
      rw [Owner.classifyHost_eq_nonterminal_iff]
      refine ⟨fun terminal => ?_, contiguous.nonterminals ▸ placed⟩
      rw [contiguous.terminals, OrderedSet.mem_interval] at terminal
      rw [OrderedSet.mem_interval] at placed
      omega
  · exact b.reads_of_extension inside found

end Built

/-- How the columns of an extension table stand for composed symbols. -/
structure LaysColumns (full host : Grammar) (p : Partition) : Prop where
  placed : ∀ kind : ColumnClass, ∀ s ∈ full.symbols kind.category,
    ∃ column, p.column? s = some column
  distinct : ∀ s s' column, p.column? s = some column → p.column? s' = some column → s = s'
  own : ∀ kind : ColumnClass, ∀ s ∈ full.symbols kind.category, s ∉ host.symbols kind.category →
    p.Reads host kind s
  right : (∀ kind : ColumnClass, ∀ s ∈ full.symbols kind.category, p.Reads host kind s) ↔
    host.Contiguous

/-- Columns are laid out one to one, and are all read right exactly for a contiguous host. -/
theorem laysColumns_of_build
    (built : build full table host hostStates extensionStates = .ok p) :
    p.LaysColumns full host := by
  have b := build_eq_ok_iff.mp built
  refine {
    placed := fun kind s inside => ?_
    distinct := fun s s' column => b.column?_injective
    own := fun kind s inside outside => ?_
    right := ⟨b.contiguous_of_reads, fun contiguous kind s => b.reads_of_contiguous contiguous⟩ }
  · obtain ⟨d, found⟩ := (b.exists_symbol?_iff s).mpr ⟨_, inside⟩
    exact ⟨p.columnAt d, Option.map_eq_some_iff.mpr ⟨d, found, rfl⟩⟩
  · obtain ⟨h | e, found⟩ := (b.exists_symbol?_iff s).mpr ⟨_, inside⟩
    · exact absurd (b.mem_host_of_symbol? inside found) outside
    · exact b.reads_of_extension inside found

theorem laysColumns_extendedPartition : ∃ p, extendedPartition = .ok p ∧
    p.column? 6 = some 6 ∧ p.LaysColumns extendedGrammar statementHost :=
  ⟨_, rfl, rfl, laysColumns_of_build (show extendedPartition = _ from rfl)⟩

def crossedHost : Grammar where
  terminals := .ofList [1]
  nonterminals := .ofList [0]

def crossedTable : SymbolTable := ⟨[⟨.nonterminal, "Start", none⟩, ⟨.terminal, "x", none⟩]⟩

/-- The terminal of the host has host number 0, which is read as the host's nonterminal. -/
theorem misread_crossedHost : ∃ p, build crossedHost crossedTable crossedHost ∅ ∅ = .ok p ∧
    1 ∈ crossedHost.symbols .terminal ∧ p.column? 1 = some 0 ∧
    (Owner.extension p).classify crossedHost 0 = some .nonterminal ∧
    ¬ p.Reads crossedHost .terminal 1 := by
  refine ⟨_, rfl, ?_, rfl, rfl, fun read => ?_⟩
  · exact List.mem_singleton.mpr rfl
  · cases read 0 rfl

end Partition

end ParserSplice
