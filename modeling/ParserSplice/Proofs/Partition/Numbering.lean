import Mathlib.Algebra.GroupWithZero.Nat
import ParserSplice.Partition.Symbols
import ParserSplice.Proofs.Ordered
import ParserSplice.Proofs.Traversal

set_option autoImplicit false

namespace ParserSplice

namespace Category

def later (c : Category) : List Category := all.drop (c.position + 1)

theorem all_eq_earlier_append (c : Category) : all = c.earlier ++ c :: c.later := by
  cases c <;> rfl

theorem not_mem_earlier (c : Category) : c ∉ c.earlier := by cases c <;> decide

theorem not_mem_later (c : Category) : c ∉ c.later := by cases c <;> decide

end Category

namespace OrderedSet

/-- The numbers from `start` on, `count` of them. -/
def interval (start count : Nat) : IndexSet :=
  ⟨List.range' start count, List.pairwise_lt_range'⟩

theorem mem_interval (start count n : Nat) :
    n ∈ interval start count ↔ start ≤ n ∧ n < start + count :=
  List.mem_range'_1

theorem size_interval (start count : Nat) : (interval start count).size = count :=
  List.length_range'

end OrderedSet

theorem hostNumber_eq_ok_iff (n : Nat) (d : Decomposed) :
    hostNumber n = .ok d ↔ ∃ word : UInt32, word.toNat = n ∧ d = .host word := by
  unfold hostNumber
  simp only [← narrow_eq_some_iff]
  cases narrow n <;> simp [eq_comm]

theorem extensionNumber_eq_ok_iff (n : Nat) (d : Decomposed) :
    extensionNumber n = .ok d ↔ ∃ word : UInt32, word.toNat = n ∧ d = .extension word := by
  unfold extensionNumber
  simp only [← narrow_eq_some_iff]
  cases narrow n <;> simp [eq_comm]

theorem exists_hostNumber_iff (n : Nat) : (∃ d, hostNumber n = .ok d) ↔ n < UInt32.size := by
  unfold hostNumber narrow
  split <;> simp_all

theorem exists_extensionNumber_iff (n : Nat) :
    (∃ d, extensionNumber n = .ok d) ↔ n < UInt32.size := by
  unfold extensionNumber narrow
  split <;> simp_all

/-- The places of a list stay below a bound if there are not more of them. -/
theorem forall_mem_zipIdx_lt_iff {α : Type} (items : List α) (bound : Nat) :
    (∀ entry ∈ items.zipIdx, entry.2 < bound) ↔ items.length ≤ bound := by
  constructor
  · intro below
    by_contra many
    have last : bound < items.length := by omega
    have inside : (items[bound], bound) ∈ items.zipIdx :=
      List.mem_zipIdx_iff_getElem?.mpr (List.getElem?_eq_getElem last)
    exact Nat.lt_irrefl _ (below _ inside)
  · intro few entry inside
    have found := List.mem_zipIdx_iff_getElem?.mp inside
    exact Nat.lt_of_lt_of_le (List.getElem?_eq_some_iff.mp found).1 few

theorem mem_placesOf (symbols : List CategorizedSymbol) (c : Category) (place : Nat) :
    place ∈ placesOf symbols c ↔ ∃ index, symbols[place]? = some (c, index) := by
  simp only [placesOf, OrderedSet.mem_ofList, List.mem_map, List.mem_filter,
    List.mem_zipIdx_iff_getElem?, beq_iff_eq]
  constructor
  · intro given
    obtain ⟨⟨⟨_, index⟩, _⟩, ⟨found, rfl⟩, rfl⟩ := given
    exact ⟨index, found⟩
  · intro given
    obtain ⟨index, found⟩ := given
    exact ⟨((c, index), place), ⟨found, rfl⟩, rfl⟩

namespace SymbolPartition

def listed (members : Category → List Nat) (categories : List Category) : List CategorizedSymbol :=
  categories.flatMap (fun c => (members c).map (fun index => (c, index)))

def start (members : Category → List Nat) (c : Category) : Nat :=
  (c.earlier.map (fun d => (members d).length)).sum

theorem length_listed (members : Category → List Nat) (categories : List Category) :
    (listed members categories).length = (categories.map (fun c => (members c).length)).sum := by
  simp [listed, List.length_flatMap]

theorem category_of_mem_listed (members : Category → List Nat) (categories : List Category)
    (s : CategorizedSymbol) (inside : s ∈ listed members categories) : s.1 ∈ categories := by
  obtain ⟨c, among, found⟩ := List.mem_flatMap.mp inside
  obtain ⟨_, _, rfl⟩ := List.mem_map.mp found
  exact among

theorem mem_listed_all (members : Category → List Nat) (c : Category) (index : Nat) :
    (c, index) ∈ listed members Category.all ↔ index ∈ members c := by
  constructor
  · intro inside
    obtain ⟨d, _, found⟩ := List.mem_flatMap.mp inside
    obtain ⟨_, member, same⟩ := List.mem_map.mp found
    cases same
    exact member
  · intro member
    exact List.mem_flatMap.mpr ⟨c, Category.mem_all c, List.mem_map.mpr ⟨index, member, rfl⟩⟩

/-- The symbols of a category stand in their order from the start of the category on. -/
theorem getElem?_listed_all (members : Category → List Nat) (place : Nat) (c : Category)
    (index : Nat) : (listed members Category.all)[place]? = some (c, index) ↔
      start members c ≤ place ∧ (members c)[place - start members c]? = some index := by
  have split : listed members Category.all = listed members c.earlier ++
      ((members c).map (fun index => (c, index)) ++ listed members c.later) := by
    rw [Category.all_eq_earlier_append c]
    simp [listed]
  have front : (listed members c.earlier).length = start members c :=
    length_listed members c.earlier
  rw [split]
  by_cases before : place < start members c
  · rw [List.getElem?_append_left (front ▸ before)]
    constructor
    · intro found
      have inside := category_of_mem_listed _ _ _ (List.mem_of_getElem? found)
      exact absurd inside c.not_mem_earlier
    · intro found
      omega
  · rw [List.getElem?_append_right (by omega), front]
    by_cases within : place - start members c < (members c).length
    · rw [List.getElem?_append_left (by simpa using within), List.getElem?_map]
      simp [Nat.le_of_not_lt before]
    · rw [List.getElem?_append_right (by simpa using within)]
      constructor
      · intro found
        have inside := category_of_mem_listed _ _ _ (List.mem_of_getElem? found)
        exact absurd inside c.not_mem_later
      · intro given
        obtain ⟨_, found⟩ := given
        rw [List.getElem?_eq_none (by omega)] at found
        cases found

/-- The places of a category are an interval. -/
theorem placesOf_listed_all (members : Category → List Nat) (c : Category) :
    placesOf (listed members Category.all) c =
      OrderedSet.interval (start members c) (members c).length := by
  apply OrderedSet.ext_mem
  intro place
  simp only [mem_placesOf, getElem?_listed_all, OrderedSet.mem_interval, exists_and_left]
  constructor
  · intro given
    obtain ⟨after, index, found⟩ := given
    have within := (List.getElem?_eq_some_iff.mp found).1
    omega
  · intro given
    obtain ⟨after, within⟩ := given
    exact ⟨after, _, List.getElem?_eq_getElem (by omega)⟩

def hostMembers (full host : Grammar) (c : Category) : List Nat :=
  (full.symbols c).elems.filter (fun index => ownedByHost host (c, index))

def extensionMembers (full host : Grammar) (c : Category) : List Nat :=
  (full.symbols c).elems.filter (fun index => !ownedByHost host (c, index))

theorem filter_listed (members : Category → List Nat) (keep : CategorizedSymbol → Bool) :
    (listed members Category.all).filter keep =
      listed (fun c => (members c).filter (fun index => keep (c, index))) Category.all := by
  simp only [listed, List.filter_flatMap, List.filter_map]
  rfl

theorem hostOwned_eq_listed (full host : Grammar) :
    hostOwned full host = listed (hostMembers full host) Category.all :=
  filter_listed _ (ownedByHost host)

theorem extensionOwned_eq_listed (full host : Grammar) :
    extensionOwned full host = listed (extensionMembers full host) Category.all :=
  filter_listed _ (fun s => !ownedByHost host s)

theorem ownedByHost_iff (host : Grammar) (c : Category) (index : Nat) :
    ownedByHost host (c, index) = true ↔ index ∈ host.symbols c :=
  OrderedSet.contains_iff_mem (host.symbols c) index

theorem mem_hostMembers (full host : Grammar) (c : Category) (index : Nat) :
    index ∈ hostMembers full host c ↔ index ∈ full.symbols c ∧ index ∈ host.symbols c := by
  rw [hostMembers, List.mem_filter, ownedByHost_iff]
  rfl

theorem mem_extensionMembers (full host : Grammar) (c : Category) (index : Nat) :
    index ∈ extensionMembers full host c ↔ index ∈ full.symbols c ∧ index ∉ host.symbols c := by
  rw [extensionMembers, List.mem_filter, Bool.not_eq_true', ← Bool.not_eq_true, ownedByHost_iff]
  rfl

theorem ascending_hostMembers (full host : Grammar) (c : Category) :
    Ascending (hostMembers full host c) :=
  (full.symbols c).ascending.filter _

theorem ascending_extensionMembers (full host : Grammar) (c : Category) :
    Ascending (extensionMembers full host c) :=
  (full.symbols c).ascending.filter _

theorem mem_composed (g : Grammar) (c : Category) (index : Nat) :
    (c, index) ∈ composed g ↔ index ∈ g.symbols c :=
  mem_listed_all (fun d => (g.symbols d).elems) c index

theorem map_snd_composed (g : Grammar) :
    (composed g).map Prod.snd = Category.all.flatMap (fun c => (g.symbols c).elems) := by
  simp [composed, List.map_flatMap, Function.comp_def]

/-- Once symbols have been noted, just they and the earlier ones are known. -/
theorem get?_of_noteAll {c : Category} {indices : List Nat} {seen after : Seen}
    (noted : noteAll c seen indices = .ok after) (index : Nat) :
    after.get? index = none ↔ seen.get? index = none ∧ index ∉ indices := by
  induction indices generalizing seen with
  | nil =>
    cases noted
    simp
  | cons first rest ih =>
    cases known : seen.get? first with
    | some d => simp [noteAll, known] at noted
    | none =>
      rw [noteAll, known] at noted
      rw [ih noted, OrderedMap.get?_insert, List.mem_cons, not_or]
      by_cases same : index = first <;> simp [same]

/-- Symbols are noted if they are distinct and new. -/
theorem exists_noteAll_iff (c : Category) (indices : List Nat) (seen : Seen) :
    (∃ after, noteAll c seen indices = .ok after) ↔
      indices.Nodup ∧ ∀ index ∈ indices, seen.get? index = none := by
  induction indices generalizing seen with
  | nil => simp [noteAll]
  | cons first rest ih =>
    rw [List.nodup_cons, List.forall_mem_cons]
    cases known : seen.get? first with
    | some d => simp [noteAll, known]
    | none =>
      have untouched : ∀ index, (seen.insert first c).get? index = none ↔
          index ≠ first ∧ seen.get? index = none := by
        intro index
        rw [OrderedMap.get?_insert]
        by_cases same : index = first <;> simp [same]
      simp only [noteAll, known, ih, untouched]
      constructor
      · intro given
        obtain ⟨distinct, fresh⟩ := given
        have apart : first ∉ rest := fun later => absurd rfl (fresh first later).1
        exact ⟨⟨apart, distinct⟩, trivial, fun index later => (fresh index later).2⟩
      · intro given
        obtain ⟨⟨apart, distinct⟩, _, fresh⟩ := given
        refine ⟨distinct, fun index later => ⟨fun same => ?_, fresh index later⟩⟩
        exact apart (same ▸ later)

theorem noteCategory_eq_ok_iff (full host : Grammar) (seen after : Seen) (c : Category) :
    noteCategory full host seen c = .ok after ↔
      (∀ index ∈ host.symbols c, index ∈ full.symbols c) ∧
        noteAll c seen (full.symbols c).elems = .ok after := by
  have missing_iff : (host.symbols c).elems.find?
      (fun index => !(full.symbols c).contains index) = none ↔
        ∀ index ∈ host.symbols c, index ∈ full.symbols c := by
    simp only [List.find?_eq_none, Bool.not_eq_true, Bool.not_eq_false',
      OrderedSet.contains_iff_mem]
    rfl
  rw [← missing_iff, noteCategory]
  cases (host.symbols c).elems.find? (fun index => !(full.symbols c).contains index) <;> simp

/-- Categories are noted if they hold the host's symbols and all their symbols are distinct and
new. -/
theorem exists_noteCategories_iff (full host : Grammar) (categories : List Category) (seen : Seen) :
    (∃ after, categories.foldlM (noteCategory full host) seen = .ok after) ↔
      (∀ c ∈ categories, ∀ index ∈ host.symbols c, index ∈ full.symbols c) ∧
        (categories.flatMap (fun c => (full.symbols c).elems)).Nodup ∧
        ∀ index ∈ categories.flatMap (fun c => (full.symbols c).elems),
          seen.get? index = none := by
  induction categories generalizing seen with
  | nil => simp [pure_eq_ok_iff]
  | cons c rest ih =>
    simp only [List.foldlM_cons, exists_bind_iff, noteCategory_eq_ok_iff, ih, List.forall_mem_cons,
      List.flatMap_cons, List.forall_mem_append, List.nodup_append]
    constructor
    · intro given
      obtain ⟨middle, ⟨included, run⟩, others, distinct, fresh⟩ := given
      have known := get?_of_noteAll run
      obtain ⟨distinctHere, freshHere⟩ := (exists_noteAll_iff c _ seen).mp ⟨middle, run⟩
      refine ⟨⟨included, others⟩, ⟨distinctHere, distinct, fun a inside b later same => ?_⟩,
        freshHere, fun index later => ((known index).mp (fresh index later)).1⟩
      subst same
      exact ((known a).mp (fresh a later)).2 inside
    · intro given
      obtain ⟨⟨included, others⟩, ⟨distinctHere, distinct, apart⟩, freshHere, fresh⟩ := given
      obtain ⟨middle, run⟩ := (exists_noteAll_iff c _ seen).mpr ⟨distinctHere, freshHere⟩
      refine ⟨middle, ⟨included, run⟩, others, distinct, fun index later => ?_⟩
      exact (get?_of_noteAll run index).mpr
        ⟨fresh index later, fun inside => apart index inside index later rfl⟩

/-- A composed grammar passes the check if it holds the host grammar and lists each symbol once. -/
theorem check_eq_ok_iff (full host : Grammar) :
    check full host = .ok () ↔ (∀ c, ∀ index ∈ host.symbols c, index ∈ full.symbols c) ∧
      ((composed full).map Prod.snd).Nodup := by
  have noted := exists_noteCategories_iff full host Category.all ∅
  have unseen : ∀ index, (∅ : Seen).get? index = none := fun _ => rfl
  simp only [Category.mem_all, forall_const, unseen, implies_true, and_true] at noted
  rw [map_snd_composed, ← noted, check]
  simp only [bind_eq_ok_iff, pure_eq_ok_iff, and_true]

/-- Numbering symbols by their places succeeds only if all places fit, and gives each symbol the
word that is its place. -/
theorem numbered_ok (number : Nat → Except CompositionError Decomposed)
    (wrap : UInt32 → Decomposed)
    (number_iff : ∀ n d, number n = .ok d ↔ ∃ word : UInt32, word.toNat = n ∧ d = wrap word)
    (owned : List CategorizedSymbol) (entries : List (Nat × Decomposed))
    (run : owned.zipIdx.mapM (fun (entry : CategorizedSymbol × Nat) => do
      let d ← number entry.2
      return (entry.1.2, d)) = .ok entries) :
    entries.map Prod.fst = owned.map Prod.snd ∧ owned.length ≤ UInt32.size ∧
      ∀ index d, (index, d) ∈ entries ↔
        ∃ word, d = wrap word ∧ ∃ c, owned[word.toNat]? = some (c, index) := by
  have paired : List.Forall₂ (fun (item : CategorizedSymbol × Nat) (entry : Nat × Decomposed) =>
      ∃ word : UInt32, word.toNat = item.2 ∧ entry = (item.1.2, wrap word))
      owned.zipIdx entries := by
    refine ((mapM_eq_ok_iff _ _ _).mp run).imp (fun item entry done => ?_)
    obtain ⟨d, numbered, same⟩ := (bind_eq_ok_iff _ _ _).mp done
    obtain ⟨word, value, rfl⟩ := (number_iff _ _).mp numbered
    exact ⟨word, value, ((pure_eq_ok_iff _ _).mp same).symm⟩
  refine ⟨?_, ?_, ?_⟩
  · have keys : List.Forall₂ (fun (item : CategorizedSymbol × Nat) (entry : Nat × Decomposed) =>
        item.1.2 = entry.1) owned.zipIdx entries :=
      paired.imp (fun _ _ ⟨_, _, same⟩ => by rw [same])
    have columns : owned.zipIdx.map (fun item => item.1.2) = entries.map Prod.fst := by
      rwa [← List.forall₂_eq_eq_eq, List.forall₂_map_left_iff, List.forall₂_map_right_iff]
    calc entries.map Prod.fst
      _ = owned.zipIdx.map (fun item => item.1.2) := columns.symm
      _ = (owned.zipIdx.map Prod.fst).map Prod.snd := by rw [List.map_map]; rfl
      _ = owned.map Prod.snd := by rw [List.zipIdx_map_fst]
  · refine (forall_mem_zipIdx_lt_iff owned UInt32.size).mp (fun entry inside => ?_)
    obtain ⟨_, _, word, value, _⟩ := exists_result_of_mem paired _ inside
    exact value ▸ word.toNat_lt_size
  · intro index d
    constructor
    · intro inside
      obtain ⟨⟨⟨c, _⟩, place⟩, item, word, value, same⟩ := exists_item_of_mem paired _ inside
      cases same
      refine ⟨word, rfl, c, ?_⟩
      rw [value]
      exact List.mem_zipIdx_iff_getElem?.mp item
    · intro given
      obtain ⟨word, rfl, c, found⟩ := given
      have item : ((c, index), word.toNat) ∈ owned.zipIdx :=
        List.mem_zipIdx_iff_getElem?.mpr found
      obtain ⟨entry, inside, other, value, rfl⟩ := exists_result_of_mem paired _ item
      rwa [UInt32.toNat_inj.mp value] at inside

/-- A map sends the listed symbols, and no others, to their places on one side. -/
structure Numbered (symbols : OrderedMap Decomposed) (wrap : UInt32 → Decomposed)
    (members : Category → List Nat) : Prop where
  distinct : ((listed members Category.all).map Prod.snd).Nodup
  fits : (listed members Category.all).length ≤ UInt32.size
  lookup : ∀ index word, symbols.get? index = some (wrap word) ↔
    ∃ c, (listed members Category.all)[word.toNat]? = some (c, index)

namespace Numbered

variable {symbols : OrderedMap Decomposed} {wrap : UInt32 → Decomposed}
  {members : Category → List Nat} (n : Numbered symbols wrap members)

include n

theorem category_unique {c d : Category} {index : Nat} (first : index ∈ members c)
    (second : index ∈ members d) : c = d := by
  have same := List.inj_on_of_nodup_map n.distinct ((mem_listed_all members c index).mpr first)
    ((mem_listed_all members d index).mpr second) rfl
  exact congrArg Prod.fst same

/-- Every place fits a word, so the symbol there is mapped to it. -/
theorem exists_word_of_place {place : Nat} {c : Category} {index : Nat}
    (found : (listed members Category.all)[place]? = some (c, index)) :
    ∃ word : UInt32, word.toNat = place ∧ symbols.get? index = some (wrap word) := by
  have bound := (List.getElem?_eq_some_iff.mp found).1
  have value : (UInt32.ofNat place).toNat = place :=
    UInt32.toNat_ofNat_of_lt' (Nat.lt_of_lt_of_le bound n.fits)
  refine ⟨UInt32.ofNat place, value, (n.lookup index _).mpr ⟨c, ?_⟩⟩
  rw [value, found]

theorem exists_word {c : Category} {index : Nat} (inside : index ∈ members c) :
    ∃ word, symbols.get? index = some (wrap word) := by
  obtain ⟨place, found⟩ := List.mem_iff_getElem?.mp ((mem_listed_all members c index).mpr inside)
  obtain ⟨word, _, mapped⟩ := n.exists_word_of_place found
  exact ⟨word, mapped⟩

theorem exists_category {index : Nat} {word : UInt32}
    (found : symbols.get? index = some (wrap word)) :
    ∃ c, index ∈ members c := by
  obtain ⟨c, listed⟩ := (n.lookup index word).mp found
  exact ⟨c, (mem_listed_all members c index).mp (List.mem_of_getElem? listed)⟩

/-- Within its category a symbol stands at its number, counted from the start of the category. -/
theorem place_in_category {c : Category} {index : Nat} {word : UInt32}
    (found : symbols.get? index = some (wrap word)) (inside : index ∈ members c) :
    start members c ≤ word.toNat ∧
      (members c)[word.toNat - start members c]? = some index := by
  obtain ⟨d, listed⟩ := (n.lookup index word).mp found
  have other := (mem_listed_all members d index).mp (List.mem_of_getElem? listed)
  rw [n.category_unique inside other]
  exact (getElem?_listed_all members word.toNat d index).mp listed

theorem index_unique {first second : Nat} {word : UInt32}
    (one : symbols.get? first = some (wrap word)) (two : symbols.get? second = some (wrap word)) :
    first = second := by
  obtain ⟨_, foundFirst⟩ := (n.lookup first word).mp one
  obtain ⟨_, foundSecond⟩ := (n.lookup second word).mp two
  rw [foundFirst, Option.some.injEq, Prod.mk.injEq] at foundSecond
  exact foundSecond.2

theorem exists_number_iff (place : Nat) :
    (∃ index word, symbols.get? index = some (wrap word) ∧ word.toNat = place) ↔
      place < (listed members Category.all).length := by
  constructor
  · intro given
    obtain ⟨index, word, found, rfl⟩ := given
    obtain ⟨c, listed⟩ := (n.lookup index word).mp found
    exact (List.getElem?_eq_some_iff.mp listed).1
  · intro bound
    obtain ⟨word, value, mapped⟩ := n.exists_word_of_place (List.getElem?_eq_getElem bound)
    exact ⟨_, word, mapped, value⟩

theorem mem_placesOf_iff {index : Nat} {word : UInt32} (c : Category)
    (found : symbols.get? index = some (wrap word)) :
    word.toNat ∈ placesOf (listed members Category.all) c ↔ index ∈ members c := by
  obtain ⟨d, listed⟩ := (n.lookup index word).mp found
  rw [mem_placesOf, listed]
  constructor
  · intro given
    obtain ⟨other, same⟩ := given
    cases same
    exact (mem_listed_all members c index).mp (List.mem_of_getElem? listed)
  · intro inside
    have member := (mem_listed_all members d index).mp (List.mem_of_getElem? listed)
    exact ⟨index, by rw [n.category_unique inside member]⟩

/-- Within a category, numbers ascend with the composed numbers. -/
theorem lt_of_lt {c : Category} (sorted : Ascending (members c)) {first second : Nat}
    {one two : UInt32} (inFirst : first ∈ members c) (inSecond : second ∈ members c)
    (foundFirst : symbols.get? first = some (wrap one))
    (foundSecond : symbols.get? second = some (wrap two)) (less : first < second) :
    one.toNat < two.toNat := by
  obtain ⟨afterFirst, placeFirst⟩ := n.place_in_category foundFirst inFirst
  obtain ⟨afterSecond, placeSecond⟩ := n.place_in_category foundSecond inSecond
  obtain ⟨boundFirst, valueFirst⟩ := List.getElem?_eq_some_iff.mp placeFirst
  obtain ⟨boundSecond, valueSecond⟩ := List.getElem?_eq_some_iff.mp placeSecond
  by_contra reversed
  have order : two.toNat - start members c ≤ one.toNat - start members c := by omega
  rcases Nat.eq_or_lt_of_le order with same | before
  · simp only [same, valueFirst] at valueSecond
    omega
  · have ascends := List.pairwise_iff_getElem.mp sorted _ _ boundSecond boundFirst before
    simp only [valueFirst, valueSecond] at ascends
    exact absurd ascends (Nat.lt_asymm less)

end Numbered

/-- The map of a partition numbers the symbols of the host and those of the extension apart. -/
structure Numbers (full host : Grammar) (symbols : OrderedMap Decomposed) : Prop where
  included : ∀ c, ∀ index ∈ host.symbols c, index ∈ full.symbols c
  hostSide : Numbered symbols .host (hostMembers full host)
  extensionSide : Numbered symbols .extension (extensionMembers full host)

theorem build_numbers (full host : Grammar) (symbols : OrderedMap Decomposed)
    (built : build full host = .ok symbols) : Numbers full host symbols := by
  obtain ⟨_, passed, numbering⟩ := (bind_eq_ok_iff _ _ _).mp built
  obtain ⟨hosts, hostRun, rest⟩ := (bind_eq_ok_iff _ _ _).mp numbering
  obtain ⟨extensions, extensionRun, joined⟩ := (bind_eq_ok_iff _ _ _).mp rest
  obtain ⟨included, distinct⟩ := (check_eq_ok_iff full host).mp passed
  obtain ⟨hostKeys, hostFits, hostMem⟩ :=
    numbered_ok hostNumber .host hostNumber_eq_ok_iff _ hosts hostRun
  obtain ⟨extensionKeys, extensionFits, extensionMem⟩ :=
    numbered_ok extensionNumber .extension extensionNumber_eq_ok_iff _ extensions extensionRun
  have keys : ((hosts ++ extensions).map Prod.fst).Nodup := by
    rw [List.map_append, hostKeys, extensionKeys, ← List.map_append]
    have split := List.filter_append_perm (ownedByHost host) (composed full)
    exact (split.map Prod.snd).nodup_iff.mpr distinct
  have lookup := OrderedMap.get?_ofList_iff (hosts ++ extensions) keys
  rw [(pure_eq_ok_iff _ _).mp joined] at lookup
  refine ⟨included, ⟨?_, ?_, fun index word => ?_⟩, ⟨?_, ?_, fun index word => ?_⟩⟩
  · rw [← hostOwned_eq_listed]
    exact (List.filter_sublist.map Prod.snd).nodup distinct
  · rwa [← hostOwned_eq_listed]
  · rw [← hostOwned_eq_listed, lookup, List.mem_append, hostMem, extensionMem]
    constructor
    · intro given
      rcases given with ⟨_, same, found⟩ | ⟨_, impossible, _⟩
      · cases same
        exact found
      · cases impossible
    · exact fun found => Or.inl ⟨word, rfl, found⟩
  · rw [← extensionOwned_eq_listed]
    exact (List.filter_sublist.map Prod.snd).nodup distinct
  · rwa [← extensionOwned_eq_listed]
  · rw [← extensionOwned_eq_listed, lookup, List.mem_append, hostMem, extensionMem]
    constructor
    · intro given
      rcases given with ⟨_, impossible, _⟩ | ⟨_, same, found⟩
      · cases impossible
      · cases same
        exact found
    · exact fun found => Or.inr ⟨word, rfl, found⟩

/-- Exactly the composed symbols have an owner and a number. -/
theorem Numbers.exists_get?_iff {full host : Grammar} {symbols : OrderedMap Decomposed}
    (n : Numbers full host symbols) (s : Nat) :
    (∃ d, symbols.get? s = some d) ↔ ∃ c, s ∈ full.symbols c := by
  constructor
  · intro given
    obtain ⟨h | e, found⟩ := given
    · obtain ⟨c, own⟩ := n.hostSide.exists_category found
      exact ⟨c, ((mem_hostMembers full host c s).mp own).1⟩
    · obtain ⟨c, own⟩ := n.extensionSide.exists_category found
      exact ⟨c, ((mem_extensionMembers full host c s).mp own).1⟩
  · intro given
    obtain ⟨c, inside⟩ := given
    by_cases hosted : s ∈ host.symbols c
    · have own := (mem_hostMembers full host c s).mpr ⟨inside, hosted⟩
      obtain ⟨h, found⟩ := n.hostSide.exists_word own
      exact ⟨_, found⟩
    · have own := (mem_extensionMembers full host c s).mpr ⟨inside, hosted⟩
      obtain ⟨e, found⟩ := n.extensionSide.exists_word own
      exact ⟨_, found⟩

end SymbolPartition

end ParserSplice
