import Mathlib.Data.List.Sort
import ParserSplice.Ordered.Map

set_option autoImplicit false

namespace ParserSplice

namespace OrderedSet

variable {α : Type} [Ranked α]

theorem nodup_elems (s : OrderedSet α) : s.elems.Nodup :=
  s.ascending.imp (fun less same => absurd less (by simp [same]))

theorem not_mem_empty (a : α) : a ∉ (∅ : OrderedSet α) := List.not_mem_nil

/-- Sets with the same members are equal. -/
theorem ext_mem {s t : OrderedSet α} (same : ∀ a, a ∈ s ↔ a ∈ t) : s = t := by
  obtain ⟨first, sorted⟩ := s
  obtain ⟨second, sorted'⟩ := t
  have irreflexive : Std.Irrefl (fun a b : α => Ranked.rank a < Ranked.rank b) :=
    ⟨fun a => Nat.lt_irrefl _⟩
  have asymmetric : Std.Antisymm (fun a b : α => Ranked.rank a < Ranked.rank b) :=
    ⟨fun a b less more => absurd less (Nat.lt_asymm more)⟩
  congr
  exact List.Pairwise.eq_of_mem_iff sorted sorted' same

theorem ofList_elems (s : OrderedSet α) : ofList s.elems = s :=
  ext_mem (fun a => mem_ofList a s.elems)

/-- A set within another one of the same size is the same set. -/
theorem eq_of_subset {s t : OrderedSet α} (subset : ∀ a ∈ s, a ∈ t) (sizes : s.size = t.size) :
    s = t := by
  have within : s.elems.Subperm t.elems := List.subperm_of_subset s.nodup_elems subset
  have all := within.perm_of_length_le (Nat.le_of_eq sizes.symm)
  exact ext_mem (fun _ => all.mem_iff)

theorem size_le_of_subset {s t : OrderedSet α} (subset : ∀ a ∈ s, a ∈ t) : s.size ≤ t.size :=
  (List.subperm_of_subset s.nodup_elems subset).length_le

theorem mem_union (s t : OrderedSet α) (a : α) : a ∈ s.union t ↔ a ∈ s ∨ a ∈ t := by
  obtain ⟨items, sorted⟩ := t
  have general : a ∈ items.foldr insert s ↔ a ∈ s ∨ a ∈ items := by
    clear sorted
    induction items with
    | nil => simp
    | cons first rest ih =>
      rw [List.foldr_cons, mem_insert, ih, List.mem_cons]
      exact or_left_comm
  exact general

theorem union_empty (s : OrderedSet α) : (∅ : OrderedSet α).union s = s := by
  apply ext_mem
  intro a
  have none : a ∉ (∅ : OrderedSet α) := List.not_mem_nil
  simp only [mem_union, none, false_or]

theorem lt_span {s : IndexSet} {n : Nat} (inside : n ∈ s) : n < s.span := by
  obtain ⟨items, sorted⟩ := s
  have found : n ∈ items := inside
  rcases List.eq_nil_or_concat' items with rfl | ⟨front, last, rfl⟩
  · cases found
  · have split := List.pairwise_append.mp sorted
    simp only [span, List.getLast?_append, List.getLast?_singleton, Option.some_or]
    rcases List.mem_append.mp found with early | final
    · have below : n < last := split.2.2 n early last (List.mem_singleton.mpr rfl)
      omega
    · rw [List.mem_singleton.mp final]
      omega

end OrderedSet

/-- Among entries with distinct keys a key leads to its only entry. -/
theorem lookup_eq_some_iff_mem {β : Type} (entries : List (Nat × β))
    (distinct : (entries.map Prod.fst).Nodup) (key : Nat) (value : β) :
    entries.lookup key = some value ↔ (key, value) ∈ entries := by
  induction entries with
  | nil => simp
  | cons first rest ih =>
    obtain ⟨other, old⟩ := first
    rw [List.map_cons, List.nodup_cons] at distinct
    rw [List.lookup_cons, List.mem_cons]
    by_cases same : key = other
    · subst same
      have absent : (key, value) ∉ rest := fun later =>
        distinct.1 (List.mem_map.mpr ⟨_, later, rfl⟩)
      simp [absent, eq_comm]
    · simp [beq_false_of_ne same, same, ih distinct.2]

/-- A map over the values of entries is a map over what is looked up. -/
theorem lookup_map_values {β γ : Type} (entries : List (Nat × β)) (f : Nat → β → γ) (key : Nat) :
    (entries.map (fun entry => (entry.1, f entry.1 entry.2))).lookup key =
      (entries.lookup key).map (f key) := by
  induction entries with
  | nil => rfl
  | cons first rest ih =>
    rw [List.map_cons, List.lookup_cons, List.lookup_cons, ih]
    by_cases same : key = first.1
    · simp [same]
    · simp [beq_false_of_ne same]

namespace OrderedMap

variable {β : Type}

theorem nodup_keys (m : OrderedMap β) : (m.entries.map Prod.fst).Nodup :=
  m.keys.nodup_elems

theorem get?_eq_some_iff (m : OrderedMap β) (key : Nat) (value : β) :
    m.get? key = some value ↔ (key, value) ∈ m.entries :=
  lookup_eq_some_iff_mem m.entries m.nodup_keys key value

theorem mem_keys (m : OrderedMap β) (key : Nat) :
    key ∈ m.keys ↔ ∃ value, m.get? key = some value := by
  simp only [get?_eq_some_iff]
  constructor
  · intro inside
    obtain ⟨entry, found, rfl⟩ := List.mem_map.mp inside
    exact ⟨entry.2, found⟩
  · intro given
    obtain ⟨value, found⟩ := given
    exact List.mem_map.mpr ⟨(key, value), found, rfl⟩

theorem contains_iff_mem_keys (m : OrderedMap β) (key : Nat) :
    m.contains key = true ↔ key ∈ m.keys := by
  rw [mem_keys, ← Option.isSome_iff_exists, contains]

/-- A map built from entries with distinct keys looks up exactly these entries. -/
theorem get?_ofList_iff (entries : List (Nat × β)) (distinct : (entries.map Prod.fst).Nodup)
    (key : Nat) (value : β) : (ofList entries).get? key = some value ↔ (key, value) ∈ entries := by
  induction entries generalizing key value with
  | nil => simp [ofList, get?, empty]
  | cons first rest ih =>
    obtain ⟨other, new⟩ := first
    rw [List.map_cons, List.nodup_cons] at distinct
    have unfolded : ofList ((other, new) :: rest) = (ofList rest).insertNew other new := rfl
    have fresh : (ofList rest).get? other = none := by
      rw [Option.eq_none_iff_forall_ne_some]
      intro old found
      have inside := (ih distinct.2 other old).mp found
      exact distinct.1 (List.mem_map.mpr ⟨_, inside, rfl⟩)
    rw [unfolded, get?_insertNew, fresh, List.mem_cons]
    by_cases same : key = other
    · subst same
      have absent : (key, value) ∉ rest := fun later =>
        distinct.1 (List.mem_map.mpr ⟨_, later, rfl⟩)
      simp [absent, eq_comm]
    · simp [same, ih distinct.2]

theorem ofList_entries (m : OrderedMap β) : ofList m.entries = m := by
  obtain ⟨entries, sorted⟩ := m
  induction entries with
  | nil => rfl
  | cons first rest ih =>
    obtain ⟨above, later⟩ := List.pairwise_cons.mp sorted
    have unfolded : ofList (first :: rest) = (ofList rest).insertNew first.1 first.2 := rfl
    have fresh : rest.lookup first.1 = none := by
      rw [List.lookup_eq_none_iff]
      intro other inside
      simpa using Nat.ne_of_lt (above other inside)
    have front : place first.1 first.2 rest = first :: rest := by
      cases rest with
      | nil => rfl
      | cons next others => simp [place, above next List.mem_cons_self]
    simp [unfolded, ih later, insertNew, contains, get?, fresh, insert, front]

theorem mem_keys_ofList (entries : List (Nat × β)) (key : Nat) :
    key ∈ (ofList entries).keys ↔ key ∈ entries.map Prod.fst := by
  simp only [mem_keys]
  induction entries with
  | nil => simp [ofList, get?, empty]
  | cons first rest ih =>
    have unfolded : ofList (first :: rest) = (ofList rest).insertNew first.1 first.2 := rfl
    rw [unfolded, List.map_cons, List.mem_cons, ← ih]
    simp only [get?_insertNew]
    by_cases same : key = first.1 <;> simp [same]

end OrderedMap

end ParserSplice
