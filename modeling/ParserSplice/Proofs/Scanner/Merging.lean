import Mathlib.Data.List.Basic
import ParserSplice.Proofs.Scanner.Numbering

set_option autoImplicit false

namespace ParserSplice.Minimal

section FirstEqual

variable {κ : Type} [BEq κ] [Hashable κ] [LawfulBEq κ] [LawfulHashable κ]

omit [Hashable κ] [LawfulHashable κ] in
theorem idxOf_le {items : List κ} {i : Nat} {item : κ} (found : items[i]? = some item) :
    items.idxOf item ≤ i := by
  obtain ⟨inside, rfl⟩ := List.getElem?_eq_some_iff.mp found
  have early : items[i] ∈ items.take (i + 1) :=
    List.mem_take_iff_getElem.mpr ⟨i, by omega, rfl⟩
  exact Nat.le_of_lt_succ ((List.mem_take_iff_idxOf_lt (List.getElem_mem inside)).mp early)

/-- Groups that are named by their first states. -/
structure NamedByFirst (groups : List Nat) : Prop where
  early : ∀ (i : Nat) g, groups[i]? = some g → g ≤ i
  own : ∀ (i : Nat) g, groups[i]? = some g → groups[g]? = some g

theorem length_firstEqual (items : List κ) : (firstEqual items).length = items.length := by
  rw [firstEqual_eq, List.length_map]

theorem namedByFirst_firstEqual (items : List κ) : NamedByFirst (firstEqual items) := by
  rw [firstEqual_eq]
  refine ⟨fun i g found => ?_, fun i g found => ?_⟩
  all_goals
    rw [List.getElem?_map, Option.map_eq_some_iff] at found
    obtain ⟨item, listed, rfl⟩ := found
  · exact idxOf_le listed
  · rw [List.getElem?_map, List.getElem?_idxOf (List.mem_of_getElem? listed), Option.map_some]

theorem eq_of_firstEqual {items : List κ} {i j : Nat} {a b : κ} (first : items[i]? = some a)
    (second : items[j]? = some b) (same : (firstEqual items)[i]? = (firstEqual items)[j]?) :
    a = b := by
  rw [firstEqual_eq, List.getElem?_map, List.getElem?_map, first, second, Option.map_some,
    Option.map_some, Option.some_inj] at same
  exact (List.idxOf_inj (List.mem_of_getElem? first)).mp same

end FirstEqual

def leaders (groups : List Nat) : List Nat :=
  (List.range groups.length).filter (fun i => groups[i]? == some i)

theorem mem_leaders (groups : List Nat) (i : Nat) :
    i ∈ leaders groups ↔ groups[i]? = some i := by
  rw [leaders, List.mem_filter, List.mem_range, beq_iff_eq]
  exact and_iff_right_of_imp (fun found => (List.getElem?_eq_some_iff.mp found).1)

theorem count_eq (groups : List Nat) : count groups = (leaders groups).length := by
  have places : List.range groups.length = groups.zipIdx.map Prod.snd := by
    rw [List.zipIdx_map_snd, List.range_eq_range']
  rw [leaders, places, List.filter_map, List.length_map, count]
  congr 1
  apply List.filter_congr
  intro entry listed
  rw [Function.comp_apply, List.mem_zipIdx_iff_getElem?.mp listed]
  rfl

theorem count_le (groups : List Nat) : count groups ≤ groups.length := by
  rw [count_eq, leaders]
  exact Nat.le_trans (List.length_filter_le _ _) (Nat.le_of_eq List.length_range)

def Splits (groups next : List Nat) : Prop :=
  ∀ (i j : Nat) g, next[i]? = some g → next[j]? = some g → groups[i]? = groups[j]?

variable {groups next : List Nat}

/-- A state that names a group keeps doing so when groups are split. -/
theorem leaders_sublist (named : NamedByFirst groups) (named' : NamedByFirst next)
    (length : next.length = groups.length) (splits : Splits groups next) :
    (leaders groups).Sublist (leaders next) := by
  rw [leaders, leaders, length]
  apply List.monotone_filter_right
  intro i own
  rw [beq_iff_eq] at own ⊢
  have inside : i < next.length := by
    rw [length]
    exact (List.getElem?_eq_some_iff.mp own).1
  obtain ⟨g, found⟩ : ∃ g, next[i]? = some g := ⟨_, List.getElem?_eq_getElem inside⟩
  have early := named'.early i g found
  -- The name of the split group is in the same group as before, so it cannot come earlier.
  have same := splits i g g found (named'.own i g found)
  have late := named.early g i (same ▸ own)
  rw [found, Nat.le_antisymm early late]

/-- A round that leaves the number of groups as it is changes no group. -/
theorem eq_of_count_eq (named : NamedByFirst groups) (named' : NamedByFirst next)
    (length : next.length = groups.length) (splits : Splits groups next)
    (counts : count next = count groups) : next = groups := by
  have sublist := leaders_sublist named named' length splits
  have same : leaders groups = leaders next :=
    sublist.eq_of_length (by rw [← count_eq, ← count_eq, counts])
  apply List.ext_getElem?
  intro i
  cases found : next[i]? with
  | none =>
    rw [List.getElem?_eq_none_iff, length] at found
    rw [List.getElem?_eq_none found]
  | some g =>
    have own := named'.own i g found
    have kept : groups[g]? = some g := by
      rw [← mem_leaders, same, mem_leaders]
      exact own
    rw [splits i g g found own, kept]

def signatures (rows : List (List Nat)) (groups : List Nat) : List (List Nat) :=
  List.zipWith (fun group row => group :: row.map (groupOf groups.toArray)) groups rows

theorem refine_eq (rows : List (List Nat)) (groups : List Nat) :
    refine rows groups = firstEqual (signatures rows groups) := rfl

theorem getElem?_signatures {rows : List (List Nat)} {i g : Nat} {row : List Nat}
    (found : groups[i]? = some g) (written : rows[i]? = some row) :
    (signatures rows groups)[i]? = some (g :: row.map (groupOf groups.toArray)) := by
  rw [signatures, List.getElem?_zipWith, found, written]

theorem length_signatures {rows : List (List Nat)} (length : groups.length = rows.length) :
    (signatures rows groups).length = groups.length := by
  rw [signatures, List.length_zipWith, length, Nat.min_self]

theorem splits_refine {rows : List (List Nat)} (length : groups.length = rows.length) :
    Splits groups (refine rows groups) := by
  intro i j g first second
  have parts (k : Nat) (found : (refine rows groups)[k]? = some g) :
      ∃ own, ∃ row : List Nat, groups[k]? = some own ∧
        (signatures rows groups)[k]? = some (own :: row.map (groupOf groups.toArray)) := by
    have inside : k < groups.length := by
      have bound := (List.getElem?_eq_some_iff.mp found).1
      rwa [refine_eq, length_firstEqual, length_signatures length] at bound
    have own := List.getElem?_eq_getElem inside
    exact ⟨_, _, own, getElem?_signatures own (List.getElem?_eq_getElem (length ▸ inside))⟩
  obtain ⟨own, row, listed, signature⟩ := parts i first
  obtain ⟨own', row', listed', signature'⟩ := parts j second
  have same := eq_of_firstEqual signature signature' (first.trans second.symm)
  rw [listed, listed', (List.cons.inj same).1]

/-- Enough rounds end with groups that a further round leaves as they are. -/
theorem settle_spec {rows : List (List Nat)} {steps : Nat} {groups : List Nat}
    (named : NamedByFirst groups) (length : groups.length = rows.length)
    (enough : rows.length < count groups + steps) :
    NamedByFirst (settle rows steps groups) ∧ (settle rows steps groups).length = rows.length ∧
      Splits groups (settle rows steps groups) ∧
      refine rows (settle rows steps groups) = settle rows steps groups := by
  induction steps generalizing groups with
  | zero =>
    have bound := count_le groups
    omega
  | succ steps ih =>
    have named' : NamedByFirst (refine rows groups) := namedByFirst_firstEqual _
    have length' : (refine rows groups).length = groups.length := by
      rw [refine_eq, length_firstEqual, length_signatures length]
    have splits := splits_refine length
    rw [settle]
    split
    · next counts =>
      refine ⟨named, length, fun i j g first second => first.trans second.symm, ?_⟩
      exact eq_of_count_eq named named' length' splits counts
    · next counts =>
      have grown := (leaders_sublist named named' length' splits).length_le
      rw [← count_eq, ← count_eq] at grown
      obtain ⟨last, size, finer, fixed⟩ := ih named' (length'.trans length) (by omega)
      refine ⟨last, size, fun i j g first second => ?_, fixed⟩
      have close := finer i j g first second
      have inside : i < (refine rows groups).length := by
        rw [length', length, ← size]
        exact (List.getElem?_eq_some_iff.mp first).1
      obtain ⟨between, found⟩ : ∃ between, (refine rows groups)[i]? = some between :=
        ⟨_, List.getElem?_eq_getElem inside⟩
      exact splits i j between found (close ▸ found)

/-- Groups whose states have equal keys and lead to equal groups. -/
structure Congruent {κ : Type} (keys : List κ) (rows : List (List Nat)) (groups : List Nat) :
    Prop where
  named : NamedByFirst groups
  length : groups.length = rows.length
  keys : ∀ (i j : Nat) g, groups[i]? = some g → groups[j]? = some g → keys[i]? = keys[j]?
  rows : ∀ (i j : Nat) g row row', groups[i]? = some g → groups[j]? = some g →
    rows[i]? = some row → rows[j]? = some row' →
      row.map (groupOf groups.toArray) = row'.map (groupOf groups.toArray)

theorem congruent_groups {κ : Type} [BEq κ] [Hashable κ] [LawfulBEq κ] [LawfulHashable κ]
    {keys : List κ} {rows : List (List Nat)} (same : keys.length = rows.length)
    (nonempty : 0 < rows.length) : Congruent keys rows (Minimal.groups keys rows) := by
  have named : NamedByFirst (firstEqual keys) := namedByFirst_firstEqual keys
  have length : (firstEqual keys).length = rows.length := (length_firstEqual keys).trans same
  have first : 0 ∈ leaders (firstEqual keys) := by
    obtain ⟨g, found⟩ : ∃ g, (firstEqual keys)[0]? = some g :=
      ⟨_, List.getElem?_eq_getElem (length.symm ▸ nonempty)⟩
    have zero := Nat.le_zero.mp (named.early 0 g found)
    rw [mem_leaders, found, zero]
  have enough : rows.length < count (firstEqual keys) + rows.length := by
    have positive := List.length_pos_of_mem first
    rw [count_eq]
    omega
  obtain ⟨last, size, finer, fixed⟩ := settle_spec named length enough
  refine ⟨last, size, fun i j g first second => ?_,
    fun i j g row row' first second written written' => ?_⟩
  · have inside (k : Nat) (found : (Minimal.groups keys rows)[k]? = some g) : k < keys.length := by
      rw [same, ← size]
      exact (List.getElem?_eq_some_iff.mp found).1
    have listed := List.getElem?_eq_getElem (inside i first)
    have listed' := List.getElem?_eq_getElem (inside j second)
    rw [listed, listed', eq_of_firstEqual listed listed' (finer i j g first second)]
  · have signature := getElem?_signatures first written
    have signature' := getElem?_signatures second written'
    rw [← show _ = Minimal.groups keys rows from fixed, refine_eq] at first second
    exact (List.cons.inj (eq_of_firstEqual signature signature' (first.trans second.symm))).2

section Quotient

variable {κ : Type} {keys : List κ} {rows : List (List Nat)} {groups : List Nat}
  {accepts : List IndexSet}

theorem automaton_step (state : Nat) (b : UInt8) :
    (automaton rows groups accepts).step state b =
      groupOf groups.toArray ((ScannerTable.mk 1 rows).next state b) := by
  cases written : rows[state]? with
  | none => simp [automaton, ScannerTable.next, written]
  | some row => simp [automaton, ScannerTable.next, written]

theorem automaton_accepts (state : Nat) :
    (automaton rows groups accepts).accepts state = accepts[state]?.getD ∅ := by
  simp [automaton]

theorem Congruent.groupOf_eq (c : Congruent keys rows groups) {i : Nat} (inside : i < rows.length) :
    groups[i]? = some (groupOf groups.toArray i) := by
  have found := List.getElem?_eq_getElem (c.length.symm ▸ inside : i < groups.length)
  rw [groupOf, List.getElem?_toArray, found, Option.getD_some]

/-- A group is named by a state of its own. -/
theorem Congruent.groupOf_groupOf (c : Congruent keys rows groups) {i : Nat}
    (inside : i < rows.length) : groupOf groups.toArray i < rows.length ∧
      groupOf groups.toArray (groupOf groups.toArray i) = groupOf groups.toArray i := by
  have own := c.named.own i _ (c.groupOf_eq inside)
  have bound := (List.getElem?_eq_some_iff.mp own).1
  rw [c.length] at bound
  exact ⟨bound, Option.some.inj ((c.groupOf_eq bound).symm.trans own)⟩

/-- States of one group lead to states of one group. -/
theorem Congruent.groupOf_next (c : Congruent keys rows groups)
    (complete : (ScannerTable.mk 1 rows).Complete) {i j : Nat} (inside : i < rows.length)
    (inside' : j < rows.length) (same : groupOf groups.toArray i = groupOf groups.toArray j)
    (b : UInt8) : groupOf groups.toArray ((ScannerTable.mk 1 rows).next i b) =
      groupOf groups.toArray ((ScannerTable.mk 1 rows).next j b) := by
  have written := List.getElem?_eq_getElem inside
  have written' := List.getElem?_eq_getElem inside'
  obtain ⟨k, target, _⟩ := complete.exists_target (List.getElem_mem inside) b
  obtain ⟨k', target', _⟩ := complete.exists_target (List.getElem_mem inside') b
  have rows := c.rows i j _ _ _ (c.groupOf_eq inside) (same ▸ c.groupOf_eq inside') written written'
  have entry := congrArg (fun row : List Nat => row[b.toNat]?) rows
  rw [List.getElem?_map, List.getElem?_map, target, target'] at entry
  rw [ScannerTable.next_eq written target, ScannerTable.next_eq written' target']
  exact Option.some.inj entry

/-- The automaton of groups stays in the group of the state that the table reaches. -/
theorem Congruent.run (c : Congruent keys rows groups)
    (complete : (ScannerTable.mk 1 rows).Complete) (two : 1 < rows.length) (text : List UInt8) :
    (automaton rows groups accepts).run text < rows.length ∧
      (ScannerTable.mk 1 rows).run text < rows.length ∧
      groupOf groups.toArray ((automaton rows groups accepts).run text) =
        groupOf groups.toArray ((ScannerTable.mk 1 rows).run text) := by
  induction text using List.reverseRecOn with
  | nil => exact ⟨two, two, rfl⟩
  | append_singleton front b ih =>
    obtain ⟨inside, inside', same⟩ := ih
    rw [Automaton.run_append, ScannerTable.run_append, automaton_step]
    have target := complete.next_lt inside' b
    obtain ⟨bound, idempotent⟩ := c.groupOf_groupOf (complete.next_lt inside b)
    exact ⟨bound, target, idempotent.trans (c.groupOf_next complete inside inside' same b)⟩

theorem Congruent.settlesStuck (c : Congruent keys rows groups)
    (complete : (ScannerTable.mk 1 rows).Complete) (nonempty : 0 < rows.length)
    (silent : accepts[ScannerTable.dead]? = some ∅) :
    (automaton rows groups accepts).SettlesStuck where
  absorbing state b stuck := by
    obtain rfl : state = ScannerTable.dead := eq_of_beq stuck
    have least := c.named.early _ _ (c.groupOf_eq nonempty)
    have step : (automaton rows groups accepts).step ScannerTable.dead b = ScannerTable.dead := by
      rw [automaton_step, complete.next_dead]
      exact Nat.le_zero.mp least
    rw [step]
    exact stuck
  silent state stuck := by
    obtain rfl : state = ScannerTable.dead := eq_of_beq stuck
    rw [automaton_accepts, silent, Option.getD_some]

/-- The automaton of groups accepts what the table accepts, if keys tell accept sets apart. -/
theorem Congruent.accepts_run (c : Congruent keys rows groups)
    (complete : (ScannerTable.mk 1 rows).Complete) (two : 1 < rows.length)
    (told : ∀ i j : Nat, keys[i]? = keys[j]? → accepts[i]? = accepts[j]?) (text : List UInt8) :
    (automaton rows groups accepts).accepts ((automaton rows groups accepts).run text) =
      accepts[(ScannerTable.mk 1 rows).run text]?.getD ∅ := by
  obtain ⟨inside, inside', same⟩ : (automaton rows groups accepts).run text < rows.length ∧ _ :=
    c.run complete two text
  have keys := c.keys _ _ _ (c.groupOf_eq inside) (same ▸ c.groupOf_eq inside')
  rw [automaton_accepts, told _ _ keys]

end Quotient

end ParserSplice.Minimal
