import Mathlib.Data.List.Induction
import ParserSplice.Proofs.Scanner.Search

set_option autoImplicit false

namespace ParserSplice

namespace Automaton

variable {σ : Type} (A : Automaton σ)

def run (text : List UInt8) : σ := text.foldl A.step A.start

theorem run_append (text : List UInt8) (b : UInt8) : A.run (text ++ [b]) = A.step (A.run text) b := by
  simp [run]

/-- Nothing leads out of stuck states, and nothing is accepted in them. -/
structure SettlesStuck : Prop where
  absorbing : ∀ state b, A.stuck state = true → A.stuck (A.step state b) = true
  silent : ∀ state, A.stuck state = true → A.accepts state = ∅

/-- A number stands for a state: it is the number of its place, or 0 if the state is stuck. -/
def Stands (states : Array σ) : Nat → σ → Prop
  | 0, state => A.stuck state = true
  | i + 1, state => states[i]? = some state

def RowOf (states : Array σ) (state : σ) (row : List Nat) : Prop :=
  List.Forall₂ (fun b k => A.Stands states k (A.step state b)) allBytes row

/-- States keep their places when more states are added. -/
def Keeps (before after : Array σ) : Prop :=
  ∀ (i : Nat) state, before[i]? = some state → after[i]? = some state

theorem Keeps.refl (states : Array σ) : Keeps states states := fun _ _ found => found

theorem Keeps.trans {first second third : Array σ} (kept : Keeps first second)
    (kept' : Keeps second third) : Keeps first third :=
  fun i state found => kept' i state (kept i state found)

theorem keeps_push (states : Array σ) (state : σ) : Keeps states (states.push state) := by
  intro i other found
  have inside := (Array.getElem?_eq_some_iff.mp found).1
  rw [Array.getElem?_push_lt inside]
  rw [Array.getElem?_eq_getElem inside] at found
  exact found

variable {A} in
theorem Stands.kept {before after : Array σ} (kept : Keeps before after) {k : Nat} {state : σ}
    (stands : A.Stands before k state) : A.Stands after k state := by
  cases k with
  | zero => exact stands
  | succ i => exact kept i state stands

variable {A} in
theorem RowOf.kept {before after : Array σ} (kept : Keeps before after) {state : σ}
    {row : List Nat} (written : A.RowOf before state row) : A.RowOf after state row :=
  written.imp (fun _ _ stands => stands.kept kept)

variable [BEq σ] [Hashable σ]

/-- A search whose numbers lead to the states that they were given to, and whose rows are right. -/
structure Search.Written (s : Search σ) : Prop where
  numbers : ∀ state k, s.numbers[state]? = some k → ∃ i, k = i + 1 ∧ s.states[i]? = some state
  rows : ∀ (i : Nat) row, s.rows[i]? = some row →
    ∃ state, s.states[i]? = some state ∧ A.RowOf s.states state row

/-- A numbering that stands for an automaton. -/
structure Represents (n : Numbering σ) : Prop where
  start : n.states[0]? = some A.start
  filled : n.rows.size = n.states.size
  rows : ∀ (i : Nat) row, n.rows[i]? = some row →
    ∃ state, n.states[i]? = some state ∧ A.RowOf n.states state row

variable {A} [LawfulBEq σ] [LawfulHashable σ]

/-- A visit answers with a number that stands for the state that the byte leads to. -/
theorem visit_written (origin : σ) {s : Search σ} (b : UInt8) (written : s.Written A) :
    (A.visit origin s b).2.Written A ∧ Keeps s.states (A.visit origin s b).2.states ∧
      A.Stands (A.visit origin s b).2.states (A.visit origin s b).1 (A.step origin b) := by
  rw [visit]
  split
  · next stuck => exact ⟨written, Keeps.refl _, stuck⟩
  · split
    · next k known =>
      obtain ⟨i, rfl, place⟩ := written.numbers _ k known
      exact ⟨written, Keeps.refl _, place⟩
    · have kept := keeps_push s.states (A.step origin b)
      have last : (s.states.push (A.step origin b))[s.states.size]? = some (A.step origin b) :=
        Array.getElem?_push_size
      refine ⟨⟨fun state k known => ?_, fun i row found => ?_⟩, kept, last⟩
      · rw [Std.HashMap.getElem?_insert] at known
        split at known
        · next same =>
          obtain rfl := eq_of_beq same
          cases known
          exact ⟨_, rfl, last⟩
        · obtain ⟨i, rfl, place⟩ := written.numbers state k known
          exact ⟨i, rfl, kept i state place⟩
      · obtain ⟨state, place, row⟩ := written.rows i row found
        exact ⟨state, kept i state place, row.kept kept⟩

theorem visitAll_written (origin : σ) {s : Search σ} (input : List UInt8)
    (written : s.Written A) :
    (A.visitAll origin s input).2.Written A ∧
      Keeps s.states (A.visitAll origin s input).2.states ∧
      List.Forall₂ (fun b k => A.Stands (A.visitAll origin s input).2.states k (A.step origin b))
        input (A.visitAll origin s input).1 := by
  induction input generalizing s with
  | nil => exact ⟨written, Keeps.refl _, .nil⟩
  | cons b rest ih =>
    obtain ⟨first, kept, stands⟩ := visit_written origin b written
    obtain ⟨last, kept', others⟩ := ih first
    exact ⟨last, kept.trans kept', .cons (stands.kept kept') others⟩

theorem advanced_written {s : Search σ} {state : σ} (written : s.Written A)
    (waiting : s.states[s.rows.size]? = some state) :
    (A.advanced s state).Written A ∧ Keeps s.states (A.advanced s state).states := by
  obtain ⟨last, kept, row⟩ := visitAll_written state allBytes written
  have rows := (A.visitAll_extends state s allBytes).rows
  rw [advanced]
  -- The visit of all bytes must not be unfolded, so it gets a name.
  generalize A.visitAll state s allBytes = outcome at last kept row rows
  refine ⟨⟨last.numbers, fun i added found => ?_⟩, kept⟩
  dsimp only at found ⊢
  rw [rows, Array.getElem?_push] at found
  split at found
  · next same =>
    cases found
    exact ⟨state, kept i state (same ▸ waiting), row⟩
  · exact last.rows i added (rows ▸ found)

theorem initial_written : A.initial.Written A := by
  refine ⟨fun state k known => ?_, fun i row written => ?_⟩
  · rw [initial, Std.HashMap.getElem?_insert] at known
    split at known
    · next same =>
      obtain rfl := eq_of_beq same
      cases known
      exact ⟨0, rfl, rfl⟩
    · rw [Std.HashMap.getElem?_empty] at known
      cases known
  · cases written

/-- A numbering that was found stands for its automaton. -/
theorem number_represents {limit : Nat} {n : Numbering σ} (found : A.number limit = some n) :
    A.Represents n := by
  obtain ⟨final, ⟨kept, written⟩, done, rfl⟩ := A.search_preserves
    (P := fun s => Keeps A.initial.states s.states ∧ s.Written A)
    (fun s state held waiting =>
      have later := advanced_written held.2 waiting
      ⟨held.1.trans later.2, later.1⟩)
    ⟨Keeps.refl _, initial_written⟩ found
  refine ⟨kept 0 A.start rfl, ?_, written.rows⟩
  have most := Array.getElem?_eq_none_iff.mp done
  by_contra differ
  -- A row without a state is right for no state.
  have inside : final.states.size < final.rows.size := by
    dsimp only at differ
    omega
  obtain ⟨state, place, _⟩ := written.rows _ _ (Array.getElem?_eq_getElem inside)
  exact Nat.lt_irrefl _ (Array.getElem?_eq_some_iff.mp place).1

end Automaton

namespace ScannerTable

/-- A table without gaps: every byte leads from every state to a state, and from the dead state to
the dead state. -/
structure Complete (t : ScannerTable) : Prop where
  first : t.rows[dead]? = some deadRow
  rows : ∀ row ∈ t.rows, row.length = 256
  targets : ∀ row ∈ t.rows, ∀ k ∈ row, k < t.size

theorem next_eq {t : ScannerTable} {state k : Nat} {row : List Nat} {b : UInt8}
    (written : t.rows[state]? = some row) (target : row[b.toNat]? = some k) :
    t.next state b = k := by
  rw [next, written, Option.bind_some, target, Option.getD_some]

theorem Complete.exists_target {t : ScannerTable} (complete : t.Complete) {row : List Nat}
    (listed : row ∈ t.rows) (b : UInt8) : ∃ k, row[b.toNat]? = some k ∧ k < t.size := by
  have inside : b.toNat < row.length := by
    rw [complete.rows row listed]
    exact b.toNat_lt
  exact ⟨_, List.getElem?_eq_getElem inside,
    complete.targets row listed _ (List.getElem_mem inside)⟩

theorem Complete.next_lt {t : ScannerTable} (complete : t.Complete) {state : Nat}
    (inside : state < t.size) (b : UInt8) : t.next state b < t.size := by
  obtain ⟨k, target, bound⟩ := complete.exists_target (List.getElem_mem inside) b
  rwa [next_eq (List.getElem?_eq_getElem inside) target]

theorem Complete.next_dead {t : ScannerTable} (complete : t.Complete) (b : UInt8) :
    t.next dead b = dead := by
  have inside : b.toNat < 256 := b.toNat_lt
  exact next_eq complete.first ((List.getElem?_replicate).trans (if_pos inside))

end ScannerTable

namespace Automaton

variable {σ : Type} {A : Automaton σ} {n : Numbering σ}

theorem getElem?_allBytes (b : UInt8) : allBytes[b.toNat]? = some b := by
  have inside : b.toNat < 256 := b.toNat_lt
  rw [allBytes, List.getElem?_map, List.getElem?_range inside, Option.map_some, UInt8.ofNat_toNat]

theorem Stands.le {states : Array σ} {k : Nat} {state : σ} (stands : A.Stands states k state) :
    k ≤ states.size := by
  cases k with
  | zero => exact Nat.zero_le _
  | succ i => exact (Array.getElem?_eq_some_iff.mp stands).1

theorem Represents.complete (r : A.Represents n) : (tableOf n).Complete := by
  have written (row : List Nat) (listed : row ∈ n.rows.toList) :
      ∃ state, A.RowOf n.states state row := by
    obtain ⟨i, found⟩ := List.mem_iff_getElem?.mp listed
    rw [Array.getElem?_toList] at found
    obtain ⟨state, _, row⟩ := r.rows i row found
    exact ⟨state, row⟩
  refine ⟨rfl, fun row listed => ?_, fun row listed k inside => ?_⟩
  · rcases List.mem_cons.mp listed with rfl | listed
    · exact List.length_replicate
    · obtain ⟨state, row⟩ := written row listed
      rw [← row.length_eq, allBytes, List.length_map, List.length_range]
  · rw [ScannerTable.size, tableOf, List.length_cons, Array.length_toList, r.filled]
    rcases List.mem_cons.mp listed with rfl | listed
    · rw [List.eq_of_mem_replicate inside]
      exact Nat.succ_pos _
    · obtain ⟨state, row⟩ := written row listed
      obtain ⟨i, found⟩ := List.mem_iff_getElem?.mp inside
      obtain ⟨b, _, stands⟩ := exists_result_of_getElem? row.flip i k found
      replace stands : A.Stands n.states k (A.step state b) := stands
      exact Nat.lt_succ_of_le stands.le

/-- A step of the table is a step of the automaton. -/
theorem Represents.next (settles : A.SettlesStuck) (r : A.Represents n) {k : Nat} {state : σ}
    (stands : A.Stands n.states k state) (b : UInt8) :
    A.Stands n.states ((tableOf n).next k b) (A.step state b) := by
  cases k with
  | zero =>
    rw [show (tableOf n).next 0 b = 0 from r.complete.next_dead b]
    exact settles.absorbing state b stands
  | succ i =>
    have inside : i < n.rows.size := by
      rw [r.filled]
      exact stands.le
    have found := Array.getElem?_eq_getElem inside
    obtain ⟨other, place, row⟩ := r.rows i _ found
    obtain rfl : state = other := Option.some.inj (Eq.trans (Eq.symm stands) place)
    obtain ⟨k, target, leads⟩ := exists_result_of_getElem? row b.toNat b (getElem?_allBytes b)
    have step : (tableOf n).next (i + 1) b = k := by
      refine ScannerTable.next_eq ?_ target
      rw [tableOf, List.getElem?_cons_succ, Array.getElem?_toList, found]
    rwa [step]

/-- The table reaches the number of the state that the automaton reaches. -/
theorem Represents.run (settles : A.SettlesStuck) (r : A.Represents n) (text : List UInt8) :
    A.Stands n.states ((tableOf n).run text) (A.run text) := by
  induction text using List.reverseRecOn with
  | nil => exact r.start
  | append_singleton front b ih =>
    rw [ScannerTable.run_append, run_append]
    exact r.next settles ih b

theorem getElem?_acceptsOf (settles : A.SettlesStuck) {k : Nat} {state : σ}
    (stands : A.Stands n.states k state) : (A.acceptsOf n)[k]? = some (A.accepts state) := by
  cases k with
  | zero => rw [settles.silent state stands]; rfl
  | succ i =>
    rw [acceptsOf, List.getElem?_cons_succ, List.getElem?_map, Array.getElem?_toList, stands,
      Option.map_some]

end Automaton

end ParserSplice
