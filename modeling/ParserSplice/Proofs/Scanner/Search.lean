import Mathlib.Data.List.Perm.Subperm
import ParserSplice.Proofs.Traversal
import ParserSplice.Scanner.Minimal

set_option autoImplicit false

namespace ParserSplice

namespace Automaton

variable {σ : Type} (A : Automaton σ)

/-- States that no byte leads out of, except into stuck states. -/
def Closed (known : List σ) : Prop :=
  ∀ state ∈ known, ∀ b ∈ allBytes, A.stuck (A.step state b) = true ∨ A.step state b ∈ known

instance [DecidableEq σ] (known : List σ) : Decidable (A.Closed known) :=
  inferInstanceAs (Decidable (∀ state ∈ known, ∀ b ∈ allBytes, _))

variable [BEq σ] [Hashable σ]

/-- A search that has numbered each of its states once, all of them known ones. -/
structure Search.Sound (known : List σ) (s : Search σ) : Prop where
  numbered : ∀ state, state ∈ s.numbers ↔ state ∈ s.states.toList
  distinct : s.states.toList.Nodup
  inside : ∀ state ∈ s.states.toList, state ∈ known

/-- A later search has the same rows, and at least the states that there were before. -/
structure Search.Extends (next s : Search σ) : Prop where
  rows : next.rows = s.rows
  states : s.states.size ≤ next.states.size

theorem visit_extends (origin : σ) (s : Search σ) (b : UInt8) :
    (A.visit origin s b).2.Extends s := by
  rw [visit]
  split
  · exact ⟨rfl, Nat.le_refl _⟩
  · split
    · exact ⟨rfl, Nat.le_refl _⟩
    · exact ⟨rfl, by rw [Array.size_push]; exact Nat.le_succ _⟩

theorem visitAll_extends (origin : σ) (s : Search σ) (input : List UInt8) :
    (A.visitAll origin s input).2.Extends s := by
  induction input generalizing s with
  | nil => exact ⟨rfl, Nat.le_refl _⟩
  | cons b rest ih =>
    have first := A.visit_extends origin s b
    have later := ih (A.visit origin s b).2
    exact ⟨later.rows.trans first.rows, Nat.le_trans first.states later.states⟩

def initial : Search σ := ⟨(∅ : Std.HashMap σ Nat).insert A.start 1, #[A.start], #[]⟩

theorem search_of_done {s : Search σ} (done : s.states[s.rows.size]? = none) (limit : Nat) :
    A.search limit s = some ⟨s.states, s.rows⟩ := by
  unfold search
  rw [done]

def advanced (s : Search σ) (state : σ) : Search σ :=
  { (A.visitAll state s allBytes).2 with
    rows := (A.visitAll state s allBytes).2.rows.push (A.visitAll state s allBytes).1 }

theorem search_of_waiting {s : Search σ} {state : σ}
    (waiting : s.states[s.rows.size]? = some state) (limit : Nat) :
    A.search (limit + 1) s = A.search limit (A.advanced s state) := by
  conv_lhs => unfold search
  rw [waiting, advanced]

theorem search_zero_of_waiting {s : Search σ} {state : σ}
    (waiting : s.states[s.rows.size]? = some state) : A.search 0 s = none := by
  unfold search
  rw [waiting]

theorem size_rows_advanced (s : Search σ) (state : σ) :
    (A.advanced s state).rows.size = s.rows.size + 1 := by
  simp only [advanced, Array.size_push, (A.visitAll_extends state s allBytes).rows]

/-- What holds of a search at first, and is kept when a row is added, holds when no state waits for a
row any more. -/
theorem search_preserves {P : Search σ → Prop}
    (step : ∀ s state, P s → s.states[s.rows.size]? = some state → P (A.advanced s state))
    {limit : Nat} {s : Search σ} {n : Numbering σ} (start : P s)
    (found : A.search limit s = some n) :
    ∃ final : Search σ, P final ∧ final.states[final.rows.size]? = none ∧
      n = ⟨final.states, final.rows⟩ := by
  induction limit generalizing s with
  | zero =>
    cases waiting : s.states[s.rows.size]? with
    | none =>
      rw [A.search_of_done waiting] at found
      cases found
      exact ⟨s, start, waiting, rfl⟩
    | some state =>
      rw [A.search_zero_of_waiting waiting] at found
      cases found
  | succ limit ih =>
    cases waiting : s.states[s.rows.size]? with
    | none =>
      rw [A.search_of_done waiting] at found
      cases found
      exact ⟨s, start, waiting, rfl⟩
    | some state =>
      rw [A.search_of_waiting waiting] at found
      exact ih (step s state start waiting) found

/-- More rounds than needed make no difference. -/
theorem search_mono {limit : Nat} {s : Search σ} {n : Numbering σ}
    (found : A.search limit s = some n) (more : Nat) : A.search (limit + more) s = some n := by
  induction limit generalizing s with
  | zero =>
    cases waiting : s.states[s.rows.size]? with
    | none =>
      rw [A.search_of_done waiting] at found ⊢
      exact found
    | some state =>
      rw [A.search_zero_of_waiting waiting] at found
      cases found
  | succ limit ih =>
    cases waiting : s.states[s.rows.size]? with
    | none =>
      rw [A.search_of_done waiting] at found ⊢
      exact found
    | some state =>
      rw [A.search_of_waiting waiting] at found
      rw [Nat.add_right_comm, A.search_of_waiting waiting]
      exact ih found

variable {known : List σ} [LawfulBEq σ] [LawfulHashable σ]

omit [LawfulBEq σ] [LawfulHashable σ] in
theorem Search.Sound.size_le {s : Search σ} (sound : s.Sound known) :
    s.states.size ≤ known.length :=
  (List.subperm_of_subset sound.distinct sound.inside).length_le

theorem visit_sound {origin : σ} {s : Search σ} {b : UInt8} (sound : s.Sound known)
    (stays : A.stuck (A.step origin b) = true ∨ A.step origin b ∈ known) :
    (A.visit origin s b).2.Sound known := by
  rw [visit]
  split
  · exact sound
  · next free =>
    have target : A.step origin b ∈ known := stays.resolve_left free
    split
    · exact sound
    · next unseen =>
      have fresh : A.step origin b ∉ s.states.toList := by
        rw [← sound.numbered]
        intro numbered
        rw [Std.HashMap.getElem?_eq_some_getElem numbered] at unseen
        cases unseen
      refine ⟨fun state => ?_, ?_, fun state listed => ?_⟩
      · rw [Std.HashMap.mem_insert, beq_iff_eq, sound.numbered, Array.toList_push,
          List.mem_append, List.mem_singleton, or_comm, eq_comm]
      · rw [Array.toList_push, List.nodup_append]
        refine ⟨sound.distinct, List.pairwise_singleton _ _, fun old before new listed same => fresh ?_⟩
        rw [← List.mem_singleton.mp listed, ← same]
        exact before
      · rw [Array.toList_push, List.mem_append, List.mem_singleton] at listed
        rcases listed with before | rfl
        · exact sound.inside state before
        · exact target

theorem visitAll_sound {origin : σ} {s : Search σ} {input : List UInt8} (sound : s.Sound known)
    (stays : ∀ b ∈ input, A.stuck (A.step origin b) = true ∨ A.step origin b ∈ known) :
    (A.visitAll origin s input).2.Sound known := by
  induction input generalizing s with
  | nil => exact sound
  | cons b rest ih =>
    obtain ⟨first, others⟩ := List.forall_mem_cons.mp stays
    exact ih (A.visit_sound sound first) others

theorem advanced_sound {s : Search σ} {state : σ} (sound : s.Sound known)
    (stays : ∀ b ∈ allBytes, A.stuck (A.step state b) = true ∨ A.step state b ∈ known) :
    (A.advanced s state).Sound known := by
  have visited := A.visitAll_sound sound stays
  rw [advanced]
  -- The visit of all bytes must not be unfolded, so it gets a name.
  generalize A.visitAll state s allBytes = outcome at visited
  exact ⟨visited.numbered, visited.distinct, visited.inside⟩

/-- A search among known states ends within as many rounds as there are states without a row. -/
theorem exists_search (closed : A.Closed known) {limit : Nat} {s : Search σ}
    (sound : s.Sound known) (enough : known.length ≤ limit + s.rows.size) :
    ∃ n, A.search limit s = some n := by
  induction limit generalizing s with
  | zero =>
    have small := sound.size_le
    have done : s.states[s.rows.size]? = none := Array.getElem?_eq_none_iff.mpr (by omega)
    exact ⟨_, A.search_of_done done 0⟩
  | succ limit ih =>
    cases waiting : s.states[s.rows.size]? with
    | none => exact ⟨_, A.search_of_done waiting _⟩
    | some state =>
      have listed : state ∈ s.states.toList :=
        Array.mem_toList_iff.mpr (Array.mem_of_getElem? waiting)
      rw [A.search_of_waiting waiting]
      apply ih (A.advanced_sound sound (closed state (sound.inside state listed)))
      rw [A.size_rows_advanced]
      omega

theorem initial_sound (start : A.start ∈ known) : A.initial.Sound known := by
  refine ⟨fun state => ?_, List.pairwise_singleton _ _, fun state listed => ?_⟩
  · rw [initial, Std.HashMap.mem_insert, beq_iff_eq, List.mem_singleton, eq_comm]
    exact or_iff_left (Std.HashMap.not_mem_empty)
  · rw [List.mem_singleton.mp listed]
    exact start

/-- An automaton can be numbered if its start is among few enough states that no byte leads out of. -/
theorem exists_number (closed : A.Closed known) (start : A.start ∈ known) {limit : Nat}
    (enough : known.length ≤ limit) : ∃ n, A.number limit = some n :=
  A.exists_search closed (A.initial_sound start) (Nat.le_trans enough (Nat.le_add_right _ _))

end Automaton

namespace Minimal

section FirstEqual

variable {κ : Type} [BEq κ] [Hashable κ] [LawfulBEq κ] [LawfulHashable κ]

theorem go_eq (seen rest : List κ) (places : Std.HashMap κ Nat)
    (known : ∀ item ∈ seen, places[item]? = some (seen.idxOf item))
    (unknown : ∀ item, item ∉ seen → places[item]? = none) :
    firstEqual.go places seen.length rest = rest.map (fun item => (seen ++ rest).idxOf item) := by
  induction rest generalizing seen places with
  | nil => rfl
  | cons item rest ih =>
    have shifted : seen ++ item :: rest = (seen ++ [item]) ++ rest := by
      rw [List.append_assoc, List.singleton_append]
    have length : (seen ++ [item]).length = seen.length + 1 := List.length_append
    rw [firstEqual.go, List.map_cons]
    by_cases earlier : item ∈ seen
    · rw [known item earlier]
      dsimp only
      rw [List.idxOf_append_of_mem earlier, shifted, ← length, ih]
      · intro other listed
        rcases List.mem_append.mp listed with old | new
        · rw [known other old, List.idxOf_append_of_mem old]
        · obtain rfl := List.mem_singleton.mp new
          rw [known other earlier, List.idxOf_append_of_mem earlier]
      · intro other missing
        exact unknown other (fun old => missing (List.mem_append_left _ old))
    · rw [unknown item earlier]
      dsimp only
      have first : (seen ++ [item]).idxOf item = seen.length := by
        rw [List.idxOf_append_of_notMem earlier, List.idxOf_cons_self, Nat.add_zero]
      have place : (seen ++ item :: rest).idxOf item = seen.length := by
        rw [List.idxOf_append_of_notMem earlier, List.idxOf_cons_self, Nat.add_zero]
      rw [place, shifted, ← length, ih]
      · intro other listed
        rw [Std.HashMap.getElem?_insert]
        split
        · next same =>
          obtain rfl := eq_of_beq same
          rw [first]
        · next differ =>
          rcases List.mem_append.mp listed with old | new
          · rw [known other old, List.idxOf_append_of_mem old]
          · rw [List.mem_singleton.mp new] at differ
            exact absurd (beq_self_eq_true item) differ
      · intro other missing
        rw [Std.HashMap.getElem?_insert]
        split
        · next same =>
          obtain rfl := eq_of_beq same
          exact absurd (List.mem_append_right _ List.mem_cons_self) missing
        · exact unknown other (fun old => missing (List.mem_append_left _ old))

/-- Items are named by the first place where they stand. -/
theorem firstEqual_eq (items : List κ) :
    firstEqual items = items.map (fun item => items.idxOf item) :=
  go_eq [] items ∅ (fun _ listed => absurd listed List.not_mem_nil)
    (fun _ _ => Std.HashMap.getElem?_empty)

end FirstEqual

end Minimal

end ParserSplice
