import Mathlib.Data.List.Sort
import ParserSplice.Ordered.RangeSet

set_option autoImplicit false

namespace ParserSplice.RangeSet

def Covers (ranges : List (Nat × Nat)) (n : Nat) : Prop := ∃ r ∈ ranges, r.1 ≤ n ∧ n ≤ r.2

theorem contains_iff (s : RangeSet) (n : Nat) : s.contains n = true ↔ Covers s.ranges n := by
  simp [contains, Covers]

theorem not_contains_of_isEmpty {s : RangeSet} (empty : s.isEmpty = true) (n : Nat) :
    ¬ s.contains n = true := by
  rw [contains_iff, List.isEmpty_iff.mp empty]
  rintro ⟨_, listed, _⟩
  cases listed

theorem covers_cons (r : Nat × Nat) (rest : List (Nat × Nat)) (n : Nat) :
    Covers (r :: rest) n ↔ (r.1 ≤ n ∧ n ≤ r.2) ∨ Covers rest n := by
  simp [Covers]

/-- Joining keeps the members of ranges that are sorted by their first numbers. -/
theorem covers_join (ranges : List (Nat × Nat)) (sorted : ranges.Pairwise (fun a b => a.1 ≤ b.1))
    (n : Nat) : Covers (join ranges) n ↔ Covers ranges n := by
  induction ranges using join.induct with
  | case1 => rw [join]
  | case2 r => rw [join]
  | case3 r q rest touching ih =>
    rw [join, if_pos touching]
    obtain ⟨first, later⟩ := List.pairwise_cons.mp sorted
    obtain ⟨_, last⟩ := List.pairwise_cons.mp later
    have order := first q List.mem_cons_self
    rw [ih (List.pairwise_cons.mpr ⟨fun p listed => first p (List.mem_cons_of_mem _ listed), last⟩)]
    simp only [covers_cons]
    -- The second range starts at the latest right behind the first, so no gap is filled.
    have hull : (r.1 ≤ n ∧ n ≤ max r.2 q.2) ↔ (r.1 ≤ n ∧ n ≤ r.2) ∨ (q.1 ≤ n ∧ n ≤ q.2) := by
      omega
    rw [hull, or_assoc]
  | case4 r q rest apart ih =>
    rw [join, if_neg apart, covers_cons, ih (List.pairwise_cons.mp sorted).2, ← covers_cons]

theorem contains_ofRanges (ranges : List (Nat × Nat)) (n : Nat) :
    (ofRanges ranges).contains n = true ↔ Covers ranges n := by
  rw [contains_iff, ofRanges, covers_join]
  · simp only [Covers, List.mem_mergeSort, List.mem_filter, decide_eq_true_eq]
    constructor
    · rintro ⟨r, ⟨listed, _⟩, within⟩
      exact ⟨r, listed, within⟩
    · rintro ⟨r, listed, within⟩
      exact ⟨r, ⟨listed, Nat.le_trans within.1 within.2⟩, within⟩
  · have sorted : ((ranges.filter (fun r => decide (r.1 ≤ r.2))).mergeSort
        (fun a b => decide (a.1 ≤ b.1))).Pairwise (fun a b => decide (a.1 ≤ b.1) = true) := by
      apply List.pairwise_mergeSort
      · intro a b c first second
        simp only [decide_eq_true_eq] at *
        omega
      · intro a b
        simp only [Bool.or_eq_true, decide_eq_true_eq]
        omega
    exact sorted.imp (fun order => by simpa using order)

theorem contains_interval (first last n : Nat) :
    (interval first last).contains n = true ↔ first ≤ n ∧ n ≤ last := by
  simp [interval, contains_ofRanges, Covers]

theorem contains_inter (s t : RangeSet) (n : Nat) :
    (s.inter t).contains n = true ↔ s.contains n = true ∧ t.contains n = true := by
  rw [inter, contains_ofRanges, contains_iff, contains_iff]
  simp only [Covers, List.mem_flatMap, List.mem_map]
  constructor
  · rintro ⟨_, ⟨r, inside, q, inside', rfl⟩, within⟩
    simp only [overlap] at within
    exact ⟨⟨r, inside, by omega⟩, q, inside', by omega⟩
  · rintro ⟨⟨r, inside, within⟩, q, inside', within'⟩
    refine ⟨_, ⟨r, inside, q, inside', rfl⟩, ?_⟩
    simp only [overlap]
    omega

theorem contains_window (s : RangeSet) (start size n : Nat) (some : 0 < size) :
    (s.window start size).contains n = true ↔ n < size ∧ s.contains (start + n) = true := by
  simp only [contains_iff, Covers, window, List.mem_filterMap, Option.ite_none_right_eq_some,
    Option.some.injEq]
  constructor
  · rintro ⟨_, ⟨r, inside, order, rfl⟩, within⟩
    dsimp only at within
    exact ⟨by omega, r, inside, by omega⟩
  · rintro ⟨below, r, inside, within⟩
    refine ⟨_, ⟨r, inside, ?_, rfl⟩, ?_⟩
    · omega
    · dsimp only
      omega

end ParserSplice.RangeSet
