import ParserSplice.Proofs.RangeSet
import ParserSplice.Proofs.Regex.Utf8
import ParserSplice.Regex.Term

set_option autoImplicit false

namespace ParserSplice.Regex

namespace Side

def behind (before : Side) : List UInt8 → Side
  | [] => before
  | b :: rest => behind (ofByte b) rest

def ahead (text : List UInt8) (after : Side) : Side :=
  match text with
  | [] => after
  | b :: _ => ofByte b

@[simp] theorem behind_nil (before : Side) : behind before [] = before := rfl

@[simp] theorem behind_cons (before : Side) (b : UInt8) (rest : List UInt8) :
    behind before (b :: rest) = behind (ofByte b) rest := rfl

theorem behind_append (before : Side) (u v : List UInt8) :
    behind before (u ++ v) = behind (behind before u) v := by
  induction u generalizing before with
  | nil => rfl
  | cons b rest ih => exact ih _

@[simp] theorem ahead_nil (after : Side) : ahead [] after = after := rfl

@[simp] theorem ahead_cons (b : UInt8) (rest : List UInt8) (after : Side) :
    ahead (b :: rest) after = ofByte b := rfl

end Side

open Side

/-- Texts that are matched piece by piece. -/
inductive Repeated (piece : Side → List UInt8 → Side → Prop) : Side → List UInt8 → Side → Prop
  | nil (before after : Side) : Repeated piece before [] after
  | cons {before after : Side} {u v : List UInt8} (first : piece before u (ahead v after))
      (rest : Repeated piece (behind before u) v after) : Repeated piece before (u ++ v) after

namespace Term

/-- A text between two sides is matched by an expression. -/
def Matches : Term → Side → List UInt8 → Side → Prop
  | never, _, _, _ => False
  | empty, _, text, _ => text = []
  | byte set, _, text, _ => ∃ b, text = [b] ∧ set.contains b.toNat = true
  | scalar set, _, text, _ => ∃ n ≤ 0x10FFFF, set.contains n = true ∧ utf8 n = text
  | tail count set, _, text, _ =>
    0 < count ∧ ∃ n < 0x40 ^ count, set.contains n = true ∧ trail count n = text
  | look condition, before, text, after => text = [] ∧ condition.holds before after = true
  | cat first second, before, text, after => ∃ u v, text = u ++ v ∧
    first.Matches before u (ahead v after) ∧ second.Matches (behind before u) v after
  | alt left right, before, text, after =>
    left.Matches before text after ∨ right.Matches before text after
  | star body, before, text, after => Repeated body.Matches before text after

theorem matches_tailOf_iff {count : Nat} {set : RangeSet} {before after : Side}
    {text : List UInt8} : (∃ r ∈ tailOf count set, r.Matches before text after) ↔
      (tail count set).Matches before text after := by
  unfold tailOf
  split
  · next empty =>
    simp [Matches, RangeSet.not_contains_of_isEmpty empty]
  · simp

/-- The bytes behind one that fixes the high bits of a number. -/
theorem matches_tail_window_iff {count size : Nat} (some : 0 < count) (bits : size = 0x40 ^ count)
    (set : RangeSet) (high : Nat) {before after : Side} {text : List UInt8} :
    (tail count (set.window (high * size) size)).Matches before text after ↔
      ∃ n, set.contains n = true ∧ n / size = high ∧ trail count n = text := by
  have positive : 0 < size := bits ▸ Nat.pow_pos (by decide)
  simp only [Matches, RangeSet.contains_window _ _ _ _ positive, ← bits]
  constructor
  · rintro ⟨_, low, below, ⟨_, inside⟩, rfl⟩
    refine ⟨high * size + low, inside, ?_, ?_⟩
    · rw [Nat.add_comm, Nat.add_mul_div_right _ _ positive, Nat.div_eq_of_lt below, Nat.zero_add]
    · rw [Nat.add_comm, Nat.mul_comm high, bits, trail_add]
  · rintro ⟨n, inside, rfl, rfl⟩
    have low := Nat.mod_lt n positive
    have parts : n / size * size + n % size = n := Nat.div_add_mod' _ _
    refine ⟨some, n % size, low, ⟨low, by rwa [parts]⟩, ?_⟩
    calc trail count (n % size)
      _ = trail count (n % size + 0x40 ^ count * (n / size)) := (trail_add count _ _).symm
      _ = trail count n := by rw [← bits, Nat.mod_add_div]

theorem matches_tail_iff {count : Nat} {set : RangeSet} {before after side : Side} {b : UInt8}
    {text : List UInt8} : (tail count set).Matches before (b :: text) after ↔
      ∃ r ∈ tailStep b.toNat count set, r.Matches side text after := by
  unfold tailStep
  cases count with
  | zero => simp [Matches]
  | succ count =>
    have read : (tail (count + 1) set).Matches before (b :: text) after ↔
        (0x80 ≤ b.toNat ∧ b.toNat < 0xC0) ∧ ∃ n, set.contains n = true ∧
          n / 0x40 ^ count = b.toNat - 0x80 ∧ trail count n = text := by
      constructor
      · rintro ⟨_, n, small, inside, written⟩
        obtain ⟨bounds, high, rest⟩ := (trail_eq_cons_iff count n b text).mp ⟨small, written⟩
        exact ⟨bounds, n, inside, high, rest⟩
      · rintro ⟨bounds, n, inside, high, rest⟩
        obtain ⟨small, written⟩ := (trail_eq_cons_iff count n b text).mpr ⟨bounds, high, rest⟩
        exact ⟨Nat.succ_pos count, n, small, inside, written⟩
    rw [read]
    split
    · next outside =>
      simp only [Bool.or_eq_true, decide_eq_true_eq] at outside
      simp only [List.not_mem_nil, false_and, exists_false, iff_false]
      rintro ⟨_, _⟩
      omega
    · next inside =>
      simp only [Bool.or_eq_true, decide_eq_true_eq] at inside
      rw [and_iff_right (by omega)]
      cases count with
      | zero =>
        simp only [Nat.pow_zero, Nat.div_one, trail]
        have last : (∃ n, set.contains n = true ∧ n = b.toNat - 0x80 ∧ [] = text) ↔
            set.contains (b.toNat - 0x80) = true ∧ text = [] := by
          constructor
          · rintro ⟨n, inside, high, rest⟩
            exact ⟨high ▸ inside, rest.symm⟩
          · rintro ⟨inside, rest⟩
            exact ⟨_, inside, rfl, rest.symm⟩
        rw [last]
        by_cases member : set.contains (b.toNat - 0x80) = true
        · simp [member, Matches]
        · simp [member]
      | succ count =>
        exact (matches_tailOf_iff.trans
          (matches_tail_window_iff (Nat.succ_pos count) rfl set _)).symm

/-- The forms of the members of a set that start with a byte, by the length that the byte tells. -/
theorem scalar_matches_cons_iff {set : RangeSet} {before after : Side} {b : UInt8}
    {text : List UInt8} : (scalar set).Matches before (b :: text) after ↔
      (b.toNat < 0x80 ∧ set.contains b.toNat = true ∧ text = []) ∨
      ((0xC2 ≤ b.toNat ∧ b.toNat < 0xE0) ∧ ∃ n, set.contains n = true ∧
        n / 0x40 = b.toNat - 0xC0 ∧ trail 1 n = text) ∨
      ((0xE0 ≤ b.toNat ∧ b.toNat < 0xF0) ∧ ∃ n, (set.contains n = true ∧ 0x800 ≤ n ∧ n ≤ 0xFFFF) ∧
        n / 0x1000 = b.toNat - 0xE0 ∧ trail 2 n = text) ∨
      ((0xF0 ≤ b.toNat ∧ b.toNat < 0xF5) ∧
        ∃ n, (set.contains n = true ∧ 0x10000 ≤ n ∧ n ≤ 0x10FFFF) ∧
          n / 0x40000 = b.toNat - 0xF0 ∧ trail 3 n = text) := by
  constructor
  · rintro ⟨n, last, inside, written⟩
    rcases (utf8_eq_cons_iff last b text).mp written with ⟨single, rfl, rfl⟩ | ⟨lead, high, rest⟩ |
      ⟨lead, least, high, rest⟩ | ⟨lead, least, high, rest⟩
    · exact Or.inl ⟨single, inside, rfl⟩
    · exact Or.inr (Or.inl ⟨lead, n, inside, high, rest⟩)
    · exact Or.inr (Or.inr (Or.inl ⟨lead, n, ⟨inside, least, by omega⟩, high, rest⟩))
    · exact Or.inr (Or.inr (Or.inr ⟨lead, n, ⟨inside, least, last⟩, high, rest⟩))
  · rintro (⟨single, inside, rfl⟩ | ⟨lead, n, inside, high, rest⟩ |
      ⟨lead, n, ⟨inside, least, most⟩, high, rest⟩ | ⟨lead, n, ⟨inside, least, last⟩, high, rest⟩)
    · have last : b.toNat ≤ 0x10FFFF := by omega
      exact ⟨_, last, inside, (utf8_eq_cons_iff last b []).mpr (Or.inl ⟨single, rfl, rfl⟩)⟩
    · have last : n ≤ 0x10FFFF := by omega
      exact ⟨n, last, inside, (utf8_eq_cons_iff last b text).mpr (Or.inr (Or.inl ⟨lead, high, rest⟩))⟩
    · have last : n ≤ 0x10FFFF := by omega
      exact ⟨n, last, inside, (utf8_eq_cons_iff last b text).mpr
        (Or.inr (Or.inr (Or.inl ⟨lead, least, high, rest⟩)))⟩
    · exact ⟨n, last, inside, (utf8_eq_cons_iff last b text).mpr
        (Or.inr (Or.inr (Or.inr ⟨lead, least, high, rest⟩)))⟩

theorem matches_scalar_iff {set : RangeSet} {before after side : Side} {b : UInt8}
    {text : List UInt8} : (scalar set).Matches before (b :: text) after ↔
      ∃ r ∈ scalarStep b.toNat set, r.Matches side text after := by
  have one : 0x40 = 0x40 ^ 1 := rfl
  have two : 0x1000 = 0x40 ^ 2 := rfl
  have three : 0x40000 = 0x40 ^ 3 := rfl
  rw [scalar_matches_cons_iff]
  -- Each class of first bytes leaves one of the four lengths, or none.
  unfold scalarStep
  split
  · next single =>
    rw [or_iff_left (by omega), and_iff_right single]
    by_cases member : set.contains b.toNat = true
    · simp [member, Matches]
    · simp [member]
  · next several =>
    rw [or_iff_right (fun single => several single.1)]
    split
    · next trailing =>
      simp only [List.not_mem_nil, false_and, exists_false, iff_false]
      omega
    · split
      · rw [or_iff_left (by omega), and_iff_right (by omega), matches_tailOf_iff,
          matches_tail_window_iff (by decide) one]
      · rw [or_iff_right (by omega)]
        split
        · rw [or_iff_left (by omega), and_iff_right (by omega), matches_tailOf_iff,
            matches_tail_window_iff (by decide) two]
          simp only [RangeSet.contains_inter, RangeSet.contains_interval]
        · rw [or_iff_right (by omega)]
          split
          · rw [and_iff_right (by omega), matches_tailOf_iff,
              matches_tail_window_iff (by decide) three]
            simp only [RangeSet.contains_inter, RangeSet.contains_interval]
          · simp only [List.not_mem_nil, false_and, exists_false, iff_false]
            omega

theorem matches_append_iff (first second : Term) {before after : Side} {text : List UInt8} :
    (first.append second).Matches before text after ↔
      (cat first second).Matches before text after := by
  unfold append
  split
  · simp only [Matches]
    constructor
    · intro rest
      exact ⟨[], text, rfl, rfl, rest⟩
    · rintro ⟨u, v, rfl, rfl, rest⟩
      exact rest
  · rfl

/-- An expression matches nothing at a position exactly if it is nullable there. -/
theorem matches_nil_iff (t : Term) {before after : Side} :
    t.Matches before [] after ↔ t.nullable before after = true := by
  induction t generalizing before after with
  | never => simp [Matches, nullable]
  | empty => simp [Matches, nullable]
  | byte set => simp [Matches, nullable]
  | scalar set => simp [Matches, nullable, utf8_ne_nil]
  | tail count set =>
    simp only [Matches, nullable, Bool.false_eq_true, iff_false]
    rintro ⟨some, n, _, _, written⟩
    exact trail_ne_nil some n written
  | look condition => simp [Matches, nullable]
  | cat first second first_ih second_ih =>
    simp only [Matches, nullable, Bool.and_eq_true]
    constructor
    · rintro ⟨u, v, parts, whole⟩
      obtain ⟨rfl, rfl⟩ := List.append_eq_nil_iff.mp parts.symm
      exact ⟨first_ih.mp whole.1, second_ih.mp whole.2⟩
    · rintro ⟨left, right⟩
      exact ⟨[], [], rfl, first_ih.mpr left, second_ih.mpr right⟩
  | alt left right left_ih right_ih => simp [Matches, nullable, left_ih, right_ih]
  | star body _ => exact iff_of_true (.nil before after) rfl

/-- A repetition that matches something starts with a piece that does: pieces without a byte change
nothing. -/
theorem repeated_cons_iff {piece : Side → List UInt8 → Side → Prop} {before after : Side}
    {b : UInt8} {text : List UInt8} : Repeated piece before (b :: text) after ↔
      ∃ u v, text = u ++ v ∧ piece before (b :: u) (ahead v after) ∧
        Repeated piece (behind (ofByte b) u) v after := by
  constructor
  · intro given
    generalize whole : b :: text = input at given
    induction given with
    | nil => cases whole
    | @cons before after u v first rest ih =>
      cases u with
      | nil => exact ih whole
      | cons c u =>
        cases whole
        exact ⟨u, v, rfl, first, rest⟩
  · rintro ⟨u, v, rfl, first, rest⟩
    exact .cons first rest

/-- An expression matches a text exactly if one of its steps over the first byte matches the rest. -/
theorem matches_cons_iff (t : Term) {before after : Side} {b : UInt8} {text : List UInt8} :
    t.Matches before (b :: text) after ↔
      ∃ r ∈ t.step before b, r.Matches (ofByte b) text after := by
  induction t generalizing before after text with
  | never => simp [Matches, step]
  | empty => simp [Matches, step]
  | byte set =>
    by_cases inside : set.contains b.toNat = true
    · simp [Matches, step, inside]
    · simp [Matches, step, inside]
  | scalar set => exact matches_scalar_iff
  | tail count set => exact matches_tail_iff
  | look condition => simp [Matches, step]
  | cat first second first_ih second_ih =>
    simp only [step, List.mem_append, List.mem_map, or_and_right, exists_or]
    constructor
    · rintro ⟨u, v, whole, left, right⟩
      cases u with
      | nil =>
        -- The first part is empty, so the second part reads the byte.
        obtain rfl : b :: text = v := whole
        have skipped := first.matches_nil_iff.mp left
        obtain ⟨r, stepped, rest⟩ := second_ih.mp right
        refine Or.inr ⟨r, ?_, rest⟩
        rwa [if_pos (show first.nullable before (ofByte b) = true from skipped)]
      | cons c u =>
        cases whole
        obtain ⟨r, stepped, rest⟩ := first_ih.mp left
        exact Or.inl ⟨_, ⟨r, stepped, rfl⟩,
          (matches_append_iff r second).mpr ⟨u, v, rfl, rest, right⟩⟩
    · rintro (⟨_, ⟨r, stepped, rfl⟩, rest⟩ | ⟨r, stepped, rest⟩)
      · obtain ⟨u, v, rfl, left, right⟩ := (matches_append_iff r second).mp rest
        exact ⟨b :: u, v, rfl, first_ih.mpr ⟨r, stepped, left⟩, right⟩
      · split at stepped
        · next skipped =>
          exact ⟨[], b :: text, rfl, first.matches_nil_iff.mpr skipped,
            second_ih.mpr ⟨r, stepped, rest⟩⟩
        · cases stepped
  | alt left right left_ih right_ih =>
    simp only [Matches, step, left_ih, right_ih, List.mem_append, or_and_right, exists_or]
  | star body ih =>
    simp only [step, List.mem_map]
    constructor
    · intro given
      obtain ⟨u, v, rfl, first, rest⟩ := repeated_cons_iff.mp given
      obtain ⟨r, stepped, remaining⟩ := ih.mp first
      exact ⟨_, ⟨r, stepped, rfl⟩,
        (matches_append_iff r (star body)).mpr ⟨u, v, rfl, remaining, rest⟩⟩
    · rintro ⟨_, ⟨r, stepped, rfl⟩, rest⟩
      obtain ⟨u, v, rfl, left, right⟩ := (matches_append_iff r (star body)).mp rest
      exact repeated_cons_iff.mpr ⟨u, v, rfl, ih.mpr ⟨r, stepped, left⟩, right⟩

theorem hasLook_append (first second : Term) :
    (first.append second).hasLook = (first.hasLook || second.hasLook) := by
  unfold append
  split <;> rfl

/-- An expression without conditions does not depend on the sides of a position. -/
theorem nullable_eq_of_plain {t : Term} (plain : t.hasLook = false)
    (before after before' after' : Side) :
    t.nullable before after = t.nullable before' after' := by
  induction t with
  | look condition => cases plain
  | cat first second first_ih second_ih =>
    obtain ⟨left, right⟩ := Bool.or_eq_false_iff.mp plain
    rw [nullable, nullable, first_ih left, second_ih right]
  | alt left right left_ih right_ih =>
    obtain ⟨first, second⟩ := Bool.or_eq_false_iff.mp plain
    rw [nullable, nullable, left_ih first, right_ih second]
  | never | empty | byte set | scalar set | tail count set | star body _ => rfl

theorem step_eq_of_plain {t : Term} (plain : t.hasLook = false) (before before' : Side)
    (b : UInt8) : t.step before b = t.step before' b := by
  induction t with
  | look condition => cases plain
  | cat first second first_ih second_ih =>
    obtain ⟨left, right⟩ := Bool.or_eq_false_iff.mp plain
    rw [step, step, first_ih left, second_ih right,
      nullable_eq_of_plain left before (ofByte b) before' (ofByte b)]
  | alt left right left_ih right_ih =>
    obtain ⟨first, second⟩ := Bool.or_eq_false_iff.mp plain
    rw [step, step, left_ih first, right_ih second]
  | star body ih => rw [step, step, ih plain]
  | never | empty | byte set | scalar set | tail count set => rfl

theorem plain_of_mem_tailOf {count : Nat} {set : RangeSet} {r : Term}
    (inside : r ∈ tailOf count set) : r.hasLook = false := by
  unfold tailOf at inside
  split at inside
  · cases inside
  · rw [List.mem_singleton.mp inside]
    rfl

theorem plain_of_mem_tailStep {b count : Nat} {set : RangeSet} {r : Term}
    (inside : r ∈ tailStep b count set) : r.hasLook = false := by
  unfold tailStep at inside
  split at inside
  · cases inside
  · split at inside
    · cases inside
    · split at inside
      · rw [List.mem_singleton.mp inside]
        rfl
      · cases inside
    · exact plain_of_mem_tailOf inside

theorem plain_of_mem_scalarStep {b : Nat} {set : RangeSet} {r : Term}
    (inside : r ∈ scalarStep b set) : r.hasLook = false := by
  unfold scalarStep at inside
  split at inside
  · split at inside
    · rw [List.mem_singleton.mp inside]
      rfl
    · cases inside
  · split at inside
    · cases inside
    · split at inside
      · exact plain_of_mem_tailOf inside
      · split at inside
        · exact plain_of_mem_tailOf inside
        · split at inside
          · exact plain_of_mem_tailOf inside
          · cases inside

theorem plain_of_mem_step {t : Term} (plain : t.hasLook = false) {before : Side} {b : UInt8}
    {r : Term} (stepped : r ∈ t.step before b) : r.hasLook = false := by
  induction t generalizing r with
  | never | empty => cases stepped
  | look condition => cases plain
  | byte set =>
    rw [step] at stepped
    split at stepped
    · rw [List.mem_singleton.mp stepped]
      rfl
    · cases stepped
  | scalar set => exact plain_of_mem_scalarStep stepped
  | tail count set => exact plain_of_mem_tailStep stepped
  | cat first second first_ih second_ih =>
    obtain ⟨left, right⟩ := Bool.or_eq_false_iff.mp plain
    rcases List.mem_append.mp stepped with early | late
    · obtain ⟨rest, own, rfl⟩ := List.mem_map.mp early
      rw [hasLook_append, first_ih left own, right]
      rfl
    · split at late
      · exact second_ih right late
      · cases late
  | alt left right left_ih right_ih =>
    obtain ⟨first, second⟩ := Bool.or_eq_false_iff.mp plain
    rcases List.mem_append.mp stepped with own | own
    · exact left_ih first own
    · exact right_ih second own
  | star body ih =>
    obtain ⟨rest, own, rfl⟩ := List.mem_map.mp stepped
    rw [hasLook_append, ih plain own]
    exact plain

end Term

end ParserSplice.Regex
