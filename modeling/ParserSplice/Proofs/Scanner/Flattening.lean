import Mathlib.Data.Fintype.Card
import Mathlib.Data.Set.Card
import ParserSplice.Proofs.Scanner.Possible
import ParserSplice.Scanner.Library

set_option autoImplicit false

namespace ParserSplice

namespace Automaton

section Reached

variable {σ : Type} (A : Automaton σ)

/-- A state that can be reached from the start state over states that are not stuck. -/
inductive Reached : σ → Prop
  | start : Reached A.start
  | step {state : σ} (b : UInt8) (reached : Reached state)
      (free : A.stuck (A.step state b) = false) : Reached (A.step state b)

/-- No byte of a text leads to a stuck state. -/
def Alive (text : List UInt8) : Prop :=
  ∀ front, front <+: text → front ≠ [] → A.stuck (A.run front) = false

variable {A}

theorem alive_nil : A.Alive [] := by
  intro front before some
  exact absurd (List.prefix_nil.mp before) some

theorem alive_append (text : List UInt8) (b : UInt8) :
    A.Alive (text ++ [b]) ↔ A.Alive text ∧ A.stuck (A.step (A.run text) b) = false := by
  constructor
  · intro alive
    constructor
    · intro front before some
      exact alive front (before.trans (List.prefix_append _ _)) some
    · rw [← A.run_append]
      exact alive _ (List.prefix_refl _) (by simp)
  · rintro ⟨alive, free⟩ front before some
    rcases List.prefix_concat_iff.mp before with whole | before
    · rw [whole, A.run_append]
      exact free
    · exact alive front before some

theorem reached_run {text : List UInt8} (alive : A.Alive text) : A.Reached (A.run text) := by
  induction text using List.reverseRecOn with
  | nil => exact .start
  | append_singleton front b ih =>
    obtain ⟨before, free⟩ := (alive_append front b).mp alive
    rw [A.run_append]
    exact .step b (ih before) free

theorem exists_run_of_reached {state : σ} (reached : A.Reached state) :
    ∃ text, A.Alive text ∧ A.run text = state := by
  induction reached with
  | start => exact ⟨[], alive_nil, rfl⟩
  | @step state b _ free ih =>
    obtain ⟨text, alive, same⟩ := ih
    refine ⟨text ++ [b], ?_, ?_⟩
    · rw [alive_append, same]
      exact ⟨alive, free⟩
    · rw [A.run_append, same]

end Reached

section Entries

variable {σ : Type} {A : Automaton σ} [BEq σ] [Hashable σ]

/-- Numbers in the order in which they are first used: 1, 2, 3 and so on. The number 0 of the dead
state does not count. -/
def InOrder (used : List Nat) (count : Nat) : Prop :=
  (used.filter (0 < ·)).eraseDups = List.range' 1 count

theorem InOrder.again {used : List Nat} {count k : Nat} (order : InOrder used count)
    (known : k ≤ count) : InOrder (used ++ [k]) count := by
  by_cases dead : k = 0
  · subst dead
    simpa [InOrder] using order
  · have before : k ∈ used.filter (0 < ·) := by
      rw [← List.mem_eraseDups, order, List.mem_range'_1]
      omega
    have positive : 0 < k := Nat.pos_of_ne_zero dead
    have nothing : [k].removeAll (used.filter (0 < ·)) = [] := by
      simp [List.removeAll, List.mem_filter.mp before]
    simp only [InOrder, List.filter_append, List.filter_cons, positive, decide_true, if_true,
      List.filter_nil, List.eraseDups_append, nothing, List.eraseDups_nil, List.append_nil]
    exact order

theorem InOrder.next {used : List Nat} {count : Nat} (order : InOrder used count) :
    InOrder (used ++ [count + 1]) (count + 1) := by
  have fresh : count + 1 ∉ used.filter (0 < ·) := by
    rw [← List.mem_eraseDups, order, List.mem_range'_1]
    omega
  have alone : [count + 1].removeAll (used.filter (0 < ·)) = [count + 1] := by
    simpa [List.removeAll] using fresh
  simp only [InOrder, List.filter_append, List.filter_cons, Nat.succ_pos, decide_true, if_true,
    List.filter_nil, List.eraseDups_append, alone]
  rw [order, List.range'_concat, Nat.one_mul, Nat.add_comm]
  rfl

/-- A visit uses the number 0 exactly for a stuck state, and a number for the first time only if it
is the next one. -/
theorem visit_cases (origin : σ) {s : Search σ} (b : UInt8) (written : s.Written A) :
    ((A.visit origin s b).1 = 0 ↔ A.stuck (A.step origin b) = true) ∧
      ((A.visit origin s b).1 ≤ s.states.size ∧
          (A.visit origin s b).2.states.size = s.states.size ∨
        (A.visit origin s b).1 = s.states.size + 1 ∧
          (A.visit origin s b).2.states.size = s.states.size + 1) := by
  rw [visit]
  by_cases stuck : A.stuck (A.step origin b) = true
  · simp [stuck, ScannerTable.dead]
  · rw [if_neg stuck]
    split
    · next k found =>
      obtain ⟨i, rfl, place⟩ := written.numbers _ k found
      have inside := (Array.getElem?_eq_some_iff.mp place).1
      simpa [stuck] using inside
    · simp [stuck]

/-- A row whose entry is 0 exactly where a byte leads to a stuck state. -/
def Marked (A : Automaton σ) (state : σ) (input : List UInt8) (row : List Nat) : Prop :=
  List.Forall₂ (fun b k => k = 0 ↔ A.stuck (A.step state b) = true) input row

/-- A search whose rows use the numbers in order, and 0 exactly for stuck states. -/
structure Search.Ordered (A : Automaton σ) (s : Search σ) : Prop where
  order : InOrder (1 :: s.rows.toList.flatten) s.states.size
  rows : ∀ (i : Nat) row, s.rows[i]? = some row →
    ∃ state, s.states[i]? = some state ∧ A.Marked state allBytes row

theorem initial_ordered : A.initial.Ordered A where
  order := rfl
  rows := fun i row written => by cases written

variable [LawfulBEq σ] [LawfulHashable σ]

theorem visitAll_ordered (origin : σ) {s : Search σ} (input : List UInt8) (written : s.Written A)
    {used : List Nat} (order : InOrder used s.states.size) :
    InOrder (used ++ (A.visitAll origin s input).1) (A.visitAll origin s input).2.states.size ∧
      A.Marked origin input (A.visitAll origin s input).1 := by
  induction input generalizing s used with
  | nil => exact ⟨by simpa [visitAll] using order, .nil⟩
  | cons b rest ih =>
    obtain ⟨marked, count⟩ := visit_cases origin b written
    have later := (visit_written origin b written).1
    have next : InOrder (used ++ [(A.visit origin s b).1]) (A.visit origin s b).2.states.size := by
      rcases count with ⟨known, same⟩ | ⟨new, more⟩
      · rw [same]
        exact order.again known
      · rw [new, more]
        exact order.next
    have others := ih later next
    rw [List.append_assoc, List.singleton_append] at others
    exact ⟨others.1, .cons marked others.2⟩

theorem advanced_ordered {s : Search σ} {state : σ} (written : s.Written A)
    (ordered : s.Ordered A) (waiting : s.states[s.rows.size]? = some state) :
    (A.advanced s state).Ordered A := by
  have kept := (visitAll_written state allBytes written).2.1
  have added := visitAll_ordered state allBytes written ordered.order
  have rows := (A.visitAll_extends state s allBytes).rows
  rw [advanced]
  -- The visit of all bytes must not be unfolded, so it gets a name.
  generalize A.visitAll state s allBytes = outcome at kept added rows
  refine ⟨?_, fun i row found => ?_⟩
  · simpa [rows] using added.1
  · dsimp only at found ⊢
    rw [rows, Array.getElem?_push] at found
    split at found
    · next same =>
      cases found
      exact ⟨state, kept i state (same ▸ waiting), added.2⟩
    · obtain ⟨own, place, marked⟩ := ordered.rows i row found
      exact ⟨own, kept i own place, marked⟩

end Entries

section Scanner

variable {σ : Type}

/-- The number of a state among numbered states: 0 if it is stuck. -/
def numberOf [BEq σ] (A : Automaton σ) (states : List σ) (state : σ) : Nat :=
  if A.stuck state then ScannerTable.dead else states.idxOf state + 1

/-- A scanner that is an automaton with its states numbered breadth first from 1. -/
structure Flattens [BEq σ] (A : Automaton σ) (states : List σ) (table : ScannerTable)
    (sets : ScannerSets) : Prop where
  start : table.start = 1
  distinct : states.Nodup
  reached : ∀ state, state ∈ states ↔ A.Reached state
  count : Set.ncard {state | A.Reached state} = states.length
  sizes : table.size = states.length + 1 ∧ sets.accepts.length = states.length + 1 ∧
    sets.rejects.length = states.length + 1 ∧ sets.possible.length = states.length + 1
  dead : table.rows[0]? = some ScannerTable.deadRow
  entries : ∀ row ∈ table.rows, row.length = 256 ∧ ∀ k ∈ row, k < table.size
  rows : ∀ (i : Nat) state, states[i]? = some state →
    table.rows[i + 1]? = some (allBytes.map (fun b => A.numberOf states (A.step state b)))
  order : InOrder (1 :: table.rows.tail.flatten) states.length
  spelt : ∀ k, 0 < k → k < table.size → ∃ text, table.run text = k
  run : ∀ text, (A.Alive text → table.run text = states.idxOf (A.run text) + 1) ∧
    (¬ A.Alive text → table.run text = 0)
  accepts : sets.accepts = ∅ :: states.map A.accepts

variable {A : Automaton σ} {n : Numbering σ}

theorem Represents.getElem?_rows (r : A.Represents n) {i : Nat} {state : σ}
    (place : n.states[i]? = some state) :
    ∃ row, n.rows[i]? = some row ∧ A.RowOf n.states state row := by
  have inside : i < n.rows.size := by
    rw [r.filled]
    exact (Array.getElem?_eq_some_iff.mp place).1
  obtain ⟨other, place', row⟩ := r.rows i _ (Array.getElem?_eq_getElem inside)
  obtain rfl : state = other := Option.some.inj (place.symm.trans place')
  exact ⟨_, Array.getElem?_eq_getElem inside, row⟩

theorem Represents.mem_of_reached (r : A.Represents n) {state : σ} (reached : A.Reached state) :
    state ∈ n.states := by
  induction reached with
  | start => exact Array.mem_of_getElem? r.start
  | @step state b _ free ih =>
    obtain ⟨i, place⟩ := Array.mem_iff_getElem?.mp ih
    obtain ⟨row, _, targets⟩ := r.getElem?_rows place
    obtain ⟨k, _, stands⟩ := exists_result_of_getElem? targets b.toNat b (getElem?_allBytes b)
    cases k with
    | zero =>
      have stuck : A.stuck (A.step state b) = true := stands
      simp [free] at stuck
    | succ j => exact Array.mem_of_getElem? stands

theorem Stands.eq_numberOf [BEq σ] [LawfulBEq σ] {states : Array σ} (distinct : states.toList.Nodup)
    {k : Nat} {state : σ} (stands : A.Stands states k state)
    (marked : k = 0 ↔ A.stuck state = true) : k = A.numberOf states.toList state := by
  cases k with
  | zero => simp [numberOf, ScannerTable.dead, marked.mp rfl]
  | succ i =>
    have place : states.toList[i]? = some state := by
      rw [Array.getElem?_toList]
      exact stands
    obtain ⟨inside, rfl⟩ := List.getElem?_eq_some_iff.mp place
    have free : ¬ A.stuck states.toList[i] = true := by
      rw [← marked]
      exact Nat.succ_ne_zero i
    rw [numberOf, if_neg free, distinct.idxOf_getElem]

section Numbered

variable [DecidableEq σ]

/-- The numbering that a search finds: each state that can be reached once, numbers used in order,
and 0 for stuck states only. -/
structure Numbered (A : Automaton σ) (n : Numbering σ) : Prop where
  represents : A.Represents n
  distinct : n.states.toList.Nodup
  reached : ∀ state, state ∈ n.states.toList ↔ A.Reached state
  order : InOrder (1 :: n.rows.toList.flatten) n.states.size
  marked : ∀ (i : Nat) row, n.rows[i]? = some row →
    ∃ state, n.states[i]? = some state ∧ A.Marked state allBytes row

/-- The row of a state has the numbers of the states that the bytes lead to. -/
theorem Numbered.rows (h : A.Numbered n) {i : Nat} {state : σ}
    (place : n.states.toList[i]? = some state) : (tableOf n).rows[i + 1]? =
      some (allBytes.map (fun b => A.numberOf n.states.toList (A.step state b))) := by
  rw [Array.getElem?_toList] at place
  obtain ⟨row, written, targets⟩ := h.represents.getElem?_rows place
  obtain ⟨other, place', marked⟩ := h.marked i row written
  obtain rfl : state = other := Option.some.inj (place.symm.trans place')
  rw [tableOf, List.getElem?_cons_succ, Array.getElem?_toList, written]
  apply congrArg some
  apply List.ext_getElem?
  intro b
  rw [List.getElem?_map]
  cases byte : allBytes[b]? with
  | none =>
    rw [List.getElem?_eq_none_iff, targets.length_eq] at byte
    rw [List.getElem?_eq_none_iff.mpr byte, Option.map_none]
  | some c =>
    obtain ⟨k, entry, stands⟩ := exists_result_of_getElem? targets b c byte
    obtain ⟨k', entry', mark⟩ := exists_result_of_getElem? marked b c byte
    obtain rfl : k = k' := Option.some.inj (entry.symm.trans entry')
    rw [entry, Option.map_some, ← Stands.eq_numberOf h.distinct stands mark]

/-- A step of the table from the number of a state leads to the number of the next state. -/
theorem Numbered.next (h : A.Numbered n) {state : σ} (inside : state ∈ n.states.toList)
    (b : UInt8) : (tableOf n).next (n.states.toList.idxOf state + 1) b =
      A.numberOf n.states.toList (A.step state b) := by
  apply ScannerTable.next_eq (h.rows (List.getElem?_idxOf inside))
  rw [List.getElem?_map, getElem?_allBytes, Option.map_some]

/-- The table runs like the automaton until a byte leads to a stuck state, and is dead from there
on. -/
theorem Numbered.run (h : A.Numbered n) (text : List UInt8) :
    (A.Alive text → (tableOf n).run text = n.states.toList.idxOf (A.run text) + 1) ∧
      (¬ A.Alive text → (tableOf n).run text = 0) := by
  induction text using List.reverseRecOn with
  | nil =>
    constructor
    · intro _
      have first : n.states.toList[0]? = some A.start := by
        rw [Array.getElem?_toList]
        exact h.represents.start
      obtain ⟨inside, start⟩ := List.getElem?_eq_some_iff.mp first
      have place := h.distinct.idxOf_getElem 0 inside
      rw [start] at place
      show 1 = n.states.toList.idxOf A.start + 1
      rw [place]
    · intro dead
      exact absurd alive_nil dead
  | append_singleton front b ih =>
    rw [ScannerTable.run_append, A.run_append, alive_append]
    by_cases alive : A.Alive front
    · have inside := (h.reached _).mpr (reached_run alive)
      rw [ih.1 alive, h.next inside, numberOf]
      by_cases stuck : A.stuck (A.step (A.run front) b) = true
      · simp [stuck, ScannerTable.dead]
      · simp [stuck, alive]
    · rw [ih.2 alive]
      have still : (tableOf n).next 0 b = 0 := h.represents.complete.next_dead b
      simp [alive, still]

/-- Every number is spelt by a text that leads to its state. -/
theorem Numbered.exists_run (h : A.Numbered n) {i : Nat} (inside : i < n.states.toList.length) :
    ∃ text, (tableOf n).run text = i + 1 := by
  have reached := (h.reached _).mp (List.getElem_mem inside)
  obtain ⟨text, alive, same⟩ := exists_run_of_reached reached
  refine ⟨text, ?_⟩
  rw [(h.run text).1 alive, same, h.distinct.idxOf_getElem]

theorem Numbered.flattens (h : A.Numbered n) :
    A.Flattens n.states.toList (A.scanner n).1 (A.scanner n).2 := by
  have complete := h.represents.complete
  have size : (tableOf n).size = n.states.toList.length + 1 := by
    simp [ScannerTable.size, tableOf, h.represents.filled]
  have accepted : (A.acceptsOf n).length = n.states.toList.length + 1 := by
    simp [acceptsOf]
  have possible := (PossibleSets.compute_closed (tableOf n).rows (A.acceptsOf n)).1.length_eq
  have members : {state | A.Reached state} = (n.states.toList.toFinset : Set σ) := by
    ext state
    simp only [Set.mem_ofPred_eq, List.coe_toFinset]
    exact (h.reached state).symm
  refine {
    start := rfl
    distinct := h.distinct
    reached := h.reached
    count := ?_
    sizes := ⟨size, accepted, ?_, ?_⟩
    dead := complete.first
    entries := fun row listed => ⟨complete.rows row listed, complete.targets row listed⟩
    rows := fun i state place => h.rows place
    order := h.order
    spelt := fun k positive below => ?_
    run := h.run
    accepts := rfl }
  · rw [members, Set.ncard_coe_finset, List.toFinset_card_of_nodup h.distinct]
  · rw [← size]
    exact List.length_replicate
  · rw [← accepted]
    exact possible.symm
  · obtain ⟨i, rfl⟩ := Nat.exists_eq_succ_of_ne_zero (Nat.pos_iff_ne_zero.mp positive)
    apply h.exists_run
    rw [scanner, size] at below
    omega

/-- A search for the states that can be reached finds them all, whatever else the limit would
allow. -/
theorem exists_numbered [Hashable σ] (A : Automaton σ) {known : List σ}
    (all : ∀ state, state ∈ known ↔ A.Reached state) :
    ∃ n, (∀ limit, known.length ≤ limit → A.number limit = some n) ∧ A.Numbered n := by
  have closed : A.Closed known := by
    intro state inside b _
    by_cases stuck : A.stuck (A.step state b) = true
    · exact Or.inl stuck
    · right
      rw [all] at inside ⊢
      exact .step b inside (by simpa using stuck)
  obtain ⟨n, found⟩ := A.exists_number closed ((all _).mpr .start) (Nat.le_refl _)
  have represents := number_represents found
  refine ⟨n, fun limit enough => ?_, ?_⟩
  · obtain ⟨more, rfl⟩ := Nat.exists_eq_add_of_le enough
    exact A.search_mono found more
  · have step (s : Search σ) (state : σ) (held : s.Sound known ∧ s.Written A ∧ s.Ordered A)
        (waiting : s.states[s.rows.size]? = some state) : (A.advanced s state).Sound known ∧
          (A.advanced s state).Written A ∧ (A.advanced s state).Ordered A := by
      have listed := Array.mem_toList_iff.mpr (Array.mem_of_getElem? waiting)
      refine ⟨?_, (advanced_written held.2.1 waiting).1,
        advanced_ordered held.2.1 held.2.2 waiting⟩
      exact A.advanced_sound held.1 (closed state (held.1.inside state listed))
    have started := A.initial_sound ((all _).mpr .start)
    obtain ⟨final, ⟨sound, _, ordered⟩, _, rfl⟩ :=
      A.search_preserves step ⟨started, initial_written, initial_ordered⟩ found
    refine ⟨represents, sound.distinct, fun state => ⟨fun inside => ?_, fun reached => ?_⟩,
      ordered.order, ordered.rows⟩
    · exact (all state).mp (sound.inside state inside)
    · exact Array.mem_toList_iff.mpr (represents.mem_of_reached reached)

/-- A finite automaton can be numbered, whatever limit there is that the number of all states does
not exceed. -/
theorem exists_numbered_of_finite [Fintype σ] [Hashable σ] (A : Automaton σ) :
    ∃ n, (∀ limit, Fintype.card σ ≤ limit → A.number limit = some n) ∧ A.Numbered n := by
  classical
  have all (state : σ) : state ∈ (Finset.univ.filter A.Reached).toList ↔ A.Reached state := by
    simp
  obtain ⟨n, found, numbered⟩ := A.exists_numbered all
  have few := Finset.card_le_univ (Finset.univ.filter A.Reached)
  refine ⟨n, fun limit enough => found limit ?_, numbered⟩
  rw [Finset.length_toList]
  exact few.trans enough

end Numbered

end Scanner

end Automaton

namespace ByteAutomaton

variable {σ : Type}

theorem mem_accepts (D : ByteAutomaton σ) (terminals : List Nat) (state : σ) (t : Nat) :
    t ∈ D.accepts terminals state ↔ D.matching (D.atEnd state) = true ∧
      ∃ pattern ∈ D.patterns (D.atEnd state), terminals[pattern]? = some t := by
  rw [accepts]
  split
  · next matching => simp [matching, OrderedSet.mem_ofList]
  · next silent => simp [silent, OrderedSet.not_mem_empty]

/-- Flattening a finite automaton numbers its states faithfully. The search for states ends,
whatever limit there is that the number of all states does not exceed; its scanner is the automaton
with its states numbered breadth first; and what is accepted after a text are the terminals of the
patterns that match where the text ends. -/
theorem flattens_faithfully [Fintype σ] [DecidableEq σ] [Hashable σ] (D : ByteAutomaton σ)
    (terminals : List Nat) : ∃ n : Numbering σ,
      (∀ limit, Fintype.card σ ≤ limit → (D.forTerminals terminals).number limit = some n) ∧
      (D.forTerminals terminals).Flattens n.states.toList ((D.forTerminals terminals).scanner n).1
        ((D.forTerminals terminals).scanner n).2 ∧
      ∀ text, (D.forTerminals terminals).Alive text →
        ∃ set, ((D.forTerminals terminals).scanner n).2.accepts[
            ((D.forTerminals terminals).scanner n).1.run text]? = some set ∧
          ∀ t, t ∈ set ↔
            D.matching (D.atEnd ((D.forTerminals terminals).run text)) = true ∧
              ∃ pattern ∈ D.patterns (D.atEnd ((D.forTerminals terminals).run text)),
                terminals[pattern]? = some t := by
  obtain ⟨n, found, numbered⟩ := (D.forTerminals terminals).exists_numbered_of_finite
  refine ⟨n, found, numbered.flattens, fun text alive => ?_⟩
  have inside := (numbered.reached _).mpr (Automaton.reached_run alive)
  refine ⟨D.accepts terminals ((D.forTerminals terminals).run text), ?_,
    D.mem_accepts terminals _⟩
  have run := (numbered.run text).1 alive
  rw [numbered.flattens.accepts, Automaton.scanner, run, List.getElem?_cons_succ,
    List.getElem?_map, List.getElem?_idxOf inside]
  rfl

end ByteAutomaton

/-- Every compiled automaton is flattened by a numbering. -/
theorem Compiler.exists_numbered {n : Nat} (D : ByteAutomaton (Fin n)) (terminals : List Nat) :
    ∃ numbering, (D.forTerminals terminals).Numbered numbering ∧
      flattened D terminals = .ok ((D.forTerminals terminals).scanner numbering) := by
  obtain ⟨numbering, found, numbered⟩ := (D.forTerminals terminals).exists_numbered_of_finite
  exact ⟨numbering, numbered, by rw [flattened, found n (by simp)]⟩

end ParserSplice
