import ParserSplice.Proofs.Scanner.Compiling

set_option autoImplicit false

namespace ParserSplice

namespace Automaton

variable {σ : Type} [BEq σ] [Hashable σ] {A : Automaton σ}

/-- A search writes at most as many rows as its limit allows. -/
theorem size_rows_le_of_search {limit : Nat} {s : Search σ} {n : Numbering σ}
    (found : A.search limit s = some n) : n.rows.size ≤ limit + s.rows.size := by
  induction limit generalizing s with
  | zero =>
    cases waiting : s.states[s.rows.size]? with
    | none =>
      rw [A.search_of_done waiting] at found
      cases found
      exact Nat.le_add_left _ _
    | some state =>
      rw [A.search_zero_of_waiting waiting] at found
      cases found
  | succ limit ih =>
    cases waiting : s.states[s.rows.size]? with
    | none =>
      rw [A.search_of_done waiting] at found
      cases found
      exact Nat.le_add_left _ _
    | some state =>
      rw [A.search_of_waiting waiting] at found
      have rest := ih found
      rw [A.size_rows_advanced] at rest
      omega

theorem size_tableOf_le {limit : Nat} {n : Numbering σ} (found : A.number limit = some n) :
    (tableOf n).size ≤ limit + 1 := by
  have rows := size_rows_le_of_search found
  simp only [List.size_toArray, List.length_nil, Nat.add_zero] at rows
  simpa [ScannerTable.size, tableOf] using rows

/-- A property of the start state that every step keeps. -/
structure Maintains (A : Automaton σ) (P : σ → Prop) : Prop where
  start : P A.start
  step : ∀ state b, P state → P (A.step state b)

variable {P : σ → Prop}

theorem visit_maintained {origin : σ} {s : Search σ} {b : UInt8} (target : P (A.step origin b))
    (each : ∀ state ∈ s.states, P state) : ∀ state ∈ (A.visit origin s b).2.states, P state := by
  rw [visit]
  split
  · exact each
  · split
    · exact each
    · intro state inside
      rcases Array.mem_push.mp inside with before | rfl
      · exact each state before
      · exact target

theorem visitAll_maintained {origin : σ} {s : Search σ} {input : List UInt8}
    (targets : ∀ b, P (A.step origin b)) (each : ∀ state ∈ s.states, P state) :
    ∀ state ∈ (A.visitAll origin s input).2.states, P state := by
  induction input generalizing s with
  | nil => exact each
  | cons b rest ih => exact ih (visit_maintained (targets b) each)

theorem advanced_maintained {s : Search σ} {state : σ} (targets : ∀ b, P (A.step state b))
    (each : ∀ state ∈ s.states, P state) : ∀ other ∈ (A.advanced s state).states, P other := by
  have visited : ∀ other ∈ (A.visitAll state s allBytes).2.states, P other :=
    visitAll_maintained targets each
  rw [advanced]
  -- The visit of all bytes must not be unfolded, so it gets a name.
  generalize A.visitAll state s allBytes = outcome at visited
  exact visited

/-- All states of a numbering have a property that the automaton maintains. -/
theorem number_maintained (maintains : A.Maintains P) {limit : Nat} {n : Numbering σ}
    (found : A.number limit = some n) : ∀ state ∈ n.states, P state := by
  have started : ∀ state ∈ A.initial.states, P state := by
    intro state inside
    rw [initial, List.mem_toArray, List.mem_singleton] at inside
    rw [inside]
    exact maintains.start
  obtain ⟨final, each, _, rfl⟩ := A.search_preserves (P := fun s => ∀ state ∈ s.states, P state)
    (fun s state each waiting => advanced_maintained
      (fun b => maintains.step state b (each state (Array.mem_of_getElem? waiting))) each)
    started found
  exact each

end Automaton

namespace Compiler

/-- A library whose automata have few enough states. -/
def Within (library : Compiler) (limit : Nat) : Prop :=
  ∀ expressions n D, library.compile expressions = .ok ⟨n, D⟩ → n ≤ limit

/-- A scanner with few states, which tells about some terminals only. -/
structure Bounded (terminals : List Nat) (limit : Nat) (table : ScannerTable)
    (sets : ScannerSets) : Prop where
  start : table.start = 1
  rows : ∀ row ∈ table.rows, ∀ state ∈ row, state ≤ limit
  accepts : ∀ set ∈ sets.accepts, ∀ t ∈ set, t ∈ terminals
  rejects : ∀ set ∈ sets.rejects, set = ∅
  possible : ∀ set ∈ sets.possible, ∀ t ∈ set, t ∈ terminals

theorem bounded_blank (terminals : List Nat) (limit : Nat) :
    Bounded terminals limit .blank (.blank 2) := by
  have none {set : IndexSet} (inside : set ∈ List.replicate 2 (∅ : IndexSet)) : set = ∅ :=
    List.eq_of_mem_replicate inside
  have silent : ∀ set ∈ List.replicate 2 (∅ : IndexSet), ∀ t ∈ set, t ∈ terminals := by
    intro set inside t held
    rw [none inside] at held
    exact absurd held (OrderedSet.not_mem_empty t)
  refine ⟨rfl, fun row listed state inside => ?_, silent, fun set => none, silent⟩
  have dead : row = ScannerTable.deadRow := by simpa [ScannerTable.blank] using listed
  rw [dead] at inside
  rw [List.eq_of_mem_replicate inside]
  exact Nat.zero_le limit

/-- A scanner of an automaton has no more states, and tells about the terminals of its patterns. -/
theorem bounded_scanner {n limit : Nat} (few : n ≤ limit) (D : ByteAutomaton (Fin n))
    (terminals : List Nat) {numbering : Numbering (Fin n)}
    (numbered : (D.forTerminals terminals).Numbered numbering) :
    Bounded terminals limit ((D.forTerminals terminals).scanner numbering).1
      ((D.forTerminals terminals).scanner numbering).2 := by
  have flat := numbered.flattens
  have states : numbering.states.toList.length ≤ n := by
    simpa using List.Nodup.length_le_card numbered.distinct
  have accepts : ∀ set ∈ (D.forTerminals terminals).acceptsOf numbering, ∀ t ∈ set,
      t ∈ terminals := by
    intro set inside t held
    rcases List.mem_cons.mp inside with rfl | inside
    · exact absurd held (OrderedSet.not_mem_empty t)
    · obtain ⟨state, _, rfl⟩ := List.mem_map.mp inside
      obtain ⟨_, _, _, own⟩ := (D.mem_accepts terminals state t).mp held
      exact List.mem_of_getElem? own
  refine ⟨rfl, fun row listed state inside => ?_, accepts,
    fun set inside => List.eq_of_mem_replicate inside, PossibleSets.mem_of_mem_compute accepts⟩
  have below := (flat.entries row listed).2 state inside
  rw [flat.sizes.1] at below
  omega

/-- The scanner of some regular expressions tells about their terminals only. -/
theorem bounded_of_build {library : Compiler} {limit : Nat} (within : library.Within limit)
    {regexes : OrderedMap String} {table : ScannerTable} {sets : ScannerSets}
    (built : library.build regexes = .ok (table, sets)) :
    Bounded regexes.keys.elems limit table sets := by
  cases empty : regexes.entries.isEmpty with
  | true =>
    rw [build, empty, if_pos rfl] at built
    cases built
    exact bounded_blank _ _
  | false =>
    obtain ⟨expressions, n, D, _, compiled, flat⟩ := (build_of_nonempty empty).mp built
    obtain ⟨numbering, numbered, same⟩ := exists_numbered D regexes.keys.elems
    cases flat.symm.trans same
    exact bounded_scanner (within _ n D compiled) D _ numbered

end Compiler

namespace Scanner

open Regex (Term)

variable {terms : List (Nat × Term)}

/-- Only the terminals of the terms are ever pending. -/
theorem Progress.maintains_pending (terms : List (Nat × Term)) :
    (automaton terms).Maintains (fun p => ∀ entry ∈ p.pending, entry.1 ∈ terms.map Prod.fst) where
  start := fun _ inside => List.mem_map_of_mem inside
  step p b own := by
    intro entry inside
    obtain ⟨term, pending, _⟩ := (mem_pending_step p b entry.1 entry.2).mp inside
    exact own (entry.1, term) pending

theorem Progress.mem_accepts {p : Progress} {t : Nat} (accepted : t ∈ p.accepts) :
    t ∈ p.pending.map Prod.fst := by
  rw [accepts, OrderedSet.mem_ofList, matchedBefore, List.mem_eraseDups, List.mem_map] at accepted
  obtain ⟨entry, inside, rfl⟩ := accepted
  exact List.mem_map_of_mem (List.mem_filter.mp inside).1

theorem mem_acceptsOf {wide : Numbering Progress}
    (numbered : (Progress.automaton terms).number stateLimit = some wide) :
    ∀ set ∈ (Progress.automaton terms).acceptsOf wide, ∀ t ∈ set, t ∈ terms.map Prod.fst := by
  intro set inside t held
  rcases List.mem_cons.mp inside with rfl | inside
  · exact absurd held (OrderedSet.not_mem_empty t)
  · obtain ⟨p, listed, rfl⟩ := List.mem_map.mp inside
    have pending := Automaton.number_maintained (Progress.maintains_pending terms) numbered p
      (Array.mem_toList_iff.mp listed)
    obtain ⟨entry, own, rfl⟩ := List.mem_map.mp (Progress.mem_accepts held)
    exact pending entry own

/-- What the library compiles only reports places of expressions. -/
theorem patterns_of_compile {expressions : List Regex.Meaning} {n : Nat} {D : ByteAutomaton (Fin n)}
    (compiled : compile expressions = .ok ⟨n, D⟩) (state : Fin n) (place : Nat)
    (listed : place ∈ D.patterns state) : place < expressions.length := by
  obtain ⟨wide, numbered, made⟩ := exists_merged_of_compile compiled
  cases made
  obtain ⟨k, held⟩ := Minimal.mem_patterns_reporting listed
  cases found : ((Progress.automaton (termsOf expressions)).acceptsOf wide)[k]? with
  | none =>
    rw [found] at held
    exact absurd held (OrderedSet.not_mem_empty place)
  | some set =>
    rw [found, Option.getD_some] at held
    have known := mem_acceptsOf numbered set (List.mem_of_getElem? found) place held
    obtain ⟨⟨_, term⟩, inside, rfl⟩ := List.mem_map.mp known
    obtain ⟨e, own, _⟩ := mem_termsOf.mp inside
    exact (List.getElem?_eq_some_iff.mp own).1

theorem compiler_honest : compiler.Honest := by
  intro expressions n D compiled state _ place listed
  replace compiled : compile expressions = .ok ⟨n, D⟩ := compiled
  exact patterns_of_compile compiled state place listed

theorem le_of_compile {expressions : List Regex.Meaning} {n : Nat} {D : ByteAutomaton (Fin n)}
    (compiled : compile expressions = .ok ⟨n, D⟩) : n ≤ 2 * (stateLimit + 1) + 1 := by
  obtain ⟨wide, numbered, made⟩ := exists_merged_of_compile compiled
  have size := Automaton.size_tableOf_le numbered
  cases made
  exact Nat.succ_le_succ (Nat.mul_le_mul_left 2 size)

theorem compiler_within : compiler.Within (2 * (stateLimit + 1) + 1) := by
  intro expressions n D compiled
  replace compiled : compile expressions = .ok ⟨n, D⟩ := compiled
  exact le_of_compile compiled

end Scanner

end ParserSplice
