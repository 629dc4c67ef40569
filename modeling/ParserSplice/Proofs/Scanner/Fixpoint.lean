import Mathlib.Logic.Relation
import ParserSplice.Proofs.Scanner.Possible

set_option autoImplicit false

namespace ParserSplice.PossibleSets

/-- The states of a pass, from the last to the first. The dead state is not among them. -/
def swept (size : Nat) : List Nat := ((List.range (size - 1)).map (· + 1)).reverse

/-- A set together with those of some states. Each of the states has to have a set. -/
def joined (sets : List IndexSet) (nexts : List Nat) (own : IndexSet) : Option IndexSet :=
  nexts.foldlM (fun all next => do
    let set ← sets[next]?
    return all.union set) own

/-- The turn of a state in a pass: its set takes in those of its successors, and only a change of
its size makes a difference. The state and its successors have to have sets. -/
def turn (after : List IndexSet) (s : List IndexSet × Bool) (state : Nat) :
    Option (List IndexSet × Bool) := do
  let own ← s.1[state]?
  let nexts ← after[state]?
  let all ← joined s.1 nexts.elems own
  if all.size = own.size then return s else return (s.1.set state all, true)

def pass (after sets : List IndexSet) : Option (List IndexSet × Bool) :=
  (swept sets.length).foldlM (turn after) (sets, false)

/-- Passes until no set changes. Gives up after some rounds. -/
def loop (after : List IndexSet) : Nat → List IndexSet → Option (List IndexSet)
  | 0, _ => none
  | rounds + 1, sets => do
    let (next, changed) ← pass after sets
    if changed then loop after rounds next else return next

/-- Every state has successors, all of them states. -/
structure Bound (after : List IndexSet) (size : Nat) : Prop where
  length : after.length = size
  nexts : ∀ nexts ∈ after, ∀ next ∈ nexts.elems, next < size

variable {after sets : List IndexSet}

theorem joined_eq {nexts : List Nat} (inside : ∀ next ∈ nexts, next < sets.length)
    (own : IndexSet) : joined sets nexts own =
      some (nexts.foldl (fun total next => total.union (setOf sets next)) own) := by
  induction nexts generalizing own with
  | nil => rfl
  | cons next rest ih =>
    obtain ⟨first, others⟩ := List.forall_mem_cons.mp inside
    have here : sets[next]? = some (setOf sets next) := by simp [setOf, first]
    have step : joined sets (next :: rest) own =
        sets[next]?.bind (fun set => joined sets rest (own.union set)) := by
      simp [joined, Option.bind_assoc]
    rw [step, here, Option.bind_some, ih others, List.foldl_cons]

theorem setOf_widen {state : Nat} (inside : state < sets.length) :
    setOf (widen after sets state) state = (setOf after state).elems.foldl
      (fun total next => total.union (setOf sets next)) (setOf sets state) := by
  simp [widen, setOf, inside]

/-- Widening makes a difference exactly when the set of the state becomes larger. -/
theorem widen_eq_iff {state : Nat} (inside : state < sets.length) :
    widen after sets state = sets ↔
      (setOf (widen after sets state) state).size = (setOf sets state).size := by
  constructor
  · intro same
    rw [same]
  · intro sizes
    have grows : ∀ t ∈ setOf sets state, t ∈ setOf (widen after sets state) state :=
      fun t held => (widen_grows after sets state).mem held
    have same := OrderedSet.eq_of_subset grows sizes.symm
    rw [setOf_widen inside] at same
    rw [widen, ← same]
    simp [setOf, inside]

/-- A turn widens the set of its state, and notes whether this makes a difference. -/
theorem turn_eq (bound : Bound after sets.length) {state : Nat} (inside : state < sets.length)
    (changed : Bool) : turn after (sets, changed) state =
      some (widen after sets state, changed || decide (widen after sets state ≠ sets)) := by
  have own : sets[state]? = some (setOf sets state) := by simp [setOf, inside]
  have here : state < after.length := by rw [bound.length]; exact inside
  have nexts : after[state]? = some (setOf after state) := by simp [setOf, here]
  have listed : setOf after state ∈ after := List.mem_of_getElem? nexts
  have wide : setOf (widen after sets state) state = (setOf after state).elems.foldl
      (fun total next => total.union (setOf sets next)) (setOf sets state) := setOf_widen inside
  have sizes : widen after sets state = sets ↔
      (setOf (widen after sets state) state).size = (setOf sets state).size := widen_eq_iff inside
  simp only [turn, own, nexts, joined_eq (bound.nexts _ listed), Option.bind_eq_bind,
    Option.bind_some, ← wide]
  by_cases same : widen after sets state = sets
  · rw [if_pos (sizes.mp same), same]
    simp
  · have kept : sets.set state (setOf (widen after sets state) state) = widen after sets state := by
      rw [wide]
      rfl
    rw [if_neg (fun equal => same (sizes.mpr equal)), kept]
    simp [same]

theorem length_widen (after sets : List IndexSet) (state : Nat) :
    (widen after sets state).length = sets.length := by
  simp [widen]

theorem foldlM_turn_eq {states : List Nat} (bound : Bound after sets.length)
    (inside : ∀ state ∈ states, state < sets.length) (changed : Bool) :
    states.foldlM (turn after) (sets, changed) =
      some (states.foldl (widen after) sets,
        changed || decide (states.foldl (widen after) sets ≠ sets)) := by
  induction states generalizing sets changed with
  | nil => simp
  | cons state rest ih =>
    obtain ⟨first, others⟩ := List.forall_mem_cons.mp inside
    rw [← length_widen after sets state] at others
    rw [List.foldlM_cons, turn_eq bound first, List.foldl_cons]
    simp only [Option.bind_eq_bind, Option.bind_some]
    rw [ih (by rwa [length_widen]) others, Bool.or_assoc]
    -- Sets only grow, so no later turn takes back what an earlier one has changed.
    have shrinks := foldl_widen_grows after rest (widen after sets state)
    have split : rest.foldl (widen after) (widen after sets state) = sets ↔
        widen after sets state = sets ∧
          rest.foldl (widen after) (widen after sets state) = widen after sets state := by
      constructor
      · intro same
        rw [same] at shrinks ⊢
        have own := (widen_grows after sets state).antisymm shrinks
        exact ⟨own, own.symm⟩
      · rintro ⟨own, same⟩
        rw [same, own]
    simp only [ne_eq, split, not_and_or, Bool.decide_or]

theorem lt_of_mem_swept {size state : Nat} (listed : state ∈ swept size) :
    0 < state ∧ state < size := by
  simp only [swept, List.mem_reverse, List.mem_map, List.mem_range] at listed
  obtain ⟨before, inside, rfl⟩ := listed
  omega

/-- A pass sweeps the sets, and notes whether this makes a difference. -/
theorem pass_eq (bound : Bound after sets.length) :
    pass after sets = some (sweep after sets, decide (sweep after sets ≠ sets)) := by
  rw [pass, foldlM_turn_eq bound (fun state listed => (lt_of_mem_swept listed).2), Bool.false_or]
  rfl

theorem length_sweep (after sets : List IndexSet) : (sweep after sets).length = sets.length :=
  (sweep_grows after sets).length_eq.symm

theorem loop_succ (bound : Bound after sets.length) (rounds : Nat) :
    loop after (rounds + 1) sets =
      if sweep after sets = sets then some sets else loop after rounds (sweep after sets) := by
  simp only [loop, pass_eq bound, Option.bind_eq_bind, Option.bind_some]
  by_cases same : sweep after sets = sets <;> simp [same]

/-- The loop ends with what a number of sweeps settles on, if a further sweep changes nothing. -/
theorem loop_eq {steps : Nat} (bound : Bound after sets.length)
    (settled : sweep after (settle after steps sets) = settle after steps sets) :
    loop after (steps + 1) sets = some (settle after steps sets) := by
  induction steps generalizing sets with
  | zero =>
    rw [settle] at settled
    rw [loop_succ bound, if_pos settled, settle]
  | succ steps ih =>
    rw [loop_succ bound]
    rw [settle] at settled ⊢
    by_cases same : sweep after sets = sets
    · rw [if_pos same, if_pos (congrArg total same)]
    · have more : total (sweep after sets) ≠ total sets :=
        fun equal => same ((sweep_grows after sets).eq_of_total (Nat.le_of_eq equal))
      rw [if_neg same, if_neg more]
      rw [if_neg more] at settled
      exact ih (by rwa [length_sweep]) settled

/-- A table leads from a state to another over entries that do not lead to the dead state. -/
def Leads (rows : List (List Nat)) : Nat → Nat → Prop :=
  Relation.ReflTransGen (fun s next =>
    next ≠ ScannerTable.dead ∧ ∃ row, rows[s]? = some row ∧ next ∈ row)

/-- The sets that the loop ends with. -/
structure LeastFixpoint (rows : List (List Nat)) (accepts final : List IndexSet) : Prop where
  ends : ∃ rounds, loop (rows.map successors) rounds accepts = some final
  length : final.length = accepts.length
  dead : final[ScannerTable.dead]? = accepts[ScannerTable.dead]?
  reached : ∀ s, s ≠ ScannerTable.dead → s < accepts.length → ∃ set, final[s]? = some set ∧
    ∀ t, t ∈ set ↔ ∃ q own, Leads rows s q ∧ accepts[q]? = some own ∧ t ∈ own
  fixed : pass (rows.map successors) final = some (final, false)
  least : ∀ other, Grows accepts other → Closed (rows.map successors) other → Grows final other

theorem bound_successors {rows : List (List Nat)} {size : Nat} (length : rows.length = size)
    (inside : ∀ row ∈ rows, ∀ next ∈ row, next < size) : Bound (rows.map successors) size := by
  constructor
  · rw [List.length_map, length]
  · intro nexts listed next held
    obtain ⟨row, own, rfl⟩ := List.mem_map.mp listed
    have entry : next ∈ row.filter (· != ScannerTable.dead) := (OrderedSet.mem_ofList _ _).mp held
    exact inside row own next (List.mem_filter.mp entry).1

theorem getElem?_dead_sweep (after sets : List IndexSet) :
    (sweep after sets)[ScannerTable.dead]? = sets[ScannerTable.dead]? := by
  have each : ∀ state ∈ swept sets.length, state ≠ ScannerTable.dead :=
    fun state listed => Nat.ne_of_gt (lt_of_mem_swept listed).1
  change ((swept sets.length).foldl (widen after) sets)[ScannerTable.dead]? = _
  generalize swept sets.length = states at each
  induction states generalizing sets with
  | nil => rfl
  | cons state rest ih =>
    obtain ⟨first, others⟩ := List.forall_mem_cons.mp each
    rw [List.foldl_cons, ih (widen after sets state) others, widen, List.getElem?_set_ne first]

theorem getElem?_dead_settle (after : List IndexSet) (steps : Nat) (sets : List IndexSet) :
    (settle after steps sets)[ScannerTable.dead]? = sets[ScannerTable.dead]? := by
  induction steps generalizing sets with
  | zero => rfl
  | succ steps ih =>
    rw [settle]
    split
    · rfl
    · rw [ih, getElem?_dead_sweep]

theorem mem_setOf_iff (sets : List IndexSet) (s t : Nat) :
    t ∈ setOf sets s ↔ ∃ own, sets[s]? = some own ∧ t ∈ own := by
  cases found : sets[s]? <;> simp [setOf, found, OrderedSet.not_mem_empty]

/-- What may follow in a state other than the dead one is what is accepted in the states that the
table leads to. -/
theorem mem_compute_iff {rows : List (List Nat)} {accepts : List IndexSet}
    (inside : ∀ row ∈ rows, ∀ next ∈ row, next < accepts.length) {s : Nat}
    (alive : s ≠ ScannerTable.dead) (own : s < accepts.length) (t : Nat) :
    t ∈ setOf (compute rows accepts) s ↔ ∃ q, Leads rows s q ∧ t ∈ setOf accepts q := by
  obtain ⟨grows, closed⟩ := compute_closed rows accepts
  constructor
  · apply of_mem_settle (P := fun s t => ∃ q, Leads rows s q ∧ t ∈ setOf accepts q)
    · rintro s next t leads ⟨q, later, held⟩
      exact ⟨q, .head ((mem_successors rows s next).mp leads) later, held⟩
    · exact fun s t held => ⟨s, .refl, held⟩
  · rintro ⟨q, leads, held⟩
    induction leads using Relation.ReflTransGen.head_induction_on with
    | refl => exact grows.mem held
    | head step later ih =>
      next s next =>
      obtain ⟨awake, row, written, listed⟩ := step
      have follows := ih awake (inside row (List.mem_of_getElem? written) next listed)
      exact closed s next t alive (by rwa [← grows.length_eq])
        ((mem_successors rows s next).mpr ⟨awake, row, written, listed⟩) follows

theorem grows_of_mem {before later : List IndexSet} (length : before.length = later.length)
    (held : ∀ s t, t ∈ setOf before s → t ∈ setOf later s) : Grows before later := by
  refine List.forall₂_iff_get.mpr ⟨length, fun i small large t inside => ?_⟩
  have own := held i t
  simp only [setOf, List.getElem?_eq_getElem small, List.getElem?_eq_getElem large,
    Option.getD_some] at own
  exact own inside

/-- For a table without targets past its end the loop ends, with the least sets. -/
theorem leastFixpoint_of_table (rows : List (List Nat)) (accepts : List IndexSet)
    (length : rows.length = accepts.length)
    (inside : ∀ row ∈ rows, ∀ next ∈ row, next < accepts.length) :
    LeastFixpoint rows accepts (compute rows accepts) := by
  have bound := bound_successors length inside
  have settled := sweep_compute rows accepts
  have grows := (compute_closed rows accepts).1
  have size : (compute rows accepts).length = accepts.length := grows.length_eq.symm
  have first : (compute rows accepts)[ScannerTable.dead]? = accepts[ScannerTable.dead]? :=
    getElem?_dead_settle _ _ _
  constructor
  case ends => exact ⟨_, loop_eq bound settled⟩
  case length => exact size
  case dead => exact first
  case reached =>
    intro s alive own
    refine ⟨setOf (compute rows accepts) s, by simp [setOf, size, own], fun t => ?_⟩
    simp only [mem_compute_iff inside alive own, mem_setOf_iff, exists_and_left]
  case fixed =>
    rw [pass_eq (by rwa [size]), settled]
    simp
  case least =>
    intro other held closed
    have sound : ∀ s t, t ∈ setOf (compute rows accepts) s → s ≠ ScannerTable.dead →
        t ∈ setOf other s := by
      apply of_mem_settle (P := fun s t => s ≠ ScannerTable.dead → t ∈ setOf other s)
      · intro s next t leads later alive
        obtain ⟨awake, row, written, _⟩ := (mem_successors rows s next).mp leads
        have own : s < rows.length := (List.getElem?_eq_some_iff.mp written).1
        exact closed s next t alive (by rwa [← held.length_eq, ← length]) leads (later awake)
      · exact fun s t own _ => held.mem own
    apply grows_of_mem (size.trans held.length_eq)
    intro s t own
    by_cases dead : s = ScannerTable.dead
    · rw [dead, setOf, first] at own
      rw [dead]
      exact held.mem own
    · exact sound s t own dead

/-- A table with a cycle, whose dead state leads somewhere and does not take anything from there. -/
theorem leastFixpoint_of_table_cycle :
    [[1, 3], [2, 0], [1, 3], [0, 3]].length = 4 ∧
      (∀ row ∈ [[1, 3], [2, 0], [1, 3], [0, 3]], ∀ next ∈ row, next < 4) ∧
      LeastFixpoint [[1, 3], [2, 0], [1, 3], [0, 3]]
        [OrderedSet.ofList [9], ∅, OrderedSet.ofList [4], OrderedSet.ofList [7]]
        [OrderedSet.ofList [9], OrderedSet.ofList [4, 7], OrderedSet.ofList [4, 7],
          OrderedSet.ofList [7]] := by
  have inside : ∀ row ∈ [[1, 3], [2, 0], [1, 3], [0, 3]], ∀ next ∈ row, next < 4 := by decide
  have final : compute [[1, 3], [2, 0], [1, 3], [0, 3]]
      [OrderedSet.ofList [9], ∅, OrderedSet.ofList [4], OrderedSet.ofList [7]] =
        [OrderedSet.ofList [9], OrderedSet.ofList [4, 7], OrderedSet.ofList [4, 7],
          OrderedSet.ofList [7]] := by decide +kernel
  have least := leastFixpoint_of_table [[1, 3], [2, 0], [1, 3], [0, 3]]
    [OrderedSet.ofList [9], ∅, OrderedSet.ofList [4], OrderedSet.ofList [7]] rfl inside
  rw [final] at least
  exact ⟨rfl, inside, least⟩

end ParserSplice.PossibleSets
