import Mathlib.Data.List.Forall2
import ParserSplice.Proofs.Ordered
import ParserSplice.Proofs.Scanner.Numbering
import ParserSplice.Scanner.Possible

set_option autoImplicit false

namespace ParserSplice

namespace PossibleSets

def Grows (before later : List IndexSet) : Prop :=
  List.Forall₂ (fun small large => ∀ t ∈ small, t ∈ large) before later

variable {before between later sets after : List IndexSet}

theorem Grows.refl (sets : List IndexSet) : Grows sets sets :=
  List.forall₂_same.mpr (fun _ _ _ held => held)

theorem Grows.trans (first : Grows before between) (second : Grows between later) :
    Grows before later := by
  induction first generalizing later with
  | nil => exact second
  | cons small _ ih =>
    cases second with
    | cons large rest => exact .cons (fun t held => large t (small t held)) (ih rest)

theorem Grows.mem (grows : Grows before later) {s t : Nat} (held : t ∈ setOf before s) :
    t ∈ setOf later s := by
  induction grows generalizing s with
  | nil => exact held
  | cons first _ ih =>
    cases s with
    | zero => exact first t held
    | succ s => exact ih held

theorem total_cons (set : IndexSet) (sets : List IndexSet) :
    total (set :: sets) = set.size + total sets := rfl

theorem Grows.total_le (grows : Grows before later) : total before ≤ total later := by
  induction grows with
  | nil => exact Nat.le_refl _
  | cons first _ ih => exact Nat.add_le_add (OrderedSet.size_le_of_subset first) ih

/-- Sets that grow without having more members stay as they are. -/
theorem Grows.eq_of_total (grows : Grows before later) (most : total later ≤ total before) :
    later = before := by
  induction grows with
  | nil => rfl
  | cons first rest ih =>
    have size := OrderedSet.size_le_of_subset first
    have others := Grows.total_le rest
    rw [total_cons, total_cons] at most
    rw [ih (by omega), OrderedSet.eq_of_subset first (by omega)]

theorem Grows.antisymm (grows : Grows before later) (shrinks : Grows later before) :
    later = before :=
  grows.eq_of_total shrinks.total_le

theorem Grows.set {state : Nat} {large : IndexSet}
    (held : ∀ t ∈ setOf sets state, t ∈ large) : Grows sets (sets.set state large) := by
  induction sets generalizing state with
  | nil => exact .nil
  | cons first rest ih =>
    cases state with
    | zero => exact .cons held (Grows.refl rest)
    | succ state => exact .cons (fun _ inside => inside) (ih held)

theorem mem_foldl_union (sets : List IndexSet) (nexts : List Nat) (set : IndexSet) (t : Nat) :
    t ∈ nexts.foldl (fun total next => total.union (setOf sets next)) set ↔
      t ∈ set ∨ ∃ next ∈ nexts, t ∈ setOf sets next := by
  induction nexts generalizing set with
  | nil => simp
  | cons next rest ih => simp [ih, OrderedSet.mem_union, or_assoc]

theorem setOf_set {state s : Nat} {large : IndexSet} {t : Nat}
    (held : t ∈ setOf (sets.set state large) s) :
    t ∈ setOf sets s ∨ s = state ∧ t ∈ large := by
  by_cases here : state = s
  · subst here
    by_cases inside : state < sets.length
    · rw [setOf, List.getElem?_set_self inside] at held
      exact .inr ⟨rfl, held⟩
    · rw [List.set_eq_of_length_le (by omega)] at held
      exact .inl held
  · rw [setOf, List.getElem?_set_ne here] at held
    exact .inl held

theorem widen_grows (after sets : List IndexSet) (state : Nat) :
    Grows sets (widen after sets state) :=
  Grows.set (fun _ held => (mem_foldl_union _ _ _ _).mpr (.inl held))

theorem foldl_widen_grows (after : List IndexSet) (states : List Nat) (sets : List IndexSet) :
    Grows sets (states.foldl (widen after) sets) := by
  induction states generalizing sets with
  | nil => exact Grows.refl sets
  | cons state rest ih => exact (widen_grows after sets state).trans (ih _)

/-- What a state has of a successor comes from the successor, so whatever holds backwards along
successors holds of all that is added. -/
theorem of_mem_widen {P : Nat → Nat → Prop}
    (back : ∀ s next t, next ∈ setOf after s → P next t → P s t)
    (sound : ∀ s t, t ∈ setOf sets s → P s t) (state : Nat) :
    ∀ s t, t ∈ setOf (widen after sets state) s → P s t := by
  intro s t held
  rcases setOf_set held with old | ⟨rfl, added⟩
  · exact sound s t old
  · rcases (mem_foldl_union _ _ _ _).mp added with old | ⟨next, leads, held⟩
    · exact sound s t old
    · exact back s next t leads (sound next t held)

theorem of_mem_sweep {P : Nat → Nat → Prop}
    (back : ∀ s next t, next ∈ setOf after s → P next t → P s t)
    (sound : ∀ s t, t ∈ setOf sets s → P s t) :
    ∀ s t, t ∈ setOf (sweep after sets) s → P s t := by
  rw [sweep]
  generalize ((List.range (sets.length - 1)).map (· + 1)).reverse = states
  induction states generalizing sets with
  | nil => exact sound
  | cons state rest ih => exact ih (of_mem_widen back sound state)

/-- Sets that widening leaves as they are, at some states, were not changed by any of them. -/
theorem widen_eq_of_foldl_eq {states : List Nat} (fixed : states.foldl (widen after) sets = sets)
    {state : Nat} (listed : state ∈ states) : widen after sets state = sets := by
  induction states with
  | nil => cases listed
  | cons first rest ih =>
    rw [List.foldl_cons] at fixed
    have shrinks := foldl_widen_grows after rest (widen after sets first)
    rw [fixed] at shrinks
    have same := (widen_grows after sets first).antisymm shrinks
    rcases List.mem_cons.mp listed with rfl | listed
    · exact same
    · rw [same] at fixed
      exact ih fixed listed

/-- A state other than the dead one holds what its successors hold. -/
def Closed (after sets : List IndexSet) : Prop :=
  ∀ s next t, s ≠ ScannerTable.dead → s < sets.length → next ∈ setOf after s →
    t ∈ setOf sets next → t ∈ setOf sets s

theorem closed_of_sweep_eq (fixed : sweep after sets = sets) : Closed after sets := by
  intro s next t alive inside leads held
  have listed : s ∈ ((List.range (sets.length - 1)).map (· + 1)).reverse := by
    have positive : 0 < s := Nat.pos_of_ne_zero alive
    exact List.mem_reverse.mpr (List.mem_map.mpr
      ⟨s - 1, List.mem_range.mpr (by omega), Nat.sub_add_cancel positive⟩)
  have same := widen_eq_of_foldl_eq fixed listed
  have own := congrArg (fun sets => setOf sets s) same
  simp only [widen, setOf, List.getElem?_set_self inside, Option.getD_some] at own
  rw [setOf, ← own]
  exact (mem_foldl_union _ _ _ _).mpr (.inr ⟨next, leads, held⟩)

theorem sweep_grows (after sets : List IndexSet) : Grows sets (sweep after sets) :=
  foldl_widen_grows after _ sets

theorem settle_grows (after : List IndexSet) (steps : Nat) (sets : List IndexSet) :
    Grows sets (settle after steps sets) := by
  induction steps generalizing sets with
  | zero => exact Grows.refl sets
  | succ steps ih =>
    rw [settle]
    split
    · exact Grows.refl sets
    · exact (sweep_grows after sets).trans (ih _)

theorem of_mem_settle {P : Nat → Nat → Prop}
    (back : ∀ s next t, next ∈ setOf after s → P next t → P s t) (steps : Nat)
    (sound : ∀ s t, t ∈ setOf sets s → P s t) :
    ∀ s t, t ∈ setOf (settle after steps sets) s → P s t := by
  induction steps generalizing sets with
  | zero => exact sound
  | succ steps ih =>
    rw [settle]
    split
    · exact sound
    · exact ih (of_mem_sweep back sound)

theorem total_le_of_within {members : List Nat}
    (within : ∀ s t, t ∈ setOf sets s → t ∈ members) :
    total sets ≤ sets.length * members.length := by
  induction sets with
  | nil => exact Nat.zero_le _
  | cons set rest ih =>
    have size : set.size ≤ members.length :=
      (List.subperm_of_subset set.nodup_elems (fun t held => within 0 t held)).length_le
    have others := ih (fun s t held => within (s + 1) t held)
    rw [total_cons, List.length_cons, Nat.succ_mul]
    omega

/-- As many sweeps as there are places for members are enough. -/
theorem sweep_settle {members : List Nat} {steps : Nat}
    (within : ∀ s t, t ∈ setOf sets s → t ∈ members)
    (enough : sets.length * members.length ≤ total sets + steps) :
    sweep after (settle after steps sets) = settle after steps sets := by
  induction steps generalizing sets with
  | zero =>
    have grows := sweep_grows after sets
    have within' : ∀ s t, t ∈ setOf (sweep after sets) s → t ∈ members :=
      of_mem_sweep (P := fun _ t => t ∈ members) (fun _ _ _ _ held => held) within
    have most := total_le_of_within within'
    rw [← List.Forall₂.length_eq grows] at most
    exact grows.eq_of_total (Nat.le_trans most enough)
  | succ steps ih =>
    have grows := sweep_grows after sets
    rw [settle]
    split
    · next same => exact grows.eq_of_total (Nat.le_of_eq same)
    · next differ =>
      have more := grows.total_le
      apply ih
      · exact of_mem_sweep (P := fun _ t => t ∈ members) (fun _ _ _ _ held => held) within
      · rw [← List.Forall₂.length_eq grows]
        omega

/-- A further sweep leaves the sets as they are. -/
theorem sweep_compute (rows : List (List Nat)) (accepts : List IndexSet) :
    sweep (rows.map successors) (compute rows accepts) = compute rows accepts := by
  have within : ∀ s t, t ∈ setOf accepts s → t ∈ accepts.flatMap OrderedSet.elems := by
    intro s t held
    cases found : accepts[s]? with
    | none =>
      rw [setOf, found] at held
      exact absurd held (OrderedSet.not_mem_empty t)
    | some set =>
      rw [setOf, found] at held
      exact List.mem_flatMap.mpr ⟨set, List.mem_of_getElem? found, held⟩
  have enough : accepts.length * (accepts.flatMap OrderedSet.elems).length ≤
      total accepts + accepts.length * total accepts := by
    have length : (accepts.flatMap OrderedSet.elems).length = total accepts := List.length_flatMap
    rw [length]
    exact Nat.le_add_left _ _
  exact sweep_settle within enough

/-- What may follow comes from accept sets. -/
theorem mem_of_mem_compute {rows : List (List Nat)} {accepts : List IndexSet} {members : List Nat}
    (own : ∀ set ∈ accepts, ∀ t ∈ set, t ∈ members) :
    ∀ set ∈ compute rows accepts, ∀ t ∈ set, t ∈ members := by
  have within : ∀ s t, t ∈ setOf accepts s → t ∈ members := by
    intro s t held
    rw [setOf] at held
    cases found : accepts[s]? with
    | none =>
      rw [found] at held
      exact absurd held (OrderedSet.not_mem_empty t)
    | some set =>
      rw [found, Option.getD_some] at held
      exact own set (List.mem_of_getElem? found) t held
  intro set inside t held
  obtain ⟨s, found⟩ := List.mem_iff_getElem?.mp inside
  have back : ∀ s next t, next ∈ setOf (rows.map successors) s → t ∈ members → t ∈ members :=
    fun _ _ _ _ held => held
  refine of_mem_settle (P := fun _ t => t ∈ members) back (accepts.length * total accepts) within
    s t ?_
  rw [compute] at found
  rwa [setOf, found, Option.getD_some]

/-- What may follow is kept by successors: every accepted terminal is among them, and a state other
than the dead one has those of its successors. -/
theorem compute_closed (rows : List (List Nat)) (accepts : List IndexSet) :
    Grows accepts (compute rows accepts) ∧
      Closed (rows.map successors) (compute rows accepts) :=
  ⟨settle_grows _ _ _, closed_of_sweep_eq (sweep_compute rows accepts)⟩

theorem mem_successors (rows : List (List Nat)) (s next : Nat) :
    next ∈ setOf (rows.map successors) s ↔
      next ≠ ScannerTable.dead ∧ ∃ row, rows[s]? = some row ∧ next ∈ row := by
  cases found : rows[s]? with
  | none => simp [setOf, found, OrderedSet.not_mem_empty]
  | some row =>
    simp [setOf, found, successors, OrderedSet.mem_ofList, and_comm]

section Reachable

variable {table : ScannerTable} {accepts : List IndexSet}

/-- The successors of a state are the states that bytes lead to, the dead state apart. -/
theorem successor_iff (complete : table.Complete) (s next : Nat) :
    next ∈ setOf (table.rows.map successors) s ↔
      next ≠ ScannerTable.dead ∧ ∃ b, table.next s b = next := by
  rw [mem_successors]
  refine and_congr_right (fun alive => ?_)
  constructor
  · rintro ⟨row, written, listed⟩
    obtain ⟨i, target⟩ := List.mem_iff_getElem?.mp listed
    have inside : i < 256 := by
      rw [← complete.rows row (List.mem_of_getElem? written)]
      exact (List.getElem?_eq_some_iff.mp target).1
    have place : (UInt8.ofNat i).toNat = i := UInt8.toNat_ofNat_of_lt inside
    exact ⟨UInt8.ofNat i, ScannerTable.next_eq written (place.symm ▸ target)⟩
  · rintro ⟨b, rfl⟩
    cases written : table.rows[s]? with
    | none =>
      rw [ScannerTable.next, written] at alive
      exact absurd rfl alive
    | some row =>
      obtain ⟨k, target, _⟩ := complete.exists_target (List.mem_of_getElem? written) b
      rw [ScannerTable.next_eq written target]
      exact ⟨row, rfl, List.mem_of_getElem? target⟩

theorem foldl_next_dead (complete : table.Complete) (text : List UInt8) :
    text.foldl table.next ScannerTable.dead = ScannerTable.dead := by
  induction text with
  | nil => rfl
  | cons b rest ih => rw [List.foldl_cons, complete.next_dead, ih]

/-- What may still follow in a state is what is accepted in some state that bytes lead to from it. -/
theorem mem_compute (complete : table.Complete) (length : accepts.length = table.size)
    (silent : accepts[ScannerTable.dead]? = some ∅) (s t : Nat) :
    t ∈ setOf (compute table.rows accepts) s ↔
      ∃ text : List UInt8, t ∈ setOf accepts (text.foldl table.next s) := by
  have sound : ∀ s t, t ∈ setOf (compute table.rows accepts) s →
      ∃ text : List UInt8, t ∈ setOf accepts (text.foldl table.next s) := by
    apply of_mem_settle
    · rintro s next t leads ⟨text, held⟩
      obtain ⟨_, b, rfl⟩ := (successor_iff complete s next).mp leads
      exact ⟨b :: text, held⟩
    · exact fun s t held => ⟨[], held⟩
  obtain ⟨grows, closed⟩ := compute_closed table.rows accepts
  refine ⟨sound s t, ?_⟩
  rintro ⟨text, held⟩
  induction text generalizing s with
  | nil => exact grows.mem held
  | cons b rest ih =>
    have later := ih (table.next s b) held
    -- Nothing follows in the dead state, so the byte leads to a state that is swept.
    have alive : table.next s b ≠ ScannerTable.dead := by
      intro dead
      rw [dead] at later
      obtain ⟨text, held⟩ := sound _ t later
      rw [foldl_next_dead complete, setOf, silent] at held
      exact OrderedSet.not_mem_empty t held
    have origin : s ≠ ScannerTable.dead := by
      rintro rfl
      exact alive (complete.next_dead b)
    have inside : s < (compute table.rows accepts).length := by
      rw [← List.Forall₂.length_eq grows, length]
      by_contra outside
      rw [ScannerTable.next, List.getElem?_eq_none (Nat.le_of_not_lt outside)] at alive
      exact alive rfl
    exact closed s _ t origin inside ((successor_iff complete s _).mpr ⟨alive, b, rfl⟩) later

end Reachable

end PossibleSets

end ParserSplice
