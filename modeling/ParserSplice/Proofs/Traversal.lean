import Mathlib.Data.List.Forall2

set_option autoImplicit false

namespace ParserSplice

variable {ε α β : Type}

theorem bind_eq_ok_iff (first : Except ε α) (next : α → Except ε β) (result : β) :
    (first >>= next) = .ok result ↔ ∃ value, first = .ok value ∧ next value = .ok result := by
  cases first with
  | error fault => simp [bind, Except.bind]
  | ok value => simp [bind, Except.bind]

/-- A step fails if its first part does, or what follows on the value of the first part. -/
theorem bind_eq_error_iff (first : Except ε α) (next : α → Except ε β) (fault : ε) :
    (first >>= next) = .error fault ↔
      first = .error fault ∨ ∃ value, first = .ok value ∧ next value = .error fault := by
  cases first with
  | error other => simp [bind, Except.bind]
  | ok value => simp [bind, Except.bind]

theorem exists_bind_iff (first : Except ε α) (next : α → Except ε β) :
    (∃ result, (first >>= next) = .ok result) ↔
      ∃ value, first = .ok value ∧ ∃ result, next value = .ok result := by
  simp only [bind_eq_ok_iff]
  constructor
  · intro given
    obtain ⟨result, value, done, later⟩ := given
    exact ⟨value, done, result, later⟩
  · intro given
    obtain ⟨value, done, result, later⟩ := given
    exact ⟨result, value, done, later⟩

theorem exists_unless_iff (refused : Bool) (fault : ε) (next : Except ε α) :
    (∃ result, (if refused then .error fault else next) = .ok result) ↔
      refused = false ∧ ∃ result, next = .ok result := by
  cases refused <;> simp

theorem pure_eq_ok_iff (value result : α) :
    (pure value : Except ε α) = .ok result ↔ value = result := by
  simp [pure, Except.pure]

theorem eq_ok_of_isOk (default : α) {outcome : Except ε α} (succeeded : outcome.isOk = true) :
    outcome = .ok (outcome.toOption.getD default) := by
  cases outcome with
  | error fault => cases succeeded
  | ok value => rfl

theorem exists_bind_pure_iff (first : Except ε α) (wrap : α → β) (holds : β → Prop) :
    (∃ result, (do let value ← first; return wrap value) = .ok result ∧ holds result) ↔
      ∃ value, first = .ok value ∧ holds (wrap value) := by
  cases first with
  | error fault => simp [bind, Except.bind]
  | ok value => simp [bind, Except.bind, pure_eq_ok_iff]

/-- A successful run relates each item to the result in its place. -/
theorem mapM_eq_ok_iff (step : α → Except ε β) (items : List α) (results : List β) :
    items.mapM step = .ok results ↔
      List.Forall₂ (fun item result => step item = .ok result) items results := by
  induction items generalizing results with
  | nil =>
    rw [List.mapM_nil, pure_eq_ok_iff, List.forall₂_nil_left_iff]
    exact eq_comm
  | cons item rest ih =>
    rw [List.mapM_cons, bind_eq_ok_iff, List.forall₂_cons_left_iff]
    constructor
    · intro given
      obtain ⟨result, done, others⟩ := given
      obtain ⟨later, run, same⟩ := (bind_eq_ok_iff _ _ _).mp others
      exact ⟨result, later, done, (ih later).mp run, ((pure_eq_ok_iff _ _).mp same).symm⟩
    · intro given
      obtain ⟨result, later, done, run, rfl⟩ := given
      refine ⟨result, done, (bind_eq_ok_iff _ _ _).mpr ⟨later, (ih later).mpr run, ?_⟩⟩
      exact (pure_eq_ok_iff _ _).mpr rfl

/-- A run whose steps only check their items and then compute. -/
theorem mapM_eq_ok_iff_map {step : α → Except ε β} {fits : α → Prop} {compute : α → β}
    {items : List α} (results : List β)
    (spec : ∀ item ∈ items, ∀ result, step item = .ok result ↔ fits item ∧ compute item = result) :
    items.mapM step = .ok results ↔ (∀ item ∈ items, fits item) ∧ items.map compute = results := by
  rw [mapM_eq_ok_iff]
  induction items generalizing results with
  | nil => simp [eq_comm]
  | cons item rest ih =>
    obtain ⟨first, others⟩ := List.forall_mem_cons.mp spec
    rw [List.forall₂_cons_left_iff, List.forall_mem_cons, List.map_cons]
    constructor
    · intro given
      obtain ⟨result, later, done, run, rfl⟩ := given
      obtain ⟨fits, rfl⟩ := (first result).mp done
      obtain ⟨each, rfl⟩ := (ih later others).mp run
      exact ⟨⟨fits, each⟩, rfl⟩
    · intro given
      obtain ⟨⟨fits, each⟩, rfl⟩ := given
      exact ⟨_, _, (first _).mpr ⟨fits, rfl⟩, (ih _ others).mpr ⟨each, rfl⟩, rfl⟩

theorem exists_mapM_iff (step : α → Except ε β) (items : List α) :
    (∃ results, items.mapM step = .ok results) ↔
      ∀ item ∈ items, ∃ result, step item = .ok result := by
  induction items with
  | nil => exact ⟨fun _ _ inside => absurd inside List.not_mem_nil, fun _ => ⟨[], rfl⟩⟩
  | cons item rest ih =>
    simp only [mapM_eq_ok_iff, List.forall₂_cons_left_iff] at ih ⊢
    rw [List.forall_mem_cons, ← ih]
    constructor
    · intro given
      obtain ⟨_, result, later, done, run, rfl⟩ := given
      exact ⟨⟨result, done⟩, later, run⟩
    · intro given
      obtain ⟨⟨result, done⟩, later, run⟩ := given
      exact ⟨result :: later, result, later, done, run, rfl⟩

/-- A run fails at the first of its steps that does. -/
theorem mapM_eq_error_iff (step : α → Except ε β) (items : List α) (fault : ε) :
    items.mapM step = .error fault ↔ ∃ front item rest, items = front ++ item :: rest ∧
      (∀ other ∈ front, ∃ result, step other = .ok result) ∧ step item = .error fault := by
  induction items with
  | nil => simp [pure, Except.pure]
  | cons first rest ih =>
    rw [List.mapM_cons, bind_eq_error_iff]
    constructor
    · intro failed
      rcases failed with own | ⟨result, done, later⟩
      · exact ⟨[], first, rest, rfl, fun _ inside => absurd inside List.not_mem_nil, own⟩
      · rw [bind_eq_error_iff] at later
        rcases later with others | ⟨_, _, finished⟩
        · obtain ⟨front, item, behind, rfl, passed, own⟩ := ih.mp others
          have passed := List.forall_mem_cons.mpr ⟨⟨result, done⟩, passed⟩
          exact ⟨first :: front, item, behind, rfl, passed, own⟩
        · cases finished
    · intro given
      obtain ⟨front, item, behind, split, passed, own⟩ := given
      cases front with
      | nil =>
        obtain ⟨rfl, rfl⟩ := List.cons.inj split
        exact Or.inl own
      | cons _ front =>
        obtain ⟨rfl, rfl⟩ := List.cons.inj split
        obtain ⟨⟨result, done⟩, passed⟩ := List.forall_mem_cons.mp passed
        have others := ih.mpr ⟨front, item, behind, rfl, passed, own⟩
        exact Or.inr ⟨result, done, (bind_eq_error_iff _ _ _).mpr (Or.inl others)⟩

/-- A run whose steps succeed or fail by a part of their items. -/
theorem mapM_eq_error_iff_map {γ : Type} {step : α → Except ε β} {fault : ε} {part : α → γ}
    {passes fails : γ → Prop} (ok_iff : ∀ item, (∃ result, step item = .ok result) ↔
      passes (part item)) (error_iff : ∀ item, step item = .error fault ↔ fails (part item))
    (items : List α) : items.mapM step = .error fault ↔ ∃ front first rest,
      items.map part = front ++ first :: rest ∧ (∀ other ∈ front, passes other) ∧ fails first := by
  rw [mapM_eq_error_iff]
  constructor
  · intro given
    obtain ⟨front, item, rest, rfl, passed, own⟩ := given
    refine ⟨front.map part, part item, rest.map part, ?_, ?_, (error_iff item).mp own⟩
    · rw [List.map_append, List.map_cons]
    · exact List.forall_mem_map.mpr (fun other before => (ok_iff other).mp (passed other before))
  · intro given
    obtain ⟨_, _, _, split, passed, own⟩ := given
    obtain ⟨front, others, rfl, rfl, behind⟩ := List.map_eq_append_iff.mp split
    obtain ⟨item, rest, rfl, rfl, rfl⟩ := List.map_eq_cons_iff.mp behind
    refine ⟨front, item, rest, rfl, fun other before => ?_, (error_iff item).mpr own⟩
    exact (ok_iff other).mpr (passed _ (List.mem_map_of_mem before))

theorem exists_error_of_mapM {step : α → Except ε β} {items : List α} {fault : ε}
    (failed : items.mapM step = .error fault) : ∃ item ∈ items, step item = .error fault := by
  obtain ⟨_, item, _, rfl, _, own⟩ := (mapM_eq_error_iff step items fault).mp failed
  exact ⟨item, List.mem_append_right _ List.mem_cons_self, own⟩

theorem forM_eq_ok_iff (step : α → Except ε Unit) (items : List α) :
    items.forM step = .ok () ↔ ∀ item ∈ items, step item = .ok () := by
  induction items with
  | nil => exact ⟨fun _ _ inside => absurd inside List.not_mem_nil, fun _ => rfl⟩
  | cons item rest ih =>
    have unfolded : (item :: rest).forM step = (step item >>= fun _ => rest.forM step) := rfl
    rw [unfolded, bind_eq_ok_iff, List.forall_mem_cons, ih]
    exact ⟨fun ⟨_, done, run⟩ => ⟨done, run⟩, fun ⟨done, run⟩ => ⟨(), done, run⟩⟩

variable {R : α → β → Prop} {items : List α} {results : List β}

theorem exists_result_of_mem (paired : List.Forall₂ R items results) (item : α)
    (inside : item ∈ items) : ∃ result ∈ results, R item result := by
  induction paired with
  | nil => cases inside
  | cons first rest ih =>
    rcases List.mem_cons.mp inside with rfl | later
    · exact ⟨_, List.mem_cons_self, first⟩
    · obtain ⟨result, found, related⟩ := ih later
      exact ⟨result, List.mem_cons_of_mem _ found, related⟩

theorem exists_item_of_mem (paired : List.Forall₂ R items results) (result : β)
    (inside : result ∈ results) : ∃ item ∈ items, R item result := by
  obtain ⟨item, found, related⟩ := exists_result_of_mem paired.flip result inside
  exact ⟨item, found, related⟩

theorem exists_result_of_getElem? (paired : List.Forall₂ R items results) (place : Nat) (item : α)
    (found : items[place]? = some item) :
    ∃ result, results[place]? = some result ∧ R item result := by
  induction paired generalizing place with
  | nil => simp at found
  | cons first rest ih =>
    cases place with
    | zero =>
      obtain rfl : _ = item := by simpa using found
      exact ⟨_, rfl, first⟩
    | succ place => simpa using ih place (by simpa using found)

section Options

variable {f : α → Option β}

theorem mapM_option_of_forall₂ {items : List α} {results : List β}
    (paired : List.Forall₂ (fun item result => f item = some result) items results) :
    items.mapM f = some results := by
  induction paired with
  | nil => rfl
  | cons first rest ih => simp [List.mapM_cons, first, ih]

theorem exists_forall₂_option (items : List α)
    (each : ∀ item ∈ items, ∃ result, f item = some result) :
    ∃ results, List.Forall₂ (fun item result => f item = some result) items results := by
  induction items with
  | nil => exact ⟨[], .nil⟩
  | cons item rest ih =>
    obtain ⟨result, found⟩ := each item List.mem_cons_self
    obtain ⟨results, paired⟩ := ih (fun other inside => each other (List.mem_cons_of_mem _ inside))
    exact ⟨result :: results, .cons found paired⟩

theorem nodup_of_forall₂_option {items : List α} {results : List β}
    (paired : List.Forall₂ (fun item result => f item = some result) items results)
    (injective : ∀ a b result, f a = some result → f b = some result → a = b)
    (distinct : items.Nodup) : results.Nodup := by
  induction paired with
  | nil => exact List.nodup_nil
  | cons first rest ih =>
    rw [List.nodup_cons] at distinct ⊢
    refine ⟨fun again => ?_, ih distinct.2⟩
    obtain ⟨other, inside, found⟩ := exists_item_of_mem rest _ again
    rw [injective _ _ _ first found] at distinct
    exact distinct.1 inside

end Options

/-- The running maximum of numbers bounds all of them and is among them or is the start. -/
theorem foldl_max_spec (start : Nat) (numbers : List Nat) :
    start ≤ numbers.foldl max start ∧ (∀ n ∈ numbers, n ≤ numbers.foldl max start) ∧
      (numbers.foldl max start = start ∨ numbers.foldl max start ∈ numbers) := by
  induction numbers generalizing start with
  | nil => simp
  | cons first rest ih =>
    obtain ⟨above, bound, attained⟩ := ih (max start first)
    rw [List.foldl_cons]
    refine ⟨by omega, List.forall_mem_cons.mpr ⟨by omega, bound⟩, ?_⟩
    rcases attained with same | inside
    · rcases Nat.le_total first start with small | large
      · exact Or.inl (same.trans (Nat.max_eq_left small))
      · refine Or.inr (List.mem_cons.mpr (Or.inl ?_))
        exact same.trans (Nat.max_eq_right large)
    · exact Or.inr (List.mem_cons_of_mem _ inside)

theorem foldl_max_congr (start : Nat) {first second : List Nat}
    (same : ∀ n, n ∈ first ↔ n ∈ second) : first.foldl max start = second.foldl max start := by
  obtain ⟨above, bound, attained⟩ := foldl_max_spec start first
  obtain ⟨above', bound', attained'⟩ := foldl_max_spec start second
  apply Nat.le_antisymm
  · rcases attained with atStart | inside
    · omega
    · exact bound' _ ((same _).mp inside)
  · rcases attained' with atStart | inside
    · omega
    · exact bound _ ((same _).mpr inside)

end ParserSplice
