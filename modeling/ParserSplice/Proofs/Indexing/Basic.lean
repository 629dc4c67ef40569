import ParserSplice.Error
import ParserSplice.Proofs.Traversal

set_option autoImplicit false

namespace ParserSplice.Indexed

/-- Why a run stops: it reports an error, or a list does not have a place. -/
inductive Stop where
  | reported (fault : CompositionError)
  | outOfRange
deriving DecidableEq

variable {α β γ σ : Type}

/-- The run that ends as another one does. -/
def lift (outcome : Except CompositionError α) : Except Stop α := outcome.mapError .reported

@[simp] theorem lift_ok (value : α) : lift (.ok value) = .ok value := rfl

@[simp] theorem lift_error (fault : CompositionError) :
    lift (.error fault : Except CompositionError α) = .error (.reported fault) := rfl

theorem lift_ne_outOfRange (outcome : Except CompositionError α) :
    lift outcome ≠ .error .outOfRange := by
  cases outcome <;> simp

@[simp] theorem lift_bind (first : Except CompositionError α)
    (next : α → Except CompositionError β) :
    lift (first >>= next) = (lift first >>= fun value => lift (next value)) := by
  cases first <;> rfl

/-- A lifted run ends with the errors of the other run. -/
theorem lift_eq_error_iff (outcome : Except CompositionError α) (stop : Stop) :
    lift outcome = .error stop ↔ ∃ fault, stop = .reported fault ∧ outcome = .error fault := by
  cases outcome with
  | error fault =>
    rw [lift_error, Except.error.injEq]
    exact ⟨fun same => ⟨fault, same.symm, rfl⟩, fun given => by
      obtain ⟨_, rfl, same⟩ := given
      rw [Except.error.inj same]⟩
  | ok value => simp

@[simp] theorem lift_pure (value : α) : lift (pure value) = pure value := rfl

@[simp] theorem ok_bind (value : α) (next : α → Except Stop β) :
    ((Except.ok value : Except Stop α) >>= next) = next value := rfl

/-- What follows on a lifted run only matters for values that the run has. -/
theorem lift_bind_congr {first : Except CompositionError α} {next other : α → Except Stop β}
    (same : ∀ value, first = .ok value → next value = other value) :
    (lift first >>= next) = (lift first >>= other) := by
  cases first with
  | error fault => rfl
  | ok value => exact same value rfl

def fetch (items : List α) (place : Nat) : Except Stop α :=
  match items[place]? with
  | some item => .ok item
  | none => .error .outOfRange

def change (items : List α) (place : Nat) (new : α → Except Stop α) : Except Stop (List α) := do
  let item ← fetch items place
  let changed ← new item
  return items.set place changed

theorem fetch_eq {items : List α} {place : Nat} {item : α} (found : items[place]? = some item) :
    fetch items place = .ok item := by
  rw [fetch, found]

theorem change_eq {items : List α} {place : Nat} {item changed : α} {new : α → Except Stop α}
    (found : items[place]? = some item) (made : new item = .ok changed) :
    change items place new = .ok (items.set place changed) := by
  simp only [change, fetch_eq found, ok_bind, made]
  rfl

/-- A change that computes a new item from the old one modifies it. -/
theorem change_pure {items : List α} {place : Nat} (inside : place < items.length) (new : α → α) :
    change items place (fun item => .ok (new item)) = .ok (items.modify place new) := by
  have made : (fun item => (.ok (new item) : Except Stop α)) items[place] = .ok (new items[place]) :=
    rfl
  rw [change_eq (List.getElem?_eq_getElem inside) made, List.modify_eq_set_get new inside]
  rfl

theorem mapM_congr {step other : α → Except Stop β} {items : List α}
    (same : ∀ item ∈ items, step item = other item) : items.mapM step = items.mapM other := by
  induction items with
  | nil => rfl
  | cons item rest ih =>
    obtain ⟨first, others⟩ := List.forall_mem_cons.mp same
    rw [List.mapM_cons, List.mapM_cons, first, ih others]

theorem foldlM_congr {step other : σ → α → Except Stop σ} {items : List α}
    (same : ∀ item ∈ items, ∀ s, step s item = other s item) (s : σ) :
    items.foldlM step s = items.foldlM other s := by
  induction items generalizing s with
  | nil => rfl
  | cons item rest ih =>
    obtain ⟨first, others⟩ := List.forall_mem_cons.mp same
    rw [List.foldlM_cons, List.foldlM_cons, first]
    exact congrArg (other s item >>= ·) (funext (ih others))

theorem lift_mapM (step : α → Except CompositionError β) (items : List α) :
    lift (items.mapM step) = items.mapM (fun item => lift (step item)) := by
  induction items with
  | nil => rfl
  | cons item rest ih => simp only [List.mapM_cons, lift_bind, ih, lift_pure]

theorem mapM_ok {step : α → Except Stop β} {compute : α → β} {items : List α}
    (each : ∀ item ∈ items, step item = .ok (compute item)) :
    items.mapM step = .ok (items.map compute) := by
  induction items with
  | nil => rfl
  | cons item rest ih =>
    obtain ⟨first, others⟩ := List.forall_mem_cons.mp each
    rw [List.mapM_cons, first, ok_bind, ih others]
    rfl

/-- Looking up places that are all there. -/
theorem mapM_fetch {items : List α} {places : List Nat}
    (inside : ∀ place ∈ places, place < items.length) :
    places.mapM (fetch items) = .ok (places.filterMap (fun place => items[place]?)) := by
  induction places with
  | nil => rfl
  | cons place rest ih =>
    obtain ⟨first, others⟩ := List.forall_mem_cons.mp inside
    have found := List.getElem?_eq_getElem first
    rw [List.mapM_cons, fetch_eq found, ok_bind, ih others, List.filterMap_cons_some found]
    rfl

/-- A fold whose steps try something and then update the state is the fold of the updates over what
was tried, as long as an update keeps what the steps rely on. -/
theorem foldlM_eq {P : σ → Prop} {step : σ → α → Except Stop σ}
    {attempt : α → Except CompositionError β} {update : σ → β → σ}
    (keeps : ∀ s result, P s → P (update s result)) {items : List α}
    (each : ∀ s, P s → ∀ item ∈ items,
      step s item = (lift (attempt item) >>= fun result => .ok (update s result)))
    {s : σ} (start : P s) : items.foldlM step s =
      (lift (items.mapM attempt) >>= fun results => .ok (results.foldl update s)) := by
  induction items generalizing s with
  | nil => rfl
  | cons item rest ih =>
    have first := each s start item List.mem_cons_self
    have others := fun s held other inside => each s held other (List.mem_cons_of_mem _ inside)
    rw [List.foldlM_cons, first, List.mapM_cons]
    cases tried : attempt item with
    | error fault => rfl
    | ok result =>
      simp only [lift_ok, ok_bind, lift_bind, lift_pure, bind_assoc]
      rw [ih others (keeps s result start)]
      rfl

end ParserSplice.Indexed
