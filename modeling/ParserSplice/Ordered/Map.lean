import ParserSplice.Ordered.Set

set_option autoImplicit false

namespace ParserSplice

def KeysAscend {β : Type} (entries : List (Nat × β)) : Prop :=
  entries.Pairwise (fun a b => a.1 < b.1)

instance {β : Type} (entries : List (Nat × β)) : Decidable (KeysAscend entries) :=
  inferInstanceAs (Decidable (entries.Pairwise _))

/-- A finite map from numbers, as its entries in ascending order of keys. -/
structure OrderedMap (β : Type) where
  entries : List (Nat × β)
  ascending : KeysAscend entries
deriving DecidableEq

namespace OrderedMap

variable {β γ : Type}

def place (key : Nat) (value : β) : List (Nat × β) → List (Nat × β)
  | [] => [(key, value)]
  | (other, old) :: rest =>
    if key < other then (key, value) :: (other, old) :: rest
    else if key = other then (key, value) :: rest
    else (other, old) :: place key value rest

theorem key_of_mem_place (key : Nat) (value : β) (entry : Nat × β) (entries : List (Nat × β))
    (inside : entry ∈ place key value entries) : entry.1 = key ∨ entry ∈ entries := by
  induction entries with
  | nil => simp_all [place]
  | cons first rest ih => grind [place]

theorem ascending_place (key : Nat) (value : β) (entries : List (Nat × β))
    (sorted : KeysAscend entries) : KeysAscend (place key value entries) := by
  induction entries with
  | nil => simp [place, KeysAscend]
  | cons first rest ih =>
    obtain ⟨other, old⟩ := first
    have below := List.pairwise_cons.mp sorted
    unfold place
    split
    · next less =>
      refine List.pairwise_cons.mpr ⟨fun entry inside => ?_, sorted⟩
      rcases List.mem_cons.mp inside with rfl | later
      · exact less
      · exact Nat.lt_trans less (below.1 entry later)
    · split
      · next same =>
        subst same
        exact List.pairwise_cons.mpr ⟨below.1, below.2⟩
      · refine List.pairwise_cons.mpr ⟨fun entry inside => ?_, ih below.2⟩
        rcases key_of_mem_place key value entry rest inside with same | later
        · simp only [same]; omega
        · exact below.1 entry later

def empty : OrderedMap β := ⟨[], List.Pairwise.nil⟩

instance : EmptyCollection (OrderedMap β) := ⟨empty⟩
instance : Inhabited (OrderedMap β) := ⟨empty⟩

def insert (key : Nat) (value : β) (m : OrderedMap β) : OrderedMap β :=
  ⟨place key value m.entries, ascending_place key value m.entries m.ascending⟩

def get? (m : OrderedMap β) (key : Nat) : Option β := m.entries.lookup key

def contains (m : OrderedMap β) (key : Nat) : Bool := (m.get? key).isSome

theorem get?_insert (key other : Nat) (value : β) (m : OrderedMap β) :
    (m.insert key value).get? other = if other = key then some value else m.get? other := by
  obtain ⟨entries, sorted⟩ := m
  simp only [insert, get?]
  clear sorted
  induction entries with
  | nil =>
    by_cases same : other = key
    · simp [place, same]
    · simp [place, List.lookup_cons, same, beq_false_of_ne same]
  | cons first rest ih =>
    obtain ⟨k, old⟩ := first
    grind [place]

/-- Sets the value at a key that has none, and otherwise changes nothing. -/
def insertNew (key : Nat) (value : β) (m : OrderedMap β) : OrderedMap β :=
  if m.contains key then m else m.insert key value

theorem get?_insertNew (key other : Nat) (value : β) (m : OrderedMap β) :
    (m.insertNew key value).get? other =
      if other = key then some ((m.get? key).getD value) else m.get? other := by
  unfold insertNew contains
  cases found : m.get? key with
  | none => simp [get?_insert]
  | some old =>
    by_cases same : other = key
    · subst same; simp [found]
    · simp [same]

/-- The map with these entries. Of two entries with one key the later one holds. -/
def ofList (entries : List (Nat × β)) : OrderedMap β :=
  entries.foldr (fun entry m => m.insertNew entry.1 entry.2) empty

theorem ascending_keys (m : OrderedMap β) : Ascending (m.entries.map Prod.fst) := by
  have sorted := m.ascending
  simp only [Ascending, Ranked.rank, List.pairwise_map]
  exact sorted

def keys (m : OrderedMap β) : IndexSet := ⟨m.entries.map Prod.fst, m.ascending_keys⟩

def size (m : OrderedMap β) : Nat := m.entries.length

def map (f : β → γ) (m : OrderedMap β) : OrderedMap γ where
  entries := m.entries.map (fun entry => (entry.1, f entry.2))
  ascending := by
    have sorted := m.ascending
    simp only [KeysAscend, List.pairwise_map]
    exact sorted

end OrderedMap

end ParserSplice
