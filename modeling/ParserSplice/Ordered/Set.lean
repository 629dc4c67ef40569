set_option autoImplicit false

namespace ParserSplice

/-- A type whose values are told apart, and ordered, by a number. -/
class Ranked (α : Type) where
  rank : α → Nat
  rank_injective : ∀ a b, rank a = rank b → a = b

instance : Ranked Nat := ⟨id, fun _ _ same => same⟩

open Ranked (rank rank_injective)

/-- Each rank is below every later one. -/
def Ascending {α : Type} [Ranked α] (items : List α) : Prop :=
  items.Pairwise (fun a b => rank a < rank b)

instance {α : Type} [Ranked α] (items : List α) : Decidable (Ascending items) :=
  inferInstanceAs (Decidable (items.Pairwise _))

/-- A finite set as the ascending list of its members. -/
structure OrderedSet (α : Type) [Ranked α] where
  elems : List α
  ascending : Ascending elems
deriving DecidableEq

/-- A set of symbol, production, state or column numbers. -/
abbrev IndexSet := OrderedSet Nat

namespace OrderedSet

variable {α : Type} [Ranked α]

/-- Puts a value at its place in an ascending list, unless it is there already. -/
def place (a : α) : List α → List α
  | [] => [a]
  | b :: rest =>
    if rank a < rank b then a :: b :: rest
    else if rank a = rank b then b :: rest
    else b :: place a rest

theorem mem_place (a x : α) (items : List α) : x ∈ place a items ↔ x = a ∨ x ∈ items := by
  induction items with
  | nil => simp [place]
  | cons b rest ih =>
    unfold place
    split
    · simp
    · split
      · next same =>
        have : a = b := rank_injective a b same
        subst this
        simp
      · simp only [List.mem_cons, ih]
        exact or_left_comm

theorem ascending_place (a : α) (items : List α) (sorted : Ascending items) :
    Ascending (place a items) := by
  induction items with
  | nil => simp [place, Ascending]
  | cons b rest ih =>
    have below := List.pairwise_cons.mp sorted
    unfold place
    split
    · next less =>
      refine List.pairwise_cons.mpr ⟨fun c inside => ?_, sorted⟩
      rcases List.mem_cons.mp inside with rfl | later
      · exact less
      · exact Nat.lt_trans less (below.1 c later)
    · split
      · exact sorted
      · refine List.pairwise_cons.mpr ⟨fun c inside => ?_, ih below.2⟩
        rcases (mem_place a c rest).mp inside with rfl | later
        · omega
        · exact below.1 c later

def empty : OrderedSet α := ⟨[], List.Pairwise.nil⟩

instance : EmptyCollection (OrderedSet α) := ⟨empty⟩
instance : Inhabited (OrderedSet α) := ⟨empty⟩

instance : Membership α (OrderedSet α) := ⟨fun s a => a ∈ s.elems⟩

def insert (a : α) (s : OrderedSet α) : OrderedSet α :=
  ⟨place a s.elems, ascending_place a s.elems s.ascending⟩

theorem mem_insert (a x : α) (s : OrderedSet α) : x ∈ s.insert a ↔ x = a ∨ x ∈ s :=
  mem_place a x s.elems

def ofList (items : List α) : OrderedSet α := items.foldr insert empty

theorem mem_ofList (x : α) (items : List α) : x ∈ ofList items ↔ x ∈ items := by
  induction items with
  | nil => simp [ofList, Membership.mem, empty]
  | cons a rest ih =>
    have step : ofList (a :: rest) = (ofList rest).insert a := rfl
    rw [step, mem_insert, ih, List.mem_cons]

def union (s t : OrderedSet α) : OrderedSet α := t.elems.foldr insert s

def size (s : OrderedSet α) : Nat := s.elems.length

/-- Whether the set has no member. -/
def isEmpty (s : OrderedSet α) : Bool := s.elems.isEmpty

variable [BEq α]

def contains (s : OrderedSet α) (a : α) : Bool := s.elems.contains a

theorem contains_iff_mem [LawfulBEq α] (s : OrderedSet α) (a : α) :
    s.contains a = true ↔ a ∈ s := by
  simp only [contains, List.contains_iff_mem, Membership.mem]

end OrderedSet

/-- One past the highest member: the length of a dense list indexed by the set. The number is exact;
`Sized.span` is the one that is held in 64 bits. -/
def OrderedSet.span (s : IndexSet) : Nat :=
  match s.elems.getLast? with
  | none => 0
  | some highest => highest + 1

end ParserSplice
