set_option autoImplicit false

namespace ParserSplice

/-- A set of numbers as inclusive ranges. -/
structure RangeSet where
  ranges : List (Nat × Nat) := []
deriving DecidableEq, Repr, Inhabited

namespace RangeSet

/-- Only the first ranges and their number are hashed, which is enough to tell most sets apart. -/
instance : Hashable RangeSet := ⟨fun s => hash (s.ranges.length, s.ranges.take 3)⟩

def contains (s : RangeSet) (n : Nat) : Bool :=
  s.ranges.any (fun r => decide (r.1 ≤ n) && decide (n ≤ r.2))

/-- Whether the set has no member. -/
def isEmpty (s : RangeSet) : Bool := s.ranges.isEmpty

/-- Joins ranges that overlap or touch. The ranges come in ascending order of their first number. -/
def join : List (Nat × Nat) → List (Nat × Nat)
  | [] => []
  | [r] => [r]
  | r :: q :: rest =>
    if q.1 ≤ r.2 + 1 then join ((r.1, max r.2 q.2) :: rest) else r :: join (q :: rest)
termination_by ranges => ranges.length

/-- The set of all numbers in some range; a range that ends before it starts is empty. -/
def ofRanges (ranges : List (Nat × Nat)) : RangeSet :=
  ⟨join ((ranges.filter (fun r => decide (r.1 ≤ r.2))).mergeSort
    (fun a b => decide (a.1 ≤ b.1)))⟩

/-- The numbers from `first` to `last`. -/
def interval (first last : Nat) : RangeSet := ofRanges [(first, last)]

def ofList (items : List Nat) : RangeSet := ofRanges (items.map (fun n => (n, n)))

def union (s t : RangeSet) : RangeSet := ofRanges (s.ranges ++ t.ranges)

/-- The part that two ranges share, which may end before it starts. -/
def overlap (r q : Nat × Nat) : Nat × Nat := (max r.1 q.1, min r.2 q.2)

def inter (s t : RangeSet) : RangeSet :=
  ofRanges (s.ranges.flatMap (fun r => t.ranges.map (overlap r)))

/-- What a range keeps when another one is taken out of it. -/
def cut (q r : Nat × Nat) : List (Nat × Nat) :=
  if r.2 < q.1 || q.2 < r.1 then [r]
  else (if r.1 < q.1 then [(r.1, q.1 - 1)] else []) ++
    (if q.2 < r.2 then [(q.2 + 1, r.2)] else [])

/-- All numbers of the first set that are not in the second. -/
def difference (s t : RangeSet) : RangeSet :=
  ofRanges (t.ranges.foldl (fun kept q => kept.flatMap (cut q)) s.ranges)

def symmetricDifference (s t : RangeSet) : RangeSet :=
  (s.difference t).union (t.difference s)

/-- The members from `start` to `start + size - 1`, counted from `start`. -/
def window (s : RangeSet) (start size : Nat) : RangeSet :=
  ⟨s.ranges.filterMap (fun r =>
    let low := max r.1 start
    let high := min r.2 (start + size - 1)
    if low ≤ high then some (low - start, high - start) else none)⟩

end RangeSet

end ParserSplice
