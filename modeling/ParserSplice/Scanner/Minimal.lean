import Std.Data.HashMap
import ParserSplice.Scanner.Library

set_option autoImplicit false

namespace ParserSplice.Minimal

/-- For each item the place of the first item equal to it. -/
def firstEqual {κ : Type} [BEq κ] [Hashable κ] (items : List κ) : List Nat :=
  go ∅ 0 items
where
  /-- The places of the items from a place on, given the first places of the items before. -/
  go (places : Std.HashMap κ Nat) (place : Nat) : List κ → List Nat
    | [] => []
    | item :: rest =>
      match places[item]? with
      | some first => first :: go places (place + 1) rest
      | none => place :: go (places.insert item place) (place + 1) rest

def groupOf (groups : Array Nat) (state : Nat) : Nat := groups[state]?.getD 0

def refine (rows : List (List Nat)) (groups : List Nat) : List Nat :=
  let table := groups.toArray
  firstEqual (List.zipWith (fun group row => group :: row.map (groupOf table)) groups rows)

def count (groups : List Nat) : Nat :=
  (groups.zipIdx.filter (fun entry => entry.1 == entry.2)).length

/-- Splits groups until none is split any more; there are at most as many groups as states. -/
def settle (rows : List (List Nat)) : Nat → List Nat → List Nat
  | 0, groups => groups
  | steps + 1, groups =>
    let next := refine rows groups
    if count next = count groups then groups else settle rows steps next

/-- The groups of the states of a table whose states are told apart by keys at first. -/
def groups {κ : Type} [BEq κ] [Hashable κ] (keys : List κ) (rows : List (List Nat)) : List Nat :=
  settle rows rows.length (firstEqual keys)

/-- The automaton whose states are the first states of groups. The start state keeps its own number
even if it is in the group of the dead state. -/
def automaton (rows : List (List Nat)) (groups : List Nat) (accepts : List IndexSet) :
    Automaton Nat :=
  let table := (rows.map List.toArray).toArray
  let leaders := groups.toArray
  let sets := accepts.toArray
  { start := 1
    step := fun state b =>
      groupOf leaders (((table[state]?).bind (fun row => row[b.toNat]?)).getD ScannerTable.dead)
    stuck := fun state => state == ScannerTable.dead
    accepts := fun state => sets[state]?.getD ∅ }

/-- The automaton of groups as one that reports at the end. Past its states stand the ends of texts,
one for each state but the dead one. -/
def reporting (rows : List (List Nat)) (groups : List Nat) (accepts : List IndexSet) :
    ByteAutomaton (Fin (2 * rows.length + 1)) :=
  let size := rows.length
  let inner := automaton rows groups accepts
  { start := Fin.ofNat _ inner.start
    next := fun state b =>
      if state.val < size then Fin.ofNat _ (inner.step state.val b) else 0
    atEnd := fun state => if state.val = 0 then 0 else Fin.ofNat _ (state.val + size)
    dead := fun state => state.val == 0
    quit := fun _ => false
    matching := fun state => decide (size < state.val)
    patterns := fun state =>
      if size < state.val then (inner.accepts (state.val - size)).elems else [] }

end ParserSplice.Minimal
