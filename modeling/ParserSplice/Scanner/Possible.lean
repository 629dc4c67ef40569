import ParserSplice.Scanner.Table

set_option autoImplicit false

namespace ParserSplice.PossibleSets

/-- The states that a row leads to, the dead state apart. -/
def successors (row : List Nat) : IndexSet :=
  OrderedSet.ofList (row.filter (· != ScannerTable.dead))

/-- The set of a state; a state past the end has none. -/
def setOf (sets : List IndexSet) (state : Nat) : IndexSet := sets[state]?.getD ∅

def widen (after : List IndexSet) (sets : List IndexSet) (state : Nat) : List IndexSet :=
  sets.set state ((setOf after state).elems.foldl
    (fun total next => total.union (setOf sets next)) (setOf sets state))

/-- Widens every state but the dead one, from the last to the first. -/
def sweep (after : List IndexSet) (sets : List IndexSet) : List IndexSet :=
  ((List.range (sets.length - 1)).map (· + 1)).reverse.foldl (widen after) sets

/-- Number of members of all sets together. -/
def total (sets : List IndexSet) : Nat := (sets.map OrderedSet.size).foldr (· + ·) 0

/-- Sweeps until no set grows. -/
def settle (after : List IndexSet) : Nat → List IndexSet → List IndexSet
  | 0, sets => sets
  | steps + 1, sets =>
    let next := sweep after sets
    if total next = total sets then sets else settle after steps next

/-- The terminals that may still follow in each state. A set grows at most once for each member of
an accept set, which bounds the number of sweeps. -/
def compute (rows : List (List Nat)) (accepts : List IndexSet) : List IndexSet :=
  settle (rows.map successors) (accepts.length * total accepts) accepts

end ParserSplice.PossibleSets
