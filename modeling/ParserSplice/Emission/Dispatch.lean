import ParserSplice.Engine.Layout

set_option autoImplicit false

namespace ParserSplice

/-- A chain of bounds, each with the fragment of the states below it, and the fragment of all other
states. -/
structure Dispatch where
  cases : List (Nat × Nat)
  otherwise : Nat
deriving DecidableEq, Repr

namespace Dispatch

def ofLayout (l : Layout) : Dispatch :=
  ⟨(l.hostStates, 0) :: l.offsets.zipIdx.drop 1, l.offsets.length⟩

/-- The fragment of a state: that of the first bound above the state. -/
def fragmentOf (d : Dispatch) (state : Nat) : Nat :=
  match d.cases.find? (fun entry => decide (state < entry.1)) with
  | some entry => entry.2
  | none => d.otherwise

def caseLines (bound : String) (fragment : Nat) : List String :=
  ["        if state < " ++ bound ++ " \x7b",
    "            return " ++ toString fragment ++ ";", "        \x7d"]

/-- The tests as code. The first bound is the constant with the number of host states. -/
def lines (d : Dispatch) : List String :=
  (d.cases.zipIdx.flatMap (fun entry =>
    caseLines (if entry.2 = 0 then "HOST_STATE_COUNT" else toString entry.1.1) entry.1.2)) ++
    ["        " ++ toString d.otherwise]

end Dispatch

end ParserSplice
