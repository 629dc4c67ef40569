import ParserSplice.Index
import ParserSplice.Ordered.Map

set_option autoImplicit false

namespace ParserSplice

/-- An action of a fragment table. -/
inductive FragmentAction where
  | error
  | accept
  | shift (target : Decomposed)
  | reduce (production : Nat)
  | goto (target : Decomposed)
deriving DecidableEq, Repr, Inhabited

/-- The rows of a fragment table. -/
structure FragmentTable where
  rows : List (OrderedMap FragmentAction) := []
deriving DecidableEq

namespace FragmentTable

def blank (states : Nat) : FragmentTable := ⟨List.replicate states ∅⟩

def size (t : FragmentTable) : Nat := t.rows.length

/-- The row of a state; a state past the end has an empty one. -/
def row (t : FragmentTable) (state : Nat) : OrderedMap FragmentAction :=
  t.rows[state]?.getD ∅

/-- Sets the action of a state on a column, adding empty rows up to the state if needed. -/
def set (t : FragmentTable) (state column : Nat) (action : FragmentAction) : FragmentTable :=
  let padded := t.rows ++ List.replicate (state + 1 - t.size) ∅
  ⟨padded.modify state (fun row => row.insert column action)⟩

/-- The action of a state on a column; a missing entry is the error action. -/
def action (t : FragmentTable) (state column : Nat) : FragmentAction :=
  ((t.row state).get? column).getD .error

def columns (t : FragmentTable) (state : Nat) : List Nat := (t.row state).keys.elems

theorem size_set (t : FragmentTable) (state column : Nat) (action : FragmentAction) :
    (t.set state column action).size = max t.size (state + 1) := by
  simp [set, size]
  omega

end FragmentTable

end ParserSplice
