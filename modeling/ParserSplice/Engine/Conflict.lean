import ParserSplice.Engine.Action

set_option autoImplicit false

namespace ParserSplice

/-- The kind of a conflict. -/
inductive ConflictKind where
  | shiftReduce
  | reduceReduce
deriving DecidableEq, Repr, Inhabited

namespace ConflictKind

def between (first second : EngineAction) : ConflictKind :=
  if first.isShift || second.isShift then shiftReduce else reduceReduce

def text : ConflictKind → String
  | shiftReduce => "shift/reduce"
  | reduceReduce => "reduce/reduce"

def titles : ConflictKind → String × String
  | shiftReduce => ("shift derivation:", "reduce derivation:")
  | reduceReduce => ("first reduce derivation:", "second reduce derivation:")

end ConflictKind

/-- A cell that held `first` when `second` was written to it. -/
structure Conflict where
  state : Nat
  column : Nat
  first : EngineAction
  second : EngineAction
deriving DecidableEq, Repr

namespace Conflict

def kind (c : Conflict) : ConflictKind := ConflictKind.between c.first c.second

def text (c : Conflict) : String :=
  c.kind.text ++ " conflict in state " ++ toString c.state ++ " on column " ++ toString c.column ++
    ": " ++ c.first.text ++ " replaced by " ++ c.second.text

end Conflict

end ParserSplice
