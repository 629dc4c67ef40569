set_option autoImplicit false

namespace ParserSplice

/-- What the parser does in a state on a column. -/
inductive EngineAction where
  | error
  | accept
  | shift (state : UInt32)
  | reduce (production : UInt32)
  | goto (state : UInt32)
deriving DecidableEq, Repr, Inhabited

namespace EngineAction

def maxParameter : UInt32 := 536870911

def kind : EngineAction → UInt32
  | error => 0
  | accept => 1
  | shift _ => 2
  | reduce _ => 3
  | goto _ => 4

/-- The parameter of the action, 0 if it has none. -/
def parameter : EngineAction → UInt32
  | error | accept => 0
  | shift p | reduce p | goto p => p

/-- The cell of an action, unless its parameter is too large. -/
def encode (a : EngineAction) : Option UInt32 :=
  if maxParameter < a.parameter then none else some ((a.parameter <<< 3) ||| a.kind)

/-- The action in a cell. A cell with an unused kind is an error action. -/
def decode (cell : UInt32) : EngineAction :=
  let parameter := cell >>> 3
  match cell &&& 7 with
  | 1 => accept
  | 2 => shift parameter
  | 3 => reduce parameter
  | 4 => goto parameter
  | _ => error

/-- Whether the action is the error action. -/
def isError : EngineAction → Bool
  | error => true
  | _ => false

def isTerminalAction : EngineAction → Bool
  | accept | shift _ | reduce _ => true
  | error | goto _ => false

def isShift : EngineAction → Bool
  | shift _ => true
  | _ => false

def text : EngineAction → String
  | error => "Error"
  | accept => "Accept"
  | shift p => "Shift(" ++ toString p.toNat ++ ")"
  | reduce p => "Reduce(" ++ toString p.toNat ++ ")"
  | goto p => "Goto(" ++ toString p.toNat ++ ")"

end EngineAction

end ParserSplice
