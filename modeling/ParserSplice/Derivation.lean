import ParserSplice.Engine.Conflict

set_option autoImplicit false

namespace ParserSplice

/-- A derivation tree; the dot marks the point of a conflict. -/
inductive Derivation where
  | leaf (symbol : String)
  | dot
  | node (symbol : String) (children : List Derivation)
deriving Inhabited

namespace Derivation

def dotMark : String := "•"

/-- Appends text to a line, after blanks up to a column. -/
def put (col : Nat) (text line : String) : String :=
  line ++ String.ofList (List.replicate (col - line.length) ' ') ++ text

/-- Appends text to one of the lines, adding empty lines as needed. -/
def putAt (lines : List String) (row col : Nat) (text : String) : List String :=
  (lines ++ List.replicate (row + 1 - lines.length) "").modify row (put col text)

mutual

/-- Draws a tree with its top left corner at a row and column. The result has the width used. -/
def draw (lines : List String) (row col : Nat) : Derivation → Nat × List String
  | leaf symbol => (symbol.length, putAt lines row col symbol)
  | dot => (dotMark.length, putAt lines row col dotMark)
  | node symbol children =>
    let drawn := drawChildren (putAt lines row col symbol) (row + 1) col 0 children
    (max drawn.1 symbol.length, drawn.2)

/-- Draws trees side by side. `used` is the width that trees to the left have taken. -/
def drawChildren (lines : List String) (row col used : Nat) :
    List Derivation → Nat × List String
  | [] => (used, lines)
  | child :: rest =>
    let drawn := draw lines row (col + used) child
    match rest with
    | [] => (used + drawn.1, drawn.2)
    | next :: others => drawChildren drawn.2 row col (used + drawn.1 + 1) (next :: others)

end

def lines (tree : Derivation) : List String := (draw [""] 0 0 tree).2

end Derivation

/-- Two competing derivations of one input. -/
structure Counterexample where
  first : Derivation
  second : Derivation
  kind : ConflictKind

/-- The two derivations one above the other, each under its title. -/
def Counterexample.text (c : Counterexample) : String :=
  let titles := c.kind.titles
  let rows := ["Example:", titles.1] ++ c.first.lines ++ [titles.2] ++ c.second.lines
  String.join (rows.map (· ++ "\n"))

end ParserSplice
