import ParserSplice.Artifact.Basic
import ParserSplice.Report.Location

set_option autoImplicit false

namespace ParserSplice

/-- The two names of a terminal. -/
structure TerminalName where
  real : String
  display : String
deriving DecidableEq, Repr

/-- The names of several terminals. -/
structure TerminalNames where
  real : List String
  display : List String
deriving DecidableEq, Repr

def TerminalNames.ofList (names : List TerminalName) : TerminalNames :=
  ⟨names.map TerminalName.real, names.map TerminalName.display⟩

def TerminalNames.text (names : TerminalNames) : String := " ".intercalate names.display

/-- A syntax error with the terminals that would have been accepted and those that were matched. -/
structure SyntaxError where
  shown : Location
  real : Location
  state : Nat
  expected : TerminalNames
  matched : TerminalNames
deriving DecidableEq, Repr

namespace SyntaxError

/-- The error in one sentence. -/
def text (e : SyntaxError) : String :=
  "syntax error at " ++ e.shown.text ++ ": expected one of " ++ e.expected.text ++ ", found " ++
    (if e.matched.display.isEmpty then "<unknown>" else e.matched.text)

/-- The error as a report of several lines. -/
def report (e : SyntaxError) : String :=
  Location.report e.shown e.real e.state ("Expected one of: " ++ e.expected.text ++
    (if e.matched.display.isEmpty then ""
      else "\n  Input currently matches: " ++ e.matched.text))

end SyntaxError

/-- What can go wrong while a parser runs. -/
inductive EngineError where
  | report (text : String)
  | rejected (error : SyntaxError)
  | artifact (error : ArtifactError)

/-- The error in words. -/
def EngineError.message : EngineError → String
  | report text => text
  | rejected error => error.text
  | artifact error => error.message

end ParserSplice
