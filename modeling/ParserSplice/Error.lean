import ParserSplice.Category
import ParserSplice.Text.Quoted

set_option autoImplicit false

namespace ParserSplice

/-- An inconsistency found while partitioning or merging fragments. -/
inductive CompositionError where
  | overlappingState (state : Nat)
  | stateCoverage (state : Nat)
  | duplicateComposedIndex (index : Nat) (first second : Category)
  | hostSymbolNotComposed (category : Category) (index : Nat)
  | uncoveredSymbol (category : Category) (index : Nat)
  | symbolKindMismatch (category : Category) (index : Nat) (found : Category)
  | missingSymbolData (category : Category) (index : Nat)
  | unknownReference (index : Nat) (context : String)
  | indexOverflow (index : Nat)
  | stateOutOfRange (fragment : String) (state count : Nat)
  | unexpectedExtensionState (fragment : String) (state : Nat)
  | unclassifiedColumn (fragment : String) (state column : Nat)
  | columnOutOfRange (fragment : String) (column width : Nat)
  | terminalOutOfRange (fragment : String) (terminal count : Nat)
  | unknownHookNonterminal (extension : String) (terminal nonterminal : Nat)
  | actionParameterOverflow (parameter : Nat)
  | invalidRegex (terminal : Nat) (regex message : String)
  | scanner (message : String)
  | invalidParserName (name : String)
deriving DecidableEq, Repr

namespace CompositionError

/-- The error in words, up to the reason that a regular expression or scanner is refused for. -/
def headline : CompositionError → String
  | overlappingState state =>
    "state " ++ toString state ++ " is both a host state and an extension state"
  | stateCoverage state =>
    "state " ++ toString state ++ " is neither a host state nor an extension state"
  | duplicateComposedIndex index first second =>
    "composed index " ++ toString index ++ " is listed both as a " ++ first.label ++
      " and as a " ++ second.label
  | hostSymbolNotComposed category index =>
    "host " ++ category.label ++ " " ++ toString index ++ " is not part of the composed grammar"
  | uncoveredSymbol category index =>
    "composed " ++ category.label ++ " " ++ toString index ++ " has no symbol table entry"
  | symbolKindMismatch category index found =>
    "composed " ++ category.label ++ " " ++ toString index ++ " is recorded as a " ++ found.label ++
      " in the symbol table"
  | missingSymbolData category index =>
    "composed " ++ category.label ++ " " ++ toString index ++ " has no grammar data"
  | unknownReference index context =>
    "reference to unknown composed symbol " ++ toString index ++ " from " ++ context
  | indexOverflow index =>
    "index " ++ toString index ++ " does not fit a 32-bit decomposed index"
  | stateOutOfRange fragment state count =>
    fragment ++ ": state " ++ toString state ++ " is out of range (" ++ toString count ++ " states)"
  | unexpectedExtensionState fragment state =>
    fragment ++ ": host table refers to extension state " ++ toString state
  | unclassifiedColumn fragment state column =>
    fragment ++ ": column " ++ toString column ++ " of state " ++ toString state ++
      " is neither a terminal nor a nonterminal"
  | columnOutOfRange fragment column width =>
    fragment ++ ": column " ++ toString column ++ " exceeds the table width " ++ toString width
  | terminalOutOfRange fragment terminal count =>
    fragment ++ ": terminal " ++ toString terminal ++ " exceeds the terminal count " ++
      toString count
  | unknownHookNonterminal extension terminal nonterminal =>
    extension ++ ": marking terminal " ++ toString terminal ++ " hooks " ++ toString nonterminal ++
      ", which is not a host nonterminal"
  | actionParameterOverflow parameter =>
    "action parameter " ++ toString parameter ++ " does not fit a packed table cell"
  | invalidRegex terminal regex _ =>
    "terminal " ++ toString terminal ++ ": invalid regex " ++ Quoted.encode regex ++ ": "
  | scanner _ => "scanner construction failed: "
  | invalidParserName name => "invalid parser name " ++ Quoted.encode name

def reason : CompositionError → String
  | invalidRegex _ _ message => message
  | scanner message => message
  | _ => ""

/-- The error in words. -/
def message (e : CompositionError) : String := e.headline ++ e.reason

end CompositionError

end ParserSplice
