import ParserSplice.Error
import ParserSplice.Unicode.Uppercase

set_option autoImplicit false

namespace ParserSplice

/-- Whether text is an identifier: ASCII letters, digits and underscores, not starting with a
digit. -/
def isIdentifier (text : String) : Bool :=
  match text.toList with
  | [] => false
  | first :: rest =>
    (first.isAlpha || first == '_') && rest.all (fun c => c.isAlphanum || c == '_')

/-- Drops hyphens and underscores and raises each letter after one, or at the start. -/
def camelCaseFrom (raise : Bool) : List Char → List Char
  | [] => []
  | c :: rest =>
    if c = '_' ∨ c = '-' then camelCaseFrom true rest
    else if raise then Unicode.toUpper c ++ camelCaseFrom false rest
    else c :: camelCaseFrom false rest

/-- A name in camel case: `my-lang_v2` becomes `MyLangV2`. -/
def camelCase (name : String) : String := String.ofList (camelCaseFrom true name.toList)

/-- How an emitted driver is named, and what goes after its opening comment. -/
structure EmitOptions where
  parserName : String
  preamble : Option String := none
deriving DecidableEq, Repr

namespace EmitOptions

def named (name : String) : Except CompositionError EmitOptions :=
  if isIdentifier name then .ok ⟨name, none⟩ else .error (.invalidParserName name)

def withPreamble (o : EmitOptions) (text : String) : EmitOptions := { o with preamble := text }

end EmitOptions

end ParserSplice
