import ParserSplice.Grammar.Spec
import ParserSplice.Grammar.Symbol
import ParserSplice.Index
import ParserSplice.Json.Codec

set_option autoImplicit false

namespace ParserSplice

open Json (Codec Fields Value)

def Decomposed.codec : Codec Decomposed where
  encode
    | .host i => .tagged "Host" (Codec.word.encode i)
    | .extension i => .tagged "Extension" (Codec.word.encode i)
  decode v :=
    match v.alternative? with
    | some ("Host", some content) => (Codec.word.decode content).map .host
    | some ("Extension", some content) => (Codec.word.decode content).map .extension
    | _ => none

def Category.tag : Category → String
  | terminal => "Terminal"
  | nonterminal => "Nonterminal"
  | production => "Production"
  | disambiguationFunction => "DisambiguationFunction"
  | terminalClass => "TerminalClass"
  | operatorClass => "OperatorClass"
  | parserAttribute => "ParserAttribute"

def Category.codec : Codec Category := .name Category.tag Category.all

def Associativity.tag : Associativity → String
  | none => "None"
  | left => "Left"
  | right => "Right"
  | nonAssociative => "NonAssoc"

def Associativity.codec : Codec Associativity :=
  .name Associativity.tag [.none, .left, .right, .nonAssociative]

variable {S : Type} [Ranked S]

def TerminalData.fields : List String :=
  ["regex", "terminal_classes", "transparent_prefix", "operator_class", "operator_precedence",
    "operator_associativity"]

/-- Terminal data; only the regular expression has to be given. -/
def TerminalData.codec (ref : Codec S) : Codec (TerminalData S) where
  encode a := .ofMembers [
    ("regex", Codec.text.encode a.regex),
    ("terminal_classes", (Codec.set ref).encode a.classes),
    ("transparent_prefix", ref.optional.encode a.transparentPrefix),
    ("operator_class", ref.optional.encode a.operatorClass),
    ("operator_precedence", Codec.signed.encode a.precedence),
    ("operator_associativity", Associativity.codec.encode a.associativity)]
  decode v := do
    let f ← Fields.ofValue TerminalData.fields v
    let regex ← f.required "regex" Codec.text.decode
    let classes ← f.withDefault "terminal_classes" (Codec.set ref).decode ∅
    let leading ← f.withDefault "transparent_prefix" ref.optional.decode none
    let operatorClass ← f.withDefault "operator_class" ref.optional.decode none
    let precedence ← f.withDefault "operator_precedence" Codec.signed.decode 0
    let associativity ← f.withDefault "operator_associativity" Associativity.codec.decode .none
    return ⟨regex, classes, leading, operatorClass, precedence, associativity⟩

def NonterminalData.codec (ref : Codec S) : Codec (NonterminalData S) where
  encode a := .ofMembers [("productions", (Codec.set ref).encode a.productions)]
  decode v := do
    let f ← Fields.ofValue ["productions"] v
    let productions ← f.required "productions" (Codec.set ref).decode
    return ⟨productions⟩

def ProductionData.fields : List String :=
  ["lhs", "rhs", "operator", "precedence", "has_layout", "layouts"]

/-- Production data; both sides have to be given. -/
def ProductionData.codec (ref : Codec S) : Codec (ProductionData S) where
  encode a := .ofMembers [
    ("lhs", ref.encode a.lhs),
    ("rhs", ref.list.encode a.rhs),
    ("operator", ref.optional.encode a.operator),
    ("precedence", Codec.signed.encode a.precedence),
    ("has_layout", Codec.flag.encode a.hasLayout),
    ("layouts", (Codec.set ref).encode a.layouts)]
  decode v := do
    let f ← Fields.ofValue ProductionData.fields v
    let lhs ← f.required "lhs" ref.decode
    let rhs ← f.required "rhs" ref.list.decode
    let operator ← f.withDefault "operator" ref.optional.decode none
    let precedence ← f.withDefault "precedence" Codec.signed.decode 0
    let hasLayout ← f.withDefault "has_layout" Codec.flag.decode false
    let layouts ← f.withDefault "layouts" (Codec.set ref).decode ∅
    return ⟨lhs, rhs, operator, precedence, hasLayout, layouts⟩

def DisambiguationData.fields : List String :=
  ["members", "disambiguate_to", "applies_to_subsets"]

/-- Disambiguation function data; the members have to be given. -/
def DisambiguationData.codec (ref : Codec S) : Codec (DisambiguationData S) where
  encode a := .ofMembers [
    ("members", (Codec.set ref).encode a.members),
    ("disambiguate_to", ref.optional.encode a.target),
    ("applies_to_subsets", Codec.flag.encode a.appliesToSubsets)]
  decode v := do
    let f ← Fields.ofValue DisambiguationData.fields v
    let members ← f.required "members" (Codec.set ref).decode
    let target ← f.withDefault "disambiguate_to" ref.optional.decode none
    let appliesToSubsets ← f.withDefault "applies_to_subsets" Codec.flag.decode false
    return ⟨members, target, appliesToSubsets⟩

def TerminalClassData.codec (ref : Codec S) : Codec (TerminalClassData S) where
  encode a := .ofMembers [("members", (Codec.set ref).encode a.members)]
  decode v := do
    let f ← Fields.ofValue ["members"] v
    let members ← f.required "members" (Codec.set ref).decode
    return ⟨members⟩

def Grammar.fields : List String :=
  ["terminals", "nonterminals", "productions", "disambiguation_functions", "terminal_classes",
    "operator_classes", "parser_attributes", "t", "nt", "pr", "df", "tc", "start_production",
    "eof_terminal"]

/-- Grammars; every field may be missing. -/
def Grammar.codec : Codec Grammar where
  encode g := .ofMembers [
    ("terminals", Codec.numbers.encode g.terminals),
    ("nonterminals", Codec.numbers.encode g.nonterminals),
    ("productions", Codec.numbers.encode g.productions),
    ("disambiguation_functions", Codec.numbers.encode g.disambiguationFunctions),
    ("terminal_classes", Codec.numbers.encode g.terminalClasses),
    ("operator_classes", Codec.numbers.encode g.operatorClasses),
    ("parser_attributes", Codec.numbers.encode g.parserAttributes),
    ("t", (TerminalData.codec Codec.number).map.encode g.terminalData),
    ("nt", (NonterminalData.codec Codec.number).map.encode g.nonterminalData),
    ("pr", (ProductionData.codec Codec.number).map.encode g.productionData),
    ("df", (DisambiguationData.codec Codec.number).map.encode g.disambiguationData),
    ("tc", (TerminalClassData.codec Codec.number).map.encode g.terminalClassData),
    ("start_production", Codec.number.encode g.startProduction),
    ("eof_terminal", Codec.number.encode g.endOfInput)]
  decode v := do
    let f ← Fields.ofValue Grammar.fields v
    let terminals ← f.withDefault "terminals" Codec.numbers.decode ∅
    let nonterminals ← f.withDefault "nonterminals" Codec.numbers.decode ∅
    let productions ← f.withDefault "productions" Codec.numbers.decode ∅
    let disambiguations ← f.withDefault "disambiguation_functions" Codec.numbers.decode ∅
    let terminalClasses ← f.withDefault "terminal_classes" Codec.numbers.decode ∅
    let operatorClasses ← f.withDefault "operator_classes" Codec.numbers.decode ∅
    let parserAttributes ← f.withDefault "parser_attributes" Codec.numbers.decode ∅
    let t ← f.withDefault "t" (TerminalData.codec Codec.number).map.decode ∅
    let nt ← f.withDefault "nt" (NonterminalData.codec Codec.number).map.decode ∅
    let pr ← f.withDefault "pr" (ProductionData.codec Codec.number).map.decode ∅
    let df ← f.withDefault "df" (DisambiguationData.codec Codec.number).map.decode ∅
    let tc ← f.withDefault "tc" (TerminalClassData.codec Codec.number).map.decode ∅
    let startProduction ← f.withDefault "start_production" Codec.number.decode 0
    let endOfInput ← f.withDefault "eof_terminal" Codec.number.decode 0
    return ⟨terminals, nonterminals, productions, disambiguations, terminalClasses,
      operatorClasses, parserAttributes, t, nt, pr, df, tc, startProduction, endOfInput⟩

/-- Symbols; the display name may be missing. -/
def Symbol.codec : Codec Symbol where
  encode s := .ofMembers [
    ("kind", Category.codec.encode s.kind),
    ("name", Codec.text.encode s.name),
    ("display_name", Codec.text.optional.encode s.displayName)]
  decode v := do
    let f ← Fields.ofValue ["kind", "name", "display_name"] v
    let kind ← f.required "kind" Category.codec.decode
    let name ← f.required "name" Codec.text.decode
    let displayName ← f.withDefault "display_name" Codec.text.optional.decode none
    return ⟨kind, name, displayName⟩

def SymbolTable.codec : Codec SymbolTable where
  encode t := Symbol.codec.list.encode t.symbols
  decode v := (Symbol.codec.list.decode v).map SymbolTable.mk

end ParserSplice
