set_option autoImplicit false

namespace ParserSplice

/-- The kind of a numbered grammar entity. -/
inductive Category where
  | terminal
  | nonterminal
  | production
  | disambiguationFunction
  | terminalClass
  | operatorClass
  | parserAttribute
deriving DecidableEq, Repr, Inhabited

namespace Category

def all : List Category :=
  [terminal, nonterminal, production, disambiguationFunction, terminalClass, operatorClass,
    parserAttribute]

def position : Category → Nat
  | terminal => 0
  | nonterminal => 1
  | production => 2
  | disambiguationFunction => 3
  | terminalClass => 4
  | operatorClass => 5
  | parserAttribute => 6

def label : Category → String
  | terminal => "terminal"
  | nonterminal => "nonterminal"
  | production => "production"
  | disambiguationFunction => "disambiguation function"
  | terminalClass => "terminal class"
  | operatorClass => "operator class"
  | parserAttribute => "parser attribute"

def earlier (c : Category) : List Category := all.take c.position

theorem mem_all (c : Category) : c ∈ all := by cases c <;> decide

end Category

end ParserSplice
