set_option autoImplicit false

namespace ParserSplice.Regex

/-- A switch that changes how the expressions after it are understood. -/
inductive Flag where
  | caseInsensitive
  | multiLine
  | dotMatchesAll
  | swapGreed
  | unicode
  | carriageReturn
  | spaced
deriving DecidableEq, Repr, Inhabited

abbrev FlagChange := List (Flag × Bool)

/-- A condition on the position between two characters. -/
inductive Assertion where
  | lineStart
  | lineEnd
  | textStart
  | textEnd
  | wordBoundary
  | notWordBoundary
  | wordStart
  | wordEnd
  | wordStartHalf
  | wordEndHalf
deriving DecidableEq, Repr, Inhabited

/-- A literal character. `asByte` tells that it was written as two hexadecimal digits, which denote
a byte where Unicode is switched off. -/
structure Literal where
  char : Char
  asByte : Bool := false
deriving DecidableEq, Repr, Inhabited

/-- The classes that have a letter of their own. -/
inductive Shorthand where
  | digit
  | space
  | word
deriving DecidableEq, Repr, Inhabited

/-- A class of characters given by a Unicode property: by its name alone, or by name and value. -/
inductive PropertyQuery where
  | named (name : List Char)
  | valued (name value : List Char)
deriving DecidableEq, Repr, Inhabited

/-- The classes with a name in brackets and colons. -/
inductive AsciiClass where
  | alnum | alpha | ascii | blank | cntrl | digit | graph | lower | print | punct | space | upper
  | word | xdigit
deriving DecidableEq, Repr, Inhabited

/-- How two parts of a bracketed class are combined. -/
inductive ClassOperator where
  | intersection
  | difference
  | symmetricDifference
deriving DecidableEq, Repr, Inhabited

/-- What stands in a bracketed class. -/
inductive ClassSet where
  | empty
  | literal (c : Literal)
  | range (first last : Literal)
  | ascii (kind : AsciiClass) (negated : Bool)
  | property (query : PropertyQuery) (negated : Bool)
  | shorthand (kind : Shorthand) (negated : Bool)
  | bracketed (set : ClassSet) (negated : Bool)
  | union (items : List ClassSet)
  | combined (op : ClassOperator) (left right : ClassSet)
deriving Repr, Inhabited

/-- A regular expression as written. -/
inductive Pattern where
  | empty
  | flags (change : FlagChange)
  | literal (c : Literal)
  | dot
  | assertion (kind : Assertion)
  | property (query : PropertyQuery) (negated : Bool)
  | shorthand (kind : Shorthand) (negated : Bool)
  | bracketed (set : ClassSet) (negated : Bool)
  | counted (body : Pattern) (least : Nat) (most : Option Nat)
  | group (change : FlagChange) (body : Pattern)
  | alternation (branches : List Pattern)
  | concatenation (parts : List Pattern)
deriving Repr, Inhabited

namespace ClassSet

def ofItems : List ClassSet → ClassSet
  | [] => empty
  | [item] => item
  | items => union items

mutual

/-- Number of nested classes, unions and combinations. -/
def depth : ClassSet → Nat
  | bracketed set _ => set.depth + 1
  | union items => depthAll items + 1
  | combined _ left right => max left.depth right.depth + 1
  | _ => 0

def depthAll : List ClassSet → Nat
  | [] => 0
  | item :: rest => max item.depth (depthAll rest)

end

end ClassSet

namespace Pattern

def ofParts : List Pattern → Pattern
  | [] => empty
  | [part] => part
  | parts => concatenation parts

def ofBranches : List Pattern → Pattern
  | [] => empty
  | [branch] => branch
  | branches => alternation branches

mutual

/-- Number of nested groups, repetitions, alternations, concatenations and classes. -/
def depth : Pattern → Nat
  | bracketed set _ => set.depth + 1
  | counted body _ _ => body.depth + 1
  | group _ body => body.depth + 1
  | alternation branches => depthAll branches + 1
  | concatenation parts => depthAll parts + 1
  | _ => 0

def depthAll : List Pattern → Nat
  | [] => 0
  | pattern :: rest => max pattern.depth (depthAll rest)

end

end Pattern

end ParserSplice.Regex
