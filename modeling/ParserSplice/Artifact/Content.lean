import ParserSplice.Json.Codec

set_option autoImplicit false

namespace ParserSplice

/-- The shape of a table. -/
inductive TableShape where
  | cells
  | uses
  | usesPerFragment
  | sets
  | transitions
  | setsPerFragment
  | lengths
deriving DecidableEq, Repr

/-- A table. -/
inductive TableContent where
  | cells (rows : List (List UInt32))
  | uses (masks : List UInt8)
  | usesPerFragment (masks : List (List UInt8))
  | sets (perState : List IndexSet)
  | transitions (rowsPerFragment : List (List (List Nat)))
  | setsPerFragment (perFragment : List (List IndexSet))
  | lengths (perFragment : List (List Nat))
deriving DecidableEq

open Json (Codec Value)

def TableContent.shape : TableContent → TableShape
  | cells _ => .cells
  | uses _ => .uses
  | usesPerFragment _ => .usesPerFragment
  | sets _ => .sets
  | transitions _ => .transitions
  | setsPerFragment _ => .setsPerFragment
  | lengths _ => .lengths

def TableContent.encode : TableContent → Value
  | cells rows => Codec.word.list.list.encode rows
  | uses masks => Codec.byte.list.encode masks
  | usesPerFragment masks => Codec.byte.list.list.encode masks
  | sets perState => Codec.numbers.list.encode perState
  | transitions rows => Codec.number.list.list.list.encode rows
  | setsPerFragment perFragment => Codec.numbers.list.list.encode perFragment
  | lengths perFragment => Codec.number.list.list.encode perFragment

namespace TableShape

def decode (shape : TableShape) (v : Value) : Option TableContent :=
  match shape with
  | cells => (Codec.word.list.list.decode v).map .cells
  | uses => (Codec.byte.list.decode v).map .uses
  | usesPerFragment => (Codec.byte.list.list.decode v).map .usesPerFragment
  | sets => (Codec.numbers.list.decode v).map .sets
  | transitions => (Codec.number.list.list.list.decode v).map .transitions
  | setsPerFragment => (Codec.numbers.list.list.decode v).map .setsPerFragment
  | lengths => (Codec.number.list.list.decode v).map .lengths

def typeName : TableShape → String
  | cells => "Vec<Vec<u32>>"
  | uses => "Vec<u8>"
  | usesPerFragment => "Vec<Vec<u8>>"
  | sets => "Vec<std::collections::BTreeSet<usize>>"
  | transitions => "Vec<Vec<Vec<usize>>>"
  | setsPerFragment => "Vec<Vec<std::collections::BTreeSet<usize>>>"
  | lengths => "Vec<Vec<usize>>"

end TableShape

end ParserSplice
