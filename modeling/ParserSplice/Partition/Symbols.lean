import ParserSplice.Grammar.Spec
import ParserSplice.Partition.States

set_option autoImplicit false

namespace ParserSplice

abbrev CategorizedSymbol := Category × Nat

namespace SymbolPartition

def composed (g : Grammar) : List CategorizedSymbol :=
  Category.all.flatMap (fun c => (g.symbols c).elems.map (fun index => (c, index)))

def ownedByHost (host : Grammar) (s : CategorizedSymbol) : Bool :=
  (host.symbols s.1).contains s.2

def hostOwned (full host : Grammar) : List CategorizedSymbol :=
  (composed full).filter (ownedByHost host)

def extensionOwned (full host : Grammar) : List CategorizedSymbol :=
  (composed full).filter (fun s => !ownedByHost host s)

abbrev Seen := OrderedMap Category

/-- Notes the symbols of one category. A symbol that has been noted before is an error. -/
def noteAll (category : Category) : Seen → List Nat → Except CompositionError Seen
  | seen, [] => .ok seen
  | seen, index :: rest =>
    match seen.get? index with
    | some first => .error (.duplicateComposedIndex index first category)
    | none => noteAll category (seen.insert index category) rest

def noteCategory (full host : Grammar) (seen : Seen) (category : Category) :
    Except CompositionError Seen :=
  match (host.symbols category).elems.find?
      (fun index => !(full.symbols category).contains index) with
  | some index => .error (.hostSymbolNotComposed category index)
  | none => noteAll category seen (full.symbols category).elems

/-- Checks that no symbol has two categories and that the host grammar is part of the composed
one. -/
def check (full host : Grammar) : Except CompositionError Unit := do
  let _ ← Category.all.foldlM (noteCategory full host) (∅ : Seen)
  return ()

/-- The owner and number of every composed symbol. -/
def build (full host : Grammar) : Except CompositionError (OrderedMap Decomposed) := do
  check full host
  let hosts ← (hostOwned full host).zipIdx.mapM (fun (entry : CategorizedSymbol × Nat) => do
    let number ← hostNumber entry.2
    return (entry.1.2, number))
  let extensions ← (extensionOwned full host).zipIdx.mapM
    (fun (entry : CategorizedSymbol × Nat) => do
      let number ← extensionNumber entry.2
      return (entry.1.2, number))
  return OrderedMap.ofList (hosts ++ extensions)

end SymbolPartition

def placesOf (symbols : List CategorizedSymbol) (category : Category) : IndexSet :=
  OrderedSet.ofList ((symbols.zipIdx.filter (fun entry => entry.1.1 == category)).map Prod.snd)

end ParserSplice
