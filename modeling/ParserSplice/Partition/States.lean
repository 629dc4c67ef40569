import ParserSplice.Error
import ParserSplice.Index
import ParserSplice.Ordered.Map

set_option autoImplicit false

namespace ParserSplice

/-- The number as a host number, if it fits 32 bits. -/
def hostNumber (index : Nat) : Except CompositionError Decomposed :=
  match narrow index with
  | some i => .ok (.host i)
  | none => .error (.indexOverflow index)

/-- The number as an extension number, if it fits 32 bits. -/
def extensionNumber (index : Nat) : Except CompositionError Decomposed :=
  match narrow index with
  | some i => .ok (.extension i)
  | none => .error (.indexOverflow index)

namespace StatePartition

def hostEntries (hostStates : OrderedMap Nat) :
    Except CompositionError (List (Nat × Decomposed)) :=
  hostStates.entries.mapM (fun (entry : Nat × Nat) => do
    let number ← hostNumber entry.2
    return (entry.1, number))

/-- The extension states with their numbers. None of them may be a host state. -/
def extensionEntries (hostStates : OrderedMap Nat) (extensionStates : IndexSet) :
    Except CompositionError (List (Nat × Decomposed)) :=
  extensionStates.elems.zipIdx.mapM (fun (entry : Nat × Nat) =>
    if hostStates.contains entry.1 then .error (.overlappingState entry.1)
    else do
      let number ← extensionNumber entry.2
      return (entry.1, number))

/-- The first number that ascending keys leave out although a larger one is among them. -/
def firstGap (keys : List Nat) : Option Nat :=
  (keys.zipIdx.find? (fun entry => entry.1 != entry.2)).map Prod.snd

/-- The owner and number of every composed state. -/
def build (hostStates : OrderedMap Nat) (extensionStates : IndexSet) :
    Except CompositionError (OrderedMap Decomposed) := do
  let host ← hostEntries hostStates
  let extension ← extensionEntries hostStates extensionStates
  let states := OrderedMap.ofList (host ++ extension)
  match firstGap states.keys.elems with
  | some gap => .error (.stateCoverage gap)
  | none => return states

end StatePartition

end ParserSplice
