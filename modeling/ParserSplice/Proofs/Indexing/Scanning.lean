import ParserSplice.Proofs.Indexing.Basic
import ParserSplice.Proofs.Scanner.Fixpoint
import ParserSplice.Proofs.Scanner.Recognition

set_option autoImplicit false

namespace ParserSplice

namespace Indexed

section Accepts

variable {σ : Type}

def accepts (D : ByteAutomaton σ) (terminals : List Nat) (state : σ) : Except Stop IndexSet :=
  if D.matching (D.atEnd state) then do
    let found ← (D.patterns (D.atEnd state)).mapM (fetch terminals)
    return OrderedSet.ofList found
  else return ∅

theorem accepts_eq (D : ByteAutomaton σ) {terminals : List Nat}
    (inside : ∀ state, D.matching state = true → ∀ pattern ∈ D.patterns state,
      pattern < terminals.length) (state : σ) :
    accepts D terminals state = .ok (D.accepts terminals state) := by
  rw [accepts, ByteAutomaton.accepts]
  by_cases matching : D.matching (D.atEnd state) = true
  · rw [if_pos matching, if_pos matching, mapM_fetch (inside _ matching)]
    rfl
  · rw [if_neg matching, if_neg matching]
    rfl

end Accepts

/-- The terminals that may still follow in each state, by the loop that looks up sets. The rounds
are enough for it to end by itself. -/
def possible (rows : List (List Nat)) (accepts : List IndexSet) : Except Stop (List IndexSet) :=
  match PossibleSets.loop (rows.map PossibleSets.successors)
      (accepts.length * PossibleSets.total accepts + 1) accepts with
  | some sets => .ok sets
  | none => .error .outOfRange

theorem possible_eq {rows : List (List Nat)} {accepts : List IndexSet}
    (length : rows.length = accepts.length)
    (inside : ∀ row ∈ rows, ∀ next ∈ row, next < accepts.length) :
    possible rows accepts = .ok (PossibleSets.compute rows accepts) := by
  have ends := PossibleSets.loop_eq (PossibleSets.bound_successors length inside)
    (PossibleSets.sweep_compute rows accepts)
  rw [possible, ends]
  rfl

def flattened {n : Nat} (D : ByteAutomaton (Fin n)) (terminals : List Nat) :
    Except Stop (ScannerTable × ScannerSets) :=
  match (D.forTerminals terminals).number n with
  | none => .error (.reported (.scanner "the automaton has too many states"))
  | some numbering => do
    let found ← numbering.states.toList.mapM (accepts D terminals)
    let table := Automaton.tableOf numbering
    let follows ← possible table.rows (∅ :: found)
    return (table, ⟨∅ :: found, List.replicate table.size ∅, follows⟩)

/-- The scanner that recognizes regular expressions, by a library that compiles them. -/
def scan (library : Compiler) (regexes : OrderedMap String) :
    Except Stop (ScannerTable × ScannerSets) :=
  if regexes.entries.isEmpty then .ok (.blank, .blank 2)
  else do
    let expressions ← lift (library.readAll regexes)
    match library.compile expressions with
    | .error message => .error (.reported (.scanner message))
    | .ok compiled => flattened compiled.2 regexes.keys.elems

/-- Flattening finds the terminal of every pattern that is reported, and every set. -/
theorem flattened_eq {n : Nat} (D : ByteAutomaton (Fin n)) {terminals : List Nat}
    (inside : ∀ state, D.matching state = true → ∀ pattern ∈ D.patterns state,
      pattern < terminals.length) :
    flattened D terminals = lift (Compiler.flattened D terminals) := by
  obtain ⟨numbering, found, numbered⟩ := (D.forTerminals terminals).exists_numbered_of_finite
  have accepted : numbering.states.toList.mapM (accepts D terminals) =
      .ok (numbering.states.toList.map (D.accepts terminals)) :=
    mapM_ok (fun state _ => accepts_eq D inside state)
  have complete := numbered.represents.complete
  have length : (Automaton.tableOf numbering).rows.length =
      (∅ :: numbering.states.toList.map (D.accepts terminals)).length := by
    simp [Automaton.tableOf, numbered.represents.filled]
  have follows := possible_eq length (fun row listed next held => by
    rw [← length]
    exact complete.targets row listed next held)
  rw [flattened, Compiler.flattened, found n (by simp)]
  simp only [accepted, ok_bind, follows]
  rfl

/-- There are as many expressions as terminals. -/
theorem length_readAll {library : Compiler} {regexes : OrderedMap String}
    {expressions : List library.Expression} (read : library.readAll regexes = .ok expressions) :
    expressions.length = regexes.keys.elems.length := by
  have paired := (mapM_eq_ok_iff _ _ _).mp read
  have entries : regexes.keys.elems = regexes.entries.map Prod.fst := rfl
  rw [entries, List.length_map, paired.length_eq]

/-- An honest library makes scanners without a place that is not there. -/
theorem scan_eq {library : Compiler} (honest : library.Honest) (regexes : OrderedMap String) :
    scan library regexes = lift (library.build regexes) := by
  rw [scan, Compiler.build]
  by_cases none : regexes.entries.isEmpty = true
  · rw [if_pos none, if_pos none]
    rfl
  · rw [if_neg none, if_neg none, lift_bind]
    apply lift_bind_congr
    intro expressions read
    cases compiled : library.compile expressions with
    | error message => rfl
    | ok result =>
      apply flattened_eq
      rw [← length_readAll read]
      exact honest _ result.1 result.2 compiled

end Indexed

end ParserSplice
