import ParserSplice.Proofs.Emission.NameTables

set_option autoImplicit false

namespace ParserSplice

namespace Emission

/-- What is subtracted from a number. -/
inductive Operand where
  | number (n : Nat)
  | name (bound : String)
deriving DecidableEq, Repr

/-- Code that looks up a name. It goes on behind a test whose inside gives no answer. -/
inductive Code where
  | proceed
  | entry (table index : String)
  | nestedEntry (tables outer inner : String)
  | bindEntry (bound list index : String) (rest : Code)
  | ifAtLeast (bound minuend : String) (subtrahend : Operand) (inside rest : Code)
deriving DecidableEq, Repr

def Operand.text : Operand → String
  | number n => toString n
  | name bound => bound

def number? (data : List Token) (scope : List (String × Nat)) (name : String) : Option Nat :=
  (scope.lookup name).or (valueOf name .number data)

section Numbers

variable (data : List Token) (name : String) (n : Nat) (scope : List (String × Nat))

theorem number?_cons_self : number? data ((name, n) :: scope) name = some n := by
  simp [number?]

theorem number?_cons_of_ne {other : String} (differs : name ≠ other) :
    number? data ((other, n) :: scope) name = number? data scope name := by
  rw [number?, List.lookup_cons, beq_eq_false_iff_ne.mpr differs]
  rfl

theorem number?_nil : number? data [] name = valueOf name .number data := rfl

end Numbers

def Operand.value? (data : List Token) (scope : List (String × Nat)) : Operand → Option Nat
  | number n => some n
  | name bound => number? data scope bound

namespace Code

/-- An answer as it is written, inside a test or at the end. -/
def answerLine (nested : Bool) (indent answer : String) : String :=
  if nested then indent ++ "return " ++ answer ++ ";" else indent ++ answer

def lines (nested : Bool) (indent : String) : Code → List String
  | proceed => []
  | entry table index =>
    [answerLine nested indent (table ++ ".get(" ++ index ++ ").copied().flatten()")]
  | nestedEntry tables outer inner =>
    [answerLine nested indent
      (tables ++ ".get(" ++ outer ++ ")?.get(" ++ inner ++ ").copied().flatten()")]
  | bindEntry bound list index rest =>
    (indent ++ "let " ++ bound ++ " = *" ++ list ++ ".get(" ++ index ++ ")?;") ::
      rest.lines nested indent
  | ifAtLeast bound minuend subtrahend inside rest =>
    (indent ++ "if let Some(" ++ bound ++ ") = " ++ minuend ++ ".checked_sub(" ++
        subtrahend.text ++ ") \x7b") ::
      inside.lines true (indent ++ "    ") ++ (indent ++ "\x7d") :: rest.lines nested indent

/-- How a run of code ends. -/
inductive Outcome where
  | stuck
  | proceeds
  | answers (name : Option TerminalName)
deriving DecidableEq, Repr

def run (data : List Token) (scope : List (String × Nat)) : Code → Outcome
  | proceed => .proceeds
  | entry table index =>
    match valueOf table (.slice .names) data, number? data scope index with
    | some names, some i => .answers (NameTables.entry? names i)
    | _, _ => .stuck
  | nestedEntry tables outer inner =>
    match valueOf tables (.slice (.slice .names)) data, number? data scope outer,
      number? data scope inner with
    | some names, some i, some j => .answers (names[i]?.bind (fun own => NameTables.entry? own j))
    | _, _, _ => .stuck
  | bindEntry bound list index rest =>
    match valueOf list (.slice .number) data, number? data scope index with
    | some numbers, some i =>
      match numbers[i]? with
      | some n => rest.run data ((bound, n) :: scope)
      | none => .answers none
    | _, _ => .stuck
  | ifAtLeast bound minuend subtrahend inside rest =>
    match number? data scope minuend, subtrahend.value? data scope with
    | some a, some b =>
      if b ≤ a then
        match inside.run data ((bound, a - b) :: scope) with
        | .proceeds => rest.run data scope
        | outcome => outcome
      else rest.run data scope
    | _, _ => .stuck

end Code

def nameLookup : Code :=
  .ifAtLeast "marking" "terminal" (.name "MARKING_TERMINAL_OFFSET")
    (.entry "MARKING_TERMINAL_NAMES" "marking")
    (.ifAtLeast "ext" "fragment_id" (.number 1)
      (.bindEntry "offset" "EXT_SYMBOL_TABLE_OFFSETS" "ext"
        (.ifAtLeast "local" "terminal" (.name "offset")
          (.nestedEntry "EXT_TERMINAL_NAMES" "ext" "local") .proceed))
      (.entry "HOST_TERMINAL_NAMES" "terminal"))

theorem nameBody_eq_lines : nameBody = nameLookup.lines false "        " := by
  decide +kernel

/-- Code that reads the tables of names answers as they do. -/
theorem run_nameLookup {names : NameTables} {data : List Token} (reads : ReadsFrom names data)
    (fragment terminal : Nat) :
    nameLookup.run data [("fragment_id", fragment), ("terminal", terminal)] =
      .answers (names.name? fragment terminal) := by
  simp (disch := decide) only [nameLookup, Code.run, Operand.value?, number?_cons_self,
    number?_cons_of_ne, number?_nil, reads.markingColumn, reads.extensionColumns, reads.markings,
    reads.extensions, reads.host, NameTables.name?]
  by_cases marking : names.markingColumn ≤ terminal
  · rw [if_pos marking, if_pos marking]
  · rw [if_neg marking, if_neg marking]
    cases fragment with
    | zero => rfl
    | succ extension =>
      simp only [if_pos (Nat.le_add_left 1 extension), Nat.add_sub_cancel]
      cases names.extensionColumns[extension]? with
      | none => rfl
      | some first =>
        by_cases own : first ≤ terminal
        · simp only [if_pos own]
          cases names.extensions[extension]? with
          | none => rfl
          | some table => rfl
        · simp only [if_neg own]

/-- The answer of the code of a driver for a terminal of a fragment, from the text of its data.
There is none if the text cannot be read. -/
def emittedName? (text : List Char) (fragment terminal : Nat) : Option (Option TerminalName) :=
  match tokens? text with
  | none => none
  | some data =>
    match nameLookup.run data [("fragment_id", fragment), ("terminal", terminal)] with
    | .answers name => some name
    | _ => none

/-- If all extensions have harmless names, the code answers as the tables of names do. -/
theorem emittedName?_eq (engine : Engine) (host : HostFragment)
    {extensions : List ExtensionFragment} (harmless : ∀ e ∈ extensions, Commentable e.name)
    (fragment terminal : Nat) :
    emittedName? (textOf (nameData engine host extensions)) fragment terminal =
      some ((NameTables.ofEngine engine host extensions).name? fragment terminal) := by
  have reads := readsFrom_nameDeclarations engine.layout host
    (NameTables.ofEngine engine host extensions)
  rw [emittedName?, (lexes_nameData engine host harmless).tokens?_eq]
  simp only [run_nameLookup reads]

/-- The method that looks up the names of a terminal. -/
def nameMethod : List String :=
  method "terminal_name(&self, fragment_id: usize, terminal: usize) -> Option<TerminalName>"
    (nameLookup.lines false "        ")

theorem infix_intercalate_of_mem {sep part : List String} {parts : List (List String)}
    (inside : part ∈ parts) : part <:+: sep.intercalate parts := by
  induction parts with
  | nil => cases inside
  | cons first rest ih =>
    cases rest with
    | nil =>
      obtain rfl := List.mem_singleton.mp inside
      exact ⟨[], [], by simp⟩
    | cons next rest =>
      rw [List.intercalate_cons_cons]
      rcases List.mem_cons.mp inside with rfl | later
      · exact (List.prefix_append _ _).isInfix.trans (List.prefix_append _ _).isInfix
      · exact (ih later).trans (List.suffix_append _ _).isInfix

theorem holds_nameMethod (engine : Engine) (host : HostFragment)
    (extensions : List ExtensionFragment) (options : EmitOptions) :
    Holds (engine.driver host extensions options) nameMethod := by
  have listed : nameMethod ∈ methods engine extensions := by
    rw [nameMethod, ← nameBody_eq_lines]
    simp [methods]
  have inMethods : nameMethod <:+: [""].intercalate (methods engine extensions) :=
    infix_intercalate_of_mem listed
  have inInterface : nameMethod <:+: interface options.parserName engine extensions :=
    inMethods.trans ⟨_, _, rfl⟩
  have inLines : nameMethod <:+: Emission.lines engine host extensions options :=
    inInterface.trans (List.suffix_append _ _).isInfix
  obtain ⟨front, rest, whole⟩ := inLines
  exact holds_of_append (by rw [toList_driver, whole])

end Emission

end ParserSplice
