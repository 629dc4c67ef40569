import ParserSplice.Proofs.Scanner.Flattening
import ParserSplice.Proofs.Traversal

set_option autoImplicit false

namespace ParserSplice

namespace ByteAutomaton

variable {σ ε : Type}

def run (D : ByteAutomaton σ) (text : List UInt8) : σ := text.foldl D.next D.start

/-- What is assumed of an automaton that was compiled from expressions, where `Matches` tells the
texts that an expression matches from end to end. Nothing leads out of a dead state and nothing
matches there, no byte makes the automaton quit, and the step at the end of a text tells exactly the
expressions that match the text. -/
structure Reports (D : ByteAutomaton σ) (expressions : List ε)
    (Matches : ε → List UInt8 → Prop) : Prop where
  absorbing : ∀ state b, D.dead state = true → D.dead (D.next state b) = true
  deadEnd : ∀ state, D.dead state = true → D.matching (D.atEnd state) = false
  noQuit : ∀ text b, D.quit (D.next (D.run text) b) = false
  atEnd : ∀ text pattern, D.matching (D.atEnd (D.run text)) = true ∧
      pattern ∈ D.patterns (D.atEnd (D.run text)) ↔
    ∃ e, expressions[pattern]? = some e ∧ Matches e text

variable {D : ByteAutomaton σ} {expressions : List ε} {Matches : ε → List UInt8 → Prop}

theorem run_append (D : ByteAutomaton σ) (front rest : List UInt8) :
    D.run (front ++ rest) = rest.foldl D.next (D.run front) :=
  List.foldl_append

/-- A text that does not stay alive ends in a dead state. -/
theorem Reports.dead_of_not_alive (reports : D.Reports expressions Matches) {terminals : List Nat}
    {text : List UInt8} (ended : ¬ (D.forTerminals terminals).Alive text) :
    D.dead (D.run text) = true := by
  induction text using List.reverseRecOn with
  | nil => exact absurd Automaton.alive_nil ended
  | append_singleton front b ih =>
    rw [run_append, List.foldl_cons, List.foldl_nil]
    rw [Automaton.alive_append, not_and_or] at ended
    rcases ended with before | here
    · exact reports.absorbing _ b (ih before)
    · have stuck : (D.dead (D.next (D.run front) b) || D.quit (D.next (D.run front) b)) = true :=
        Bool.eq_true_of_not_eq_false here
      rwa [reports.noQuit, Bool.or_false] at stuck

/-- What a scanner accepts after a text are the terminals of the expressions that match the text. -/
theorem Reports.accepts_run [DecidableEq σ] (reports : D.Reports expressions Matches)
    {terminals : List Nat} {n : Numbering σ} (numbered : (D.forTerminals terminals).Numbered n)
    (text : List UInt8) : ∃ set,
      ((D.forTerminals terminals).acceptsOf n)[(Automaton.tableOf n).run text]? = some set ∧
        ∀ t, t ∈ set ↔ ∃ (pattern : Nat) (e : ε), terminals[pattern]? = some t ∧
          expressions[pattern]? = some e ∧ Matches e text := by
  have told (t : Nat) : (D.matching (D.atEnd (D.run text)) = true ∧
      ∃ pattern ∈ D.patterns (D.atEnd (D.run text)), terminals[pattern]? = some t) ↔
        ∃ (pattern : Nat) (e : ε), terminals[pattern]? = some t ∧ expressions[pattern]? = some e ∧
          Matches e text := by
    constructor
    · rintro ⟨matching, pattern, listed, own⟩
      obtain ⟨e, place, matched⟩ := (reports.atEnd text pattern).mp ⟨matching, listed⟩
      exact ⟨pattern, e, own, place, matched⟩
    · rintro ⟨pattern, e, own, place, matched⟩
      obtain ⟨matching, listed⟩ := (reports.atEnd text pattern).mpr ⟨e, place, matched⟩
      exact ⟨matching, pattern, listed, own⟩
  obtain ⟨alive, ended⟩ := numbered.run text
  by_cases going : (D.forTerminals terminals).Alive text
  · have inside := (numbered.reached _).mpr (Automaton.reached_run going)
    refine ⟨D.accepts terminals (D.run text), ?_, fun t => ?_⟩
    · rw [alive going, Automaton.acceptsOf, List.getElem?_cons_succ, List.getElem?_map,
        List.getElem?_idxOf inside]
      rfl
    · rw [D.mem_accepts, told]
  · refine ⟨∅, by rw [ended going]; rfl, fun t => iff_of_false (OrderedSet.not_mem_empty t) ?_⟩
    rw [← told, reports.deadEnd _ (reports.dead_of_not_alive going)]
    rintro ⟨matching, _⟩
    cases matching

end ByteAutomaton

namespace Compiler

variable (library : Compiler) (Matches : library.Expression → List UInt8 → Prop)

/-- A library whose automata report the expressions that match. -/
def Faithful : Prop :=
  ∀ expressions n D, library.compile expressions = .ok ⟨n, D⟩ → D.Reports expressions Matches

/-- A library whose automata only report patterns that they were given. -/
def Honest : Prop :=
  ∀ expressions n D, library.compile expressions = .ok ⟨n, D⟩ → ∀ state, D.matching state = true →
    ∀ pattern ∈ D.patterns state, pattern < expressions.length

/-- A regular expression, as the library reads it, matches the whole of a text. -/
def MatchesWhole (regex : String) (text : List UInt8) : Prop :=
  ∃ e, library.read regex = .ok e ∧ Matches e text

variable {library}

/-- The place of a terminal is the place of its expression. -/
theorem exists_expression_iff {regexes : OrderedMap String} {expressions : List library.Expression}
    (read : library.readAll regexes = .ok expressions) (t : Nat) (text : List UInt8) :
    (∃ (pattern : Nat) (e : library.Expression), regexes.keys.elems[pattern]? = some t ∧
        expressions[pattern]? = some e ∧ Matches e text) ↔
      ∃ regex, regexes.get? t = some regex ∧ library.MatchesWhole Matches regex text := by
  have paired := (mapM_eq_ok_iff _ _ _).mp read
  have keys : regexes.keys.elems = regexes.entries.map Prod.fst := rfl
  have result {entry : Nat × String} {e : library.Expression}
      (made : library.readEntry entry = .ok e) : library.read entry.2 = .ok e := by
    unfold readEntry at made
    split at made
    · next found => rw [found, Except.ok.inj made]
    · cases made
  constructor
  · rintro ⟨pattern, e, own, place, matched⟩
    rw [keys, List.getElem?_map, Option.map_eq_some_iff] at own
    obtain ⟨entry, listed, rfl⟩ := own
    obtain ⟨e', place', made⟩ := exists_result_of_getElem? paired pattern entry listed
    obtain rfl : e = e' := Option.some.inj (place.symm.trans place')
    exact ⟨entry.2, (regexes.get?_eq_some_iff _ _).mpr (List.mem_of_getElem? listed), e, result made,
      matched⟩
  · rintro ⟨regex, own, e, parsed, matched⟩
    obtain ⟨pattern, listed⟩ := List.mem_iff_getElem?.mp ((regexes.get?_eq_some_iff t regex).mp own)
    obtain ⟨e', place, made⟩ := exists_result_of_getElem? paired pattern _ listed
    obtain rfl : e = e' := Except.ok.inj (parsed.symm.trans (result made))
    refine ⟨pattern, e, ?_, place, matched⟩
    rw [keys, List.getElem?_map, listed, Option.map_some]

theorem build_of_nonempty {regexes : OrderedMap String} (some : regexes.entries.isEmpty = false)
    {table : ScannerTable} {sets : ScannerSets} :
    library.build regexes = .ok (table, sets) ↔
      ∃ expressions n D, library.readAll regexes = .ok expressions ∧
        library.compile expressions = .ok ⟨n, D⟩ ∧
        flattened D regexes.keys.elems = .ok (table, sets) := by
  rw [build, some, if_neg Bool.false_ne_true, bind_eq_ok_iff]
  refine exists_congr (fun expressions => ?_)
  cases compiled : library.compile expressions with
  | error message => simp
  | ok made =>
    obtain ⟨n, D⟩ := made
    constructor
    · rintro ⟨read, flat⟩
      exact ⟨n, D, read, rfl, flat⟩
    · rintro ⟨_, _, read, same, flat⟩
      cases same
      exact ⟨read, flat⟩

end Compiler

namespace Scanner

/-- What a scanner tells in the state after a text, if the terminals have certain expressions:
exactly the terminals whose expression matches the text are accepted, and exactly those may follow
whose expression matches the text with some bytes after it. Nothing is told in the dead state. -/
structure Recognizes (Matches : String → List UInt8 → Prop) (regexOf : Nat → String → Prop)
    (table : ScannerTable) (sets : ScannerSets) : Prop where
  accepts : ∀ text, ∃ set, sets.accepts[table.run text]? = some set ∧
    ∀ t, t ∈ set ↔ ∃ regex, regexOf t regex ∧ Matches regex text
  possible : ∀ text, ∃ set, sets.possible[table.run text]? = some set ∧
    ∀ t, t ∈ set ↔ ∃ regex, regexOf t regex ∧ ∃ rest, Matches regex (text ++ rest)
  dead : sets.accepts[ScannerTable.dead]? = some ∅ ∧ sets.possible[ScannerTable.dead]? = some ∅

variable {Matches : String → List UInt8 → Prop} {regexOf other : Nat → String → Prop}
  {table : ScannerTable} {sets : ScannerSets}

theorem Recognizes.congr (recognizes : Recognizes Matches regexOf table sets)
    (same : ∀ t regex, regexOf t regex ↔ other t regex) : Recognizes Matches other table sets := by
  have equal : regexOf = other := by
    funext t regex
    exact propext (same t regex)
  rwa [← equal]

/-- Without expressions nothing is accepted and nothing may follow. -/
theorem Recognizes.silent (recognizes : Recognizes Matches regexOf table sets)
    (none : ∀ t regex, ¬ regexOf t regex) (text : List UInt8) :
    sets.accepts[table.run text]? = some ∅ ∧ sets.possible[table.run text]? = some ∅ := by
  have empty {set : IndexSet} {P : Nat → String → Prop}
      (members : ∀ t, t ∈ set ↔ ∃ regex, regexOf t regex ∧ P t regex) : set = ∅ := by
    apply OrderedSet.ext_mem
    intro t
    refine iff_of_false ?_ (OrderedSet.not_mem_empty t)
    rw [members]
    rintro ⟨regex, own, _⟩
    exact none t regex own
  obtain ⟨set, found, members⟩ := recognizes.accepts text
  obtain ⟨set', found', members'⟩ := recognizes.possible text
  rw [found, found', empty members, empty members']
  exact ⟨rfl, rfl⟩

/-- A scanner whose table is without gaps, and which accepts in the state after a text the terminals
that the text spells. -/
structure Scans (Spells : Nat → List UInt8 → Prop) (table : ScannerTable) (sets : ScannerSets) :
    Prop where
  complete : table.Complete
  length : sets.accepts.length = table.size
  silent : sets.accepts[ScannerTable.dead]? = some ∅
  possible : sets.possible = PossibleSets.compute table.rows sets.accepts
  accepts : ∀ text, ∃ set, sets.accepts[table.run text]? = some set ∧ ∀ t, t ∈ set ↔ Spells t text

section Scans

variable {Spells : Nat → List UInt8 → Prop}

theorem Scans.mem_setOf_accepts (scans : Scans Spells table sets) (text : List UInt8) (t : Nat) :
    t ∈ PossibleSets.setOf sets.accepts (table.run text) ↔ Spells t text := by
  obtain ⟨set, found, members⟩ := scans.accepts text
  rw [PossibleSets.setOf, found, Option.getD_some, members]

theorem Scans.mem_setOf_possible (scans : Scans Spells table sets) (text : List UInt8) (t : Nat) :
    t ∈ PossibleSets.setOf sets.possible (table.run text) ↔ ∃ rest, Spells t (text ++ rest) := by
  rw [scans.possible, PossibleSets.mem_compute scans.complete scans.length scans.silent]
  refine exists_congr (fun rest => ?_)
  rw [← scans.mem_setOf_accepts, ScannerTable.run, ScannerTable.run, List.foldl_append]

theorem Scans.exists_possible (scans : Scans Spells table sets) {state : Nat} {set : IndexSet}
    (accepted : sets.accepts[state]? = some set) : ∃ set, sets.possible[state]? = some set := by
  have inside := (List.getElem?_eq_some_iff.mp accepted).1
  have grows := (PossibleSets.compute_closed table.rows sets.accepts).1
  rw [← scans.possible] at grows
  exact ⟨_, List.getElem?_eq_getElem (List.Forall₂.length_eq grows ▸ inside)⟩

theorem Scans.possible_dead (scans : Scans Spells table sets) :
    sets.possible[ScannerTable.dead]? = some ∅ := by
  obtain ⟨set, found⟩ := scans.exists_possible scans.silent
  have none (t : Nat) : t ∉ set := by
    intro held
    have own : t ∈ PossibleSets.setOf sets.possible ScannerTable.dead := by
      rw [PossibleSets.setOf, found]
      exact held
    rw [scans.possible, PossibleSets.mem_compute scans.complete scans.length scans.silent] at own
    obtain ⟨text, accepted⟩ := own
    rw [PossibleSets.foldl_next_dead scans.complete, PossibleSets.setOf, scans.silent] at accepted
    exact OrderedSet.not_mem_empty t accepted
  rw [found, OrderedSet.ext_mem (t := ∅) (fun t =>
    iff_of_false (none t) (OrderedSet.not_mem_empty t))]

/-- A scanner recognizes the expressions whose texts spell its terminals. -/
theorem Scans.recognizes (scans : Scans Spells table sets)
    (spelt : ∀ t text, Spells t text ↔ ∃ regex, regexOf t regex ∧ Matches regex text) :
    Recognizes Matches regexOf table sets where
  accepts text := by
    obtain ⟨set, found, members⟩ := scans.accepts text
    exact ⟨set, found, fun t => (members t).trans (spelt t text)⟩
  possible text := by
    obtain ⟨accepted, here, _⟩ := scans.accepts text
    obtain ⟨set, found⟩ := scans.exists_possible here
    refine ⟨set, found, fun t => ?_⟩
    have follows := scans.mem_setOf_possible text t
    rw [PossibleSets.setOf, found, Option.getD_some] at follows
    rw [follows]
    constructor
    · rintro ⟨rest, spells⟩
      obtain ⟨regex, own, matched⟩ := (spelt t _).mp spells
      exact ⟨regex, own, rest, matched⟩
    · rintro ⟨regex, own, rest, matched⟩
      exact ⟨rest, (spelt t _).mpr ⟨regex, own, matched⟩⟩
  dead := ⟨scans.silent, scans.possible_dead⟩

end Scans

/-- The scanner without expressions accepts nothing. -/
theorem scans_blank : Scans (fun _ _ => False) .blank (.blank 2) := by
  have rows : ∀ row ∈ ScannerTable.blank.rows, row = ScannerTable.deadRow := by
    simp [ScannerTable.blank]
  have complete : ScannerTable.blank.Complete := by
    refine ⟨rfl, fun row listed => ?_, fun row listed k inside => ?_⟩
    · rw [rows row listed]
      exact List.length_replicate
    · rw [rows row listed] at inside
      rw [List.eq_of_mem_replicate inside]
      exact Nat.two_pos
  refine ⟨complete, rfl, rfl, rfl, fun text => ⟨∅, ?_, fun t => ?_⟩⟩
  · have small : ScannerTable.blank.run text < 2 := by
      induction text using List.reverseRecOn with
      | nil => exact Nat.one_lt_two
      | append_singleton front b ih =>
        rw [ScannerTable.run_append]
        exact complete.next_lt ih b
    exact (List.getElem?_replicate).trans (if_pos small)
  · exact iff_of_false (OrderedSet.not_mem_empty t) id

/-- The scanner of a compiled automaton accepts the terminals whose expressions match. -/
theorem scans_of_reports {σ ε : Type} [DecidableEq σ] {D : ByteAutomaton σ} {expressions : List ε}
    {matching : ε → List UInt8 → Prop} (reports : D.Reports expressions matching)
    {terminals : List Nat} {n : Numbering σ} (numbered : (D.forTerminals terminals).Numbered n) :
    Scans (fun t text => ∃ (pattern : Nat) (e : ε), terminals[pattern]? = some t ∧
        expressions[pattern]? = some e ∧ matching e text)
      ((D.forTerminals terminals).scanner n).1 ((D.forTerminals terminals).scanner n).2 where
  complete := numbered.represents.complete
  length := by
    simp [Automaton.scanner, Automaton.acceptsOf, Automaton.tableOf, ScannerTable.size,
      numbered.represents.filled]
  silent := rfl
  possible := rfl
  accepts := reports.accepts_run numbered

end Scanner

/-- A scanner that a faithful library builds recognizes its regular expressions. -/
theorem Compiler.recognizes_of_build {library : Compiler}
    {Matches : library.Expression → List UInt8 → Prop} (faithful : library.Faithful Matches)
    {regexes : OrderedMap String} {table : ScannerTable} {sets : ScannerSets}
    (built : library.build regexes = .ok (table, sets)) :
    Scanner.Recognizes (library.MatchesWhole Matches) (fun t regex => regexes.get? t = some regex)
      table sets := by
  cases empty : regexes.entries.isEmpty with
  | true =>
    rw [build, empty, if_pos rfl] at built
    cases built
    refine Scanner.scans_blank.recognizes (fun t text => iff_of_false id ?_)
    rintro ⟨regex, own, _⟩
    have listed := (regexes.get?_eq_some_iff t regex).mp own
    rw [List.isEmpty_iff.mp empty] at listed
    cases listed
  | false =>
    obtain ⟨expressions, n, D, read, compiled, flat⟩ := (build_of_nonempty empty).mp built
    obtain ⟨numbering, numbered, same⟩ := exists_numbered D regexes.keys.elems
    cases flat.symm.trans same
    exact (Scanner.scans_of_reports (faithful _ n D compiled) numbered).recognizes
      (exists_expression_iff Matches read)

end ParserSplice
