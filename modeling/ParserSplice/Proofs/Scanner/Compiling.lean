import ParserSplice.Proofs.Scanner.Merging
import ParserSplice.Proofs.Scanner.Progress
import ParserSplice.Proofs.Scanner.Recognition

set_option autoImplicit false

namespace ParserSplice

namespace Minimal

variable {rows : List (List Nat)} {groups : List Nat} {accepts : List IndexSet}

theorem val_ofNat {bound n : Nat} (below : n < 2 * bound + 1) :
    (Fin.ofNat (2 * bound + 1) n).val = n :=
  Nat.mod_eq_of_lt below

theorem dead_reporting (state : Fin (2 * rows.length + 1)) :
    (reporting rows groups accepts).dead state = true ↔ state = 0 :=
  beq_iff_eq.trans Fin.val_eq_zero_iff

theorem atEnd_reporting_zero : (reporting rows groups accepts).atEnd 0 = 0 := rfl

theorem matching_reporting (state : Fin (2 * rows.length + 1)) :
    (reporting rows groups accepts).matching state = true ↔ rows.length < state.val :=
  decide_eq_true_iff

theorem matching_reporting_zero : (reporting rows groups accepts).matching 0 = false := by
  rw [Bool.eq_false_iff, Ne, matching_reporting]
  exact Nat.not_lt_zero _

theorem next_reporting_zero
    (settles : (automaton rows groups accepts).SettlesStuck) (b : UInt8) :
    (reporting rows groups accepts).next 0 b = 0 := by
  have still : (automaton rows groups accepts).step 0 b = 0 :=
    eq_of_beq (settles.absorbing ScannerTable.dead b rfl)
  show (if _ then Fin.ofNat _ ((automaton rows groups accepts).step 0 b) else 0) = _
  rw [still]
  exact ite_self _

/-- What is reported is accepted by some group. -/
theorem mem_patterns_reporting {state : Fin (2 * rows.length + 1)} {pattern : Nat}
    (listed : pattern ∈ (reporting rows groups accepts).patterns state) :
    ∃ k : Nat, pattern ∈ accepts[k]?.getD ∅ := by
  replace listed : pattern ∈ (if rows.length < state.val then
      ((automaton rows groups accepts).accepts (state.val - rows.length)).elems else []) := listed
  split at listed
  · rw [automaton_accepts] at listed
    exact ⟨_, listed⟩
  · cases listed

/-- The automaton that reports at the end runs like the automaton of groups. -/
theorem run_reporting (small : ∀ text, (automaton rows groups accepts).run text < rows.length)
    (text : List UInt8) : ((reporting rows groups accepts).run text).val =
      (automaton rows groups accepts).run text := by
  have fits (text : List UInt8) : (automaton rows groups accepts).run text < 2 * rows.length + 1 := by
    have bound := small text
    omega
  induction text using List.reverseRecOn with
  | nil => exact val_ofNat (fits [])
  | append_singleton front b ih =>
    have whole := fits (front ++ [b])
    rw [Automaton.run_append] at whole ⊢
    rw [ByteAutomaton.run_append, List.foldl_cons, List.foldl_nil]
    show (if _ then _ else _ : Fin (2 * rows.length + 1)).val = _
    rw [ih, if_pos (small front)]
    exact val_ofNat whole

/-- The step at the end of a text tells what the automaton of groups accepts after it. -/
theorem reporting_atEnd (small : ∀ text, (automaton rows groups accepts).run text < rows.length)
    (silent : (automaton rows groups accepts).accepts ScannerTable.dead = ∅) (text : List UInt8)
    (pattern : Nat) :
    ((reporting rows groups accepts).matching ((reporting rows groups accepts).atEnd
        ((reporting rows groups accepts).run text)) = true ∧
      pattern ∈ (reporting rows groups accepts).patterns ((reporting rows groups accepts).atEnd
        ((reporting rows groups accepts).run text))) ↔
      pattern ∈ (automaton rows groups accepts).accepts
        ((automaton rows groups accepts).run text) := by
  have run := run_reporting small text
  have bound := small text
  by_cases dead : (automaton rows groups accepts).run text = 0
  · have last : (reporting rows groups accepts).atEnd
        ((reporting rows groups accepts).run text) = 0 := if_pos (run.trans dead)
    rw [last, dead]
    refine iff_of_false ?_ (silent ▸ OrderedSet.not_mem_empty pattern)
    rw [matching_reporting_zero]
    rintro ⟨matching, _⟩
    cases matching
  · have last : ((reporting rows groups accepts).atEnd
        ((reporting rows groups accepts).run text)).val =
          (automaton rows groups accepts).run text + rows.length := by
      show (if _ then _ else _ : Fin (2 * rows.length + 1)).val = _
      rw [run, if_neg dead]
      exact val_ofNat (by omega)
    have past : rows.length < ((reporting rows groups accepts).atEnd
        ((reporting rows groups accepts).run text)).val := by
      omega
    have told : (reporting rows groups accepts).patterns ((reporting rows groups accepts).atEnd
        ((reporting rows groups accepts).run text)) =
          ((automaton rows groups accepts).accepts
            ((automaton rows groups accepts).run text)).elems := by
      refine (if_pos past).trans ?_
      rw [last, Nat.add_sub_cancel]
    rw [told]
    exact and_iff_right ((matching_reporting _).mpr past)

end Minimal

namespace Scanner

open Regex (Term)

variable {terms : List (Nat × Term)} {wide : Numbering Progress}

/-- Keys tell accept sets apart. -/
theorem acceptsOf_eq_of_keys (terms : List (Nat × Term)) (wide : Numbering Progress) (i j : Nat)
    (same : (keysOf wide)[i]? = (keysOf wide)[j]?) :
    ((Progress.automaton terms).acceptsOf wide)[i]? =
      ((Progress.automaton terms).acceptsOf wide)[j]? := by
  have members : ((Progress.automaton terms).acceptsOf wide).map OrderedSet.elems =
      (keysOf wide).map Prod.fst := by
    simp only [Automaton.acceptsOf, keysOf, List.map_cons, List.map_map]
    rfl
  have injective : Function.Injective (OrderedSet.elems : IndexSet → List Nat) := by
    rintro ⟨first, _⟩ ⟨second, _⟩ rfl
    rfl
  apply Option.map_injective injective
  rw [← List.getElem?_map, ← List.getElem?_map, members, List.getElem?_map, List.getElem?_map, same]

def mergedOf (terms : List (Nat × Term)) (wide : Numbering Progress) : Automaton Nat :=
  Minimal.automaton (Automaton.tableOf wide).rows
    (Minimal.groups (keysOf wide) (Automaton.tableOf wide).rows)
    ((Progress.automaton terms).acceptsOf wide)

/-- Merged states accept what the progress after a text accepts. -/
theorem accepts_mergedOf (whole : (Progress.automaton terms).Represents wide) :
    (mergedOf terms wide).SettlesStuck ∧
    ∀ text, (mergedOf terms wide).run text < (Automaton.tableOf wide).rows.length ∧
      (mergedOf terms wide).accepts ((mergedOf terms wide).run text) =
        ((Progress.automaton terms).run text).accepts := by
  have several : 1 < (Automaton.tableOf wide).rows.length := by
    have inside := (Array.getElem?_eq_some_iff.mp whole.start).1
    rw [Automaton.tableOf, List.length_cons, Array.length_toList, whole.filled]
    omega
  have sizes : (keysOf wide).length = (Automaton.tableOf wide).rows.length := by
    simp [keysOf, Automaton.tableOf, whole.filled]
  have congruent := Minimal.congruent_groups sizes (Nat.lt_of_succ_lt several)
  have settles : (mergedOf terms wide).SettlesStuck :=
    congruent.settlesStuck whole.complete (Nat.lt_of_succ_lt several) rfl
  refine ⟨settles, fun text => ⟨(congruent.run whole.complete several text).1, ?_⟩⟩
  have own := Automaton.getElem?_acceptsOf (Progress.settlesStuck terms)
    (whole.run (Progress.settlesStuck terms) text)
  have run := congruent.accepts_run whole.complete several (acceptsOf_eq_of_keys terms wide) text
  exact run.trans (congrArg (fun found => found.getD ∅) own)

/-- An expression that bytes can decide matches the whole of a text. -/
def MatchesWhole (e : Regex.Meaning) (text : List UInt8) : Prop :=
  e.term.Matches .edge text .edge

theorem mem_termsOf {expressions : List Regex.Meaning} {place : Nat} {term : Term} :
    (place, term) ∈ termsOf expressions ↔ ∃ e, expressions[place]? = some e ∧ e.term = term := by
  simp only [termsOf, List.mem_map, Prod.mk.injEq]
  constructor
  · rintro ⟨⟨e, k⟩, listed, rfl, rfl⟩
    exact ⟨e, List.mem_zipIdx_iff_getElem?.mp listed, rfl⟩
  · rintro ⟨e, found, rfl⟩
    exact ⟨(e, place), List.mem_zipIdx_iff_getElem?.mpr found, rfl, rfl⟩

theorem spells_termsOf {expressions : List Regex.Meaning} {place : Nat} {text : List UInt8} :
    Spells (termsOf expressions) place text ↔
      ∃ e, expressions[place]? = some e ∧ MatchesWhole e text := by
  constructor
  · rintro ⟨term, listed, matched⟩
    obtain ⟨e, found, rfl⟩ := mem_termsOf.mp listed
    exact ⟨e, found, matched⟩
  · rintro ⟨e, found, matched⟩
    exact ⟨e.term, mem_termsOf.mpr ⟨e, found, rfl⟩, matched⟩

/-- What the library compiles is the merged automaton of the progress of its expressions. -/
theorem exists_merged_of_compile {expressions : List Regex.Meaning} {n : Nat}
    {D : ByteAutomaton (Fin n)} (compiled : compile expressions = .ok ⟨n, D⟩) :
    ∃ wide, (Progress.automaton (termsOf expressions)).number stateLimit = some wide ∧
      (⟨n, D⟩ : (n : Nat) × ByteAutomaton (Fin n)) = merged (termsOf expressions) wide := by
  rw [compile] at compiled
  split at compiled
  · cases compiled
  · split at compiled
    · cases compiled
    · next wide found => exact ⟨wide, found, (Except.ok.inj compiled).symm⟩

/-- What the library compiles reports the expressions that match. -/
theorem reports_of_compile {expressions : List Regex.Meaning} {n : Nat}
    {D : ByteAutomaton (Fin n)} (compiled : compile expressions = .ok ⟨n, D⟩) :
    D.Reports expressions MatchesWhole := by
  obtain ⟨wide, numbered, made⟩ := exists_merged_of_compile compiled
  cases made
  obtain ⟨settles, accepts⟩ := accepts_mergedOf (Automaton.number_represents numbered)
  constructor
  case absorbing =>
    intro state b dead
    rw [(Minimal.dead_reporting state).mp dead, Minimal.dead_reporting]
    exact Minimal.next_reporting_zero settles b
  case deadEnd =>
    intro state dead
    rw [(Minimal.dead_reporting state).mp dead, Minimal.atEnd_reporting_zero]
    exact Minimal.matching_reporting_zero
  case noQuit => exact fun _ _ => rfl
  case atEnd =>
    intro text place
    rw [← spells_termsOf, ← (Progress.tracks_run _ text).mem_accepts, ← (accepts text).2]
    exact Minimal.reporting_atEnd (fun text => (accepts text).1) (settles.silent _ rfl) text place

theorem compiler_faithful : compiler.Faithful MatchesWhole :=
  fun _ _ _ compiled => reports_of_compile compiled

/-- A scanner can be built if few enough ways of progress lead nowhere else. -/
theorem exists_build {regexes : OrderedMap String} {expressions : List Regex.Meaning}
    (some : regexes.entries.isEmpty = false) (read : compiler.readAll regexes = .ok expressions)
    (bytewise : expressions.any (fun e => e.unicodeWords) = false) {known : List Progress}
    (closed : (Progress.automaton (termsOf expressions)).Closed known)
    (start : Progress.initial (termsOf expressions) ∈ known)
    (enough : known.length ≤ stateLimit) : ∃ scanner, build regexes = .ok scanner := by
  obtain ⟨wide, numbered⟩ := (Progress.automaton _).exists_number closed start enough
  have compiled : compile expressions = .ok (merged (termsOf expressions) wide) := by
    rw [compile, bytewise, if_neg Bool.false_ne_true, numbered]
  obtain ⟨numbering, _, flat⟩ := Compiler.exists_numbered (merged (termsOf expressions) wide).2
    regexes.keys.elems
  exact ⟨_, (Compiler.build_of_nonempty some).mpr ⟨expressions, _, _, read, compiled, flat⟩⟩

end Scanner

end ParserSplice
