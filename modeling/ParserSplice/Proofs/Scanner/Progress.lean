import ParserSplice.Proofs.Regex.Matching
import ParserSplice.Proofs.Scanner.Numbering
import ParserSplice.Scanner.Build

set_option autoImplicit false

namespace ParserSplice.Scanner

open Regex (Term Side)

/-- A whole text is matched by an expression of a terminal. -/
def Spells (terms : List (Nat × Term)) (t : Nat) (text : List UInt8) : Prop :=
  ∃ term, (t, term) ∈ terms ∧ term.Matches .edge text .edge

namespace Progress

/-- The progress after a text. -/
structure Tracks (terms : List (Nat × Term)) (text : List UInt8) (p : Progress) : Prop where
  before : p.sensitive = true → p.before = Side.behind .edge text
  plain : p.sensitive = false → ∀ t r, (t, r) ∈ p.pending → r.hasLook = false
  pending : ∀ t rest after,
    (∃ r, (t, r) ∈ p.pending ∧ r.Matches (Side.behind .edge text) rest after) ↔
      ∃ term, (t, term) ∈ terms ∧ term.Matches .edge (text ++ rest) after

variable {terms : List (Nat × Term)} {text : List UInt8} {p : Progress}

theorem tracks_initial (terms : List (Nat × Term)) : Tracks terms [] (initial terms) := by
  refine ⟨fun sensitive => ?_, fun insensitive t r listed => ?_, fun t rest after => Iff.rfl⟩
  · replace sensitive : terms.any (fun t => t.2.hasLook) = true := sensitive
    simp [initial, sensitive]
  · replace insensitive : terms.any (fun t => t.2.hasLook) = false := insensitive
    rw [List.any_eq_false] at insensitive
    simpa using insensitive (t, r) listed

theorem Tracks.step_eq (tracks : Tracks terms text p) {t : Nat} {r : Term}
    (listed : (t, r) ∈ p.pending) (b : UInt8) :
    r.step p.before b = r.step (Side.behind .edge text) b := by
  cases sensitive : p.sensitive with
  | true => rw [tracks.before sensitive]
  | false => exact Term.step_eq_of_plain (tracks.plain sensitive t r listed) _ _ b

theorem Tracks.nullable_eq (tracks : Tracks terms text p) {t : Nat} {r : Term}
    (listed : (t, r) ∈ p.pending) (after : Side) :
    r.nullable p.before after = r.nullable (Side.behind .edge text) after := by
  cases sensitive : p.sensitive with
  | true => rw [tracks.before sensitive]
  | false => exact Term.nullable_eq_of_plain (tracks.plain sensitive t r listed) _ _ _ _

theorem mem_pending_step (p : Progress) (b : UInt8) (t : Nat) (r : Term) :
    (t, r) ∈ (p.step b).pending ↔ ∃ earlier, (t, earlier) ∈ p.pending ∧ r ∈ earlier.step p.before b := by
  simp only [step, List.mem_eraseDups, List.mem_flatMap, List.mem_map]
  constructor
  · rintro ⟨⟨t, earlier⟩, listed, r, stepped, same⟩
    cases same
    exact ⟨earlier, listed, stepped⟩
  · rintro ⟨earlier, listed, stepped⟩
    exact ⟨(t, earlier), listed, r, stepped, rfl⟩

theorem Tracks.step (tracks : Tracks terms text p) (b : UInt8) :
    Tracks terms (text ++ [b]) (p.step b) := by
  have behind : Side.behind .edge (text ++ [b]) = Side.ofByte b := Side.behind_append _ _ _
  refine ⟨fun sensitive => ?_, fun insensitive t r listed => ?_, fun t rest after => ?_⟩
  · replace sensitive : p.sensitive = true := sensitive
    rw [behind]
    exact if_pos sensitive
  · obtain ⟨earlier, listed, stepped⟩ := (mem_pending_step p b t r).mp listed
    exact Term.plain_of_mem_step (tracks.plain insensitive t earlier listed) stepped
  · rw [behind, List.append_assoc, List.singleton_append, ← tracks.pending]
    simp only [mem_pending_step]
    constructor
    · rintro ⟨r, ⟨earlier, listed, stepped⟩, later⟩
      rw [tracks.step_eq listed] at stepped
      exact ⟨earlier, listed, earlier.matches_cons_iff.mpr ⟨r, stepped, later⟩⟩
    · rintro ⟨earlier, listed, whole⟩
      obtain ⟨r, stepped, later⟩ := earlier.matches_cons_iff.mp whole
      rw [← tracks.step_eq listed] at stepped
      exact ⟨r, ⟨earlier, listed, stepped⟩, later⟩

/-- The progress of a run follows the text that has been read. -/
theorem tracks_run (terms : List (Nat × Term)) (text : List UInt8) :
    Tracks terms text ((automaton terms).run text) := by
  induction text using List.reverseRecOn with
  | nil => exact tracks_initial terms
  | append_singleton front b ih =>
    rw [Automaton.run_append]
    exact ih.step b

theorem mem_matchedBefore (p : Progress) (after : Side) (t : Nat) :
    t ∈ p.matchedBefore after ↔ ∃ r, (t, r) ∈ p.pending ∧ r.nullable p.before after = true := by
  simp [matchedBefore]

/-- The accepted terminals are those that spell what has been read. -/
theorem Tracks.mem_accepts (tracks : Tracks terms text p) (t : Nat) :
    t ∈ p.accepts ↔ Spells terms t text := by
  rw [accepts, OrderedSet.mem_ofList, mem_matchedBefore, Spells]
  have whole := tracks.pending t [] .edge
  rw [List.append_nil] at whole
  rw [← whole]
  constructor
  · rintro ⟨r, listed, null⟩
    rw [tracks.nullable_eq listed] at null
    exact ⟨r, listed, r.matches_nil_iff.mpr null⟩
  · rintro ⟨r, listed, matched⟩
    refine ⟨r, listed, ?_⟩
    rw [tracks.nullable_eq listed]
    exact r.matches_nil_iff.mp matched

theorem pending_of_stuck (stuck : p.stuck = true) : p.pending = [] := by
  rw [Progress.stuck, Bool.and_eq_true] at stuck
  exact List.isEmpty_iff.mp stuck.1

theorem settlesStuck (terms : List (Nat × Term)) : (automaton terms).SettlesStuck where
  absorbing p b stuck := by
    have none := pending_of_stuck stuck
    show ((p.step b).pending.isEmpty && (p.step b).matched.isEmpty) = true
    simp [step, matchedBefore, none]
  silent p stuck := by
    have none := pending_of_stuck stuck
    show p.accepts = ∅
    simp only [accepts, matchedBefore, none]
    rfl

end Progress

end ParserSplice.Scanner
