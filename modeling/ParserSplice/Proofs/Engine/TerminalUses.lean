import Mathlib.Data.List.Induction
import ParserSplice.Proofs.Engine.Independence

set_option autoImplicit false

namespace ParserSplice

namespace TerminalUse

/-- What the roles that a terminal plays leave of the three bits. -/
def remaining (shifted layout transparent : Bool) : UInt8 :=
  unconstrained &&& (if shifted then 1 else unconstrained) &&&
    (if layout then 2 else unconstrained) &&& (if transparent then 4 else unconstrained)

theorem remaining_and : ∀ a b c a' b' c' : Bool,
    remaining a b c &&& remaining a' b' c' = remaining (a || a') (b || b') (c || c') := by
  decide

def restriction (plays : TerminalUse → Bool) : UInt8 :=
  remaining (plays .shiftable) (plays .layout) (plays .transparent)

variable (plays plays' : TerminalUse → Bool)

theorem restriction_and_restriction :
    restriction plays &&& restriction plays' = restriction (fun role => plays role || plays' role) :=
  remaining_and _ _ _ _ _ _

theorem mask_eq_restriction (role : TerminalUse) :
    role.mask = restriction (fun other => decide (other = role)) := by
  cases role <;> rfl

theorem restriction_and_mask (role : TerminalUse) : restriction plays &&& role.mask =
    restriction (fun other => plays other || decide (other = role)) := by
  rw [mask_eq_restriction, restriction_and_restriction]

theorem forall_iff {p : TerminalUse → Prop} :
    (∀ role, p role) ↔ p .shiftable ∧ p .layout ∧ p .transparent := by
  constructor
  · intro all
    exact ⟨all _, all _, all _⟩
  · intro given role
    obtain ⟨shiftable, layout, transparent⟩ := given
    cases role <;> assumption

/-- A bit is left exactly if no other role is played. -/
theorem restriction_keeps_iff (role : TerminalUse) :
    restriction plays &&& role.mask ≠ 0 ↔ ∀ other, plays other = true → other = role := by
  have cases : ∀ a b c : Bool, remaining a b c &&& role.mask ≠ 0 ↔
      (a = true → .shiftable = role) ∧ (b = true → .layout = role) ∧
        (c = true → .transparent = role) := by
    cases role <;> decide
  rw [forall_iff]
  exact cases _ _ _

theorem restriction_eq_zero {role other : TerminalUse} (first : plays role = true)
    (second : plays other = true) (differ : role ≠ other) : restriction plays = 0 := by
  have exclusive : role.mask &&& other.mask = 0 := by
    revert differ
    cases role <;> cases other <;> decide
  have played : (fun r => (plays r || decide (r = role)) || decide (r = other)) = plays := by
    funext r
    by_cases same : r = role
    · simp [same, first]
    · by_cases same' : r = other
      · simp [same', second]
      · simp [same, same']
  calc restriction plays
    _ = (restriction plays &&& role.mask) &&& other.mask := by
      rw [restriction_and_mask, restriction_and_mask, played]
    _ = 0 := by rw [UInt8.and_assoc, exclusive, UInt8.and_zero]

/-- The masks depend on which appearances there are, not on their order or number. -/
theorem getElem?_masks (count : Nat) (appearances : List (Nat × TerminalUse)) (terminal : Nat)
    (inside : terminal < count) : (masks count appearances)[terminal]? =
      some (restriction (fun role => decide ((terminal, role) ∈ appearances))) := by
  -- The last appearance acts on what the earlier ones have left.
  induction appearances using List.reverseRecOn with
  | nil =>
    show (List.replicate count unconstrained)[terminal]? = _
    simp [inside, restriction, remaining]
  | append_singleton earlier last ih =>
    obtain ⟨other, role⟩ := last
    have step : masks count (earlier ++ [(other, role)]) =
        (masks count earlier).modify other (· &&& role.mask) := by
      rw [masks, List.foldl_append]
      rfl
    rw [step, List.getElem?_modify, ih]
    by_cases same : other = terminal
    · subst same
      simp [restriction_and_mask]
    · have foreign (r : TerminalUse) : (terminal, r) ≠ (other, role) := by
        intro equal
        exact same (congrArg Prod.fst equal).symm
      simp [same, foreign]

/-- Lists of the same appearances leave the same masks. -/
theorem masks_congr (count : Nat) {appearances appearances' : List (Nat × TerminalUse)}
    (same : ∀ a, a ∈ appearances ↔ a ∈ appearances') :
    masks count appearances = masks count appearances' := by
  apply List.ext_getElem?
  intro terminal
  rcases Nat.lt_or_ge terminal count with inside | outside
  · simp only [getElem?_masks _ _ _ inside, same]
  · rw [List.getElem?_eq_none (by rwa [length_masks]), List.getElem?_eq_none (by rwa [length_masks])]

end TerminalUse

namespace Member

variable (m : Member) (host : Grammar)

def Plays (terminal : Nat) : TerminalUse → Prop
  | .shiftable => ∃ s < m.fragment.size, ∃ action,
    (m.fragment.table.row s).get? terminal = some action ∧
      m.owner.classify host terminal = some .terminal
  | .layout => ∃ s < m.fragment.size, terminal ∈ m.fragment.layout s
  | .transparent => ∃ s < m.fragment.size, terminal ∈ m.fragment.transparent s

variable {m} {host}

theorem mem_entryUses (column terminal : Nat) (role : TerminalUse) :
    (terminal, role) ∈ m.entryUses host column ↔
      column = terminal ∧ role = .shiftable ∧ m.owner.classify host column = some .terminal := by
  unfold entryUses
  split
  · next known => simp [known, eq_comm]
  · next other => simp [other]

theorem mem_uses_copied (s terminal : Nat) (role : TerminalUse) :
    (terminal, role) ∈ (m.copied host s).uses ↔
      (role = .shiftable ∧ ∃ action, (m.fragment.table.row s).get? terminal = some action ∧
        m.owner.classify host terminal = some .terminal) ∨
      (role = .layout ∧ terminal ∈ m.fragment.layout s) ∨
      (role = .transparent ∧ terminal ∈ m.fragment.transparent s) := by
  have entries : (terminal, role) ∈ (m.fragment.table.row s).entries.flatMap
        (fun entry => m.entryUses host entry.1) ↔
      role = .shiftable ∧ ∃ action, (m.fragment.table.row s).get? terminal = some action ∧
        m.owner.classify host terminal = some .terminal := by
    simp only [List.mem_flatMap, mem_entryUses, OrderedMap.get?_eq_some_iff]
    constructor
    · intro given
      obtain ⟨⟨column, action⟩, listed, rfl, shifted, known⟩ := given
      exact ⟨shifted, action, listed, known⟩
    · intro given
      obtain ⟨shifted, action, listed, known⟩ := given
      exact ⟨(terminal, action), listed, rfl, shifted, known⟩
  have named (set : IndexSet) (own : TerminalUse) :
      (terminal, role) ∈ set.elems.map (fun t => (t, own)) ↔ role = own ∧ terminal ∈ set := by
    rw [List.mem_map]
    constructor
    · intro given
      obtain ⟨_, inside, same⟩ := given
      cases same
      exact ⟨rfl, inside⟩
    · intro given
      obtain ⟨rfl, inside⟩ := given
      exact ⟨terminal, inside, rfl⟩
  simp only [copied, List.mem_append, entries, named, or_assoc]

/-- The appearances in the copied states are the roles that are played. -/
theorem mem_appearances_iff (terminal : Nat) (role : TerminalUse) :
    (terminal, role) ∈ (List.range m.fragment.size).flatMap (fun s => (m.copied host s).uses) ↔
      m.Plays host terminal role := by
  simp only [List.mem_flatMap, List.mem_range, mem_uses_copied]
  cases role <;> simp [Plays]

/-- Use masks that say exactly which roles the terminals of a fragment play. -/
structure ExactUses (m : Member) (host : Grammar) (uses : List UInt8) : Prop where
  length : uses.length = m.owner.terminalCount host
  mask : ∀ terminal < uses.length, ∃ plays : TerminalUse → Bool,
    (∀ role, plays role = true ↔ m.Plays host terminal role) ∧
      uses[terminal]? = some (TerminalUse.restriction plays)
  unused : ∀ terminal < uses.length, (∀ role, ¬ m.Plays host terminal role) →
    uses[terminal]? = some TerminalUse.unconstrained
  single : ∀ terminal < uses.length, ∀ role, m.Plays host terminal role →
    (∀ other, m.Plays host terminal other → other = role) → uses[terminal]? = some role.mask
  several : ∀ terminal < uses.length, ∀ role other, m.Plays host terminal role →
    m.Plays host terminal other → role ≠ other → uses[terminal]? = some 0
  order : ∀ states : List Nat, states.Perm (List.range m.fragment.size) →
    TerminalUse.masks (m.owner.terminalCount host)
      (states.flatMap (fun s => (m.copied host s).uses)) = uses

/-- The use masks of a fragment are exact. -/
theorem exactUses_uses : m.ExactUses host (m.uses host) := by
  have length : (m.uses host).length = m.owner.terminalCount host :=
    TerminalUse.length_masks _ _
  -- Every field but the last two reads the mask that belongs to the roles.
  have mask : ∀ terminal < (m.uses host).length, ∃ plays : TerminalUse → Bool,
      (∀ role, plays role = true ↔ m.Plays host terminal role) ∧
        (m.uses host)[terminal]? = some (TerminalUse.restriction plays) := by
    intro terminal inside
    refine ⟨_, fun role => ?_, TerminalUse.getElem?_masks _ _ terminal (length ▸ inside)⟩
    rw [decide_eq_true_iff, mem_appearances_iff]
  refine ⟨length, mask, ?_, ?_, ?_, ?_⟩
  · intro terminal inside unplayed
    obtain ⟨plays, exact, found⟩ := mask terminal inside
    obtain rfl : plays = fun _ => false :=
      funext (fun role => Bool.eq_false_iff.mpr (fun played => unplayed role ((exact role).mp played)))
    exact found
  · intro terminal inside role played only
    obtain ⟨plays, exact, found⟩ := mask terminal inside
    obtain rfl : plays = fun other => decide (other = role) := by
      funext other
      rw [Bool.eq_iff_iff, exact, decide_eq_true_iff]
      exact ⟨only other, fun same => same ▸ played⟩
    rw [found, TerminalUse.mask_eq_restriction]
  · intro terminal inside role other first second differ
    obtain ⟨plays, exact, found⟩ := mask terminal inside
    rw [found, TerminalUse.restriction_eq_zero plays ((exact role).mpr first)
      ((exact other).mpr second) differ]
  · intro states same
    apply TerminalUse.masks_congr
    intro appearance
    simp only [List.mem_flatMap, same.mem_iff]

end Member

namespace MergedTables

variable {host : HostFragment} {extensions : List ExtensionFragment} {l : Layout}
  {t : MergedTables}

/-- What the use masks of merged tables say about the terminals of the host and of the extensions,
and what a conjoined mask says about a terminal that both know. -/
structure UsesTerminals (t : MergedTables) (host : HostFragment)
    (extensions : List ExtensionFragment) (l : Layout) : Prop where
  ofHost : (Member.ofHost host).ExactUses host.grammar t.hostUses
  ofExtension : ∀ (i : Nat) e, extensions[i]? = some e → ∃ uses, t.extensionUses[i]? = some uses ∧
    (Member.ofExtension e (l.offset i)).ExactUses host.grammar uses
  conjoined : ∀ (i : Nat) e uses, extensions[i]? = some e → t.extensionUses[i]? = some uses →
    ∀ terminal < t.hostUses.length, terminal < uses.length → ∀ role : TerminalUse,
      TerminalUse.conjoined t.hostUses t.extensionUses (i + 1) terminal &&& role.mask ≠ 0 ↔
        ∀ other, (Member.ofHost host).Plays host.grammar terminal other ∨
          (Member.ofExtension e (l.offset i)).Plays host.grammar terminal other → other = role

/-- Merged tables have exact use masks. -/
theorem usesTerminals_of_copy (computed : Layout.compute host extensions = .ok l)
    (copied : copy host extensions l = .ok t) : t.UsesTerminals host extensions l := by
  have laid := Layout.compute_eq_ok_iff.mp computed
  have merged := (copy_eq_ok_iff laid).mp copied
  have ofHost : (Member.ofHost host).ExactUses host.grammar t.hostUses := by
    rw [merged.hostUses_eq]
    exact Member.exactUses_uses
  have ofExtension (i : Nat) (e) (listed : extensions[i]? = some e) :
      ∃ uses, t.extensionUses[i]? = some uses ∧
        (Member.ofExtension e (l.offset i)).ExactUses host.grammar uses :=
    ⟨_, merged.getElem?_extensionUses listed, Member.exactUses_uses⟩
  refine ⟨ofHost, ofExtension, fun i e uses listed found terminal inside inside' role => ?_⟩
  obtain ⟨_, found', own⟩ := ofExtension i e listed
  cases found.symm.trans found'
  obtain ⟨plays, exact, mask⟩ := ofHost.mask terminal inside
  obtain ⟨plays', exact', mask'⟩ := own.mask terminal inside'
  have both : TerminalUse.conjoined t.hostUses t.extensionUses (i + 1) terminal =
      TerminalUse.restriction plays &&& TerminalUse.restriction plays' := by
    simp only [TerminalUse.conjoined, mask, found, Option.bind_some, mask', Option.getD_some]
  rw [both, TerminalUse.restriction_and_restriction, TerminalUse.restriction_keeps_iff]
  simp only [Bool.or_eq_true, exact, exact']

/-- An extension that both shifts terminal 4 and has it in a layout set. -/
def contestedFragment : ExtensionFragment := { markedFragment with layouts := [.ofList [4, 5]] }

/-- Terminal 4 has no bit left, terminal 5 only the bit for layout, and terminals 2 and 3 all bits. -/
theorem usesTerminals_contestedFragment : ∃ l t,
    Layout.compute statementFragment [contestedFragment] = .ok l ∧
    copy statementFragment [contestedFragment] l = .ok t ∧
    t.hostUses = [1, 1] ∧ t.extensionUses = [[1, 1, 7, 7, 0, 2]] ∧
    t.UsesTerminals statementFragment [contestedFragment] l :=
  ⟨_, _, rfl, rfl, rfl, rfl, usesTerminals_of_copy rfl rfl⟩

end MergedTables

end ParserSplice
