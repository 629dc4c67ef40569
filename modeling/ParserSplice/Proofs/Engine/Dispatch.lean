import ParserSplice.Emission.Dispatch
import ParserSplice.Proofs.Engine.Confinement

set_option autoImplicit false

namespace ParserSplice

namespace Layout

variable {host : HostFragment} {extensions : List ExtensionFragment} {l : Layout}

def key (mk : PlacedMarking) : Nat × Nat := (mk.extension, mk.terminal)

/-- The marking terminals of all extensions in order of extensions and of terminals. -/
theorem Laid.keys_markings (laid : Laid host extensions l) :
    l.markings.map key = extensions.zipIdx.flatMap
      (fun entry => entry.1.markings.keys.elems.map (fun terminal => (entry.2, terminal))) := by
  obtain ⟨_, markings⟩ := laid.markings_eq
  let members := (extensions.zip l.offsets).zipIdx
  have same : extensions.length ≤ l.offsets.length := by
    rw [laid.offsets, length_offsetsFrom, List.length_map]
  have named : members.map (Prod.map Prod.fst id) = extensions.zipIdx := by
    rw [List.map_zipIdx, List.map_fst_zip same]
  -- Extension and terminal do not depend on the column that a marking terminal is put in.
  have constant : ∀ entry ∈ (members.flatMap markingsOf).zipIdx,
      key (entry.1 (l.ordinaryColumns + entry.2)) = key (entry.1 0) := by
    intro entry inside
    obtain ⟨_, _, own⟩ :=
      List.mem_flatMap.mp (List.mem_of_getElem? (List.mem_zipIdx_iff_getElem?.mp inside))
    obtain ⟨_, _, place⟩ := List.mem_map.mp own
    rw [← place]
    rfl
  calc l.markings.map key
    _ = (members.flatMap markingsOf).zipIdx.map
          (fun entry => key (entry.1 (l.ordinaryColumns + entry.2))) := by
      rw [markings, List.map_map]
      rfl
    _ = ((members.flatMap markingsOf).zipIdx.map Prod.fst).map (fun place => key (place 0)) := by
      rw [List.map_congr_left constant, List.map_map]
      rfl
    _ = members.flatMap (fun member =>
          member.1.1.markings.keys.elems.map (fun terminal => (member.2, terminal))) := by
      rw [List.zipIdx_map_fst, List.map_flatMap]
      simp only [markingsOf, OrderedMap.keys, List.map_map]
      rfl
    _ = _ := by
      rw [← named, List.flatMap_map]
      rfl

/-- The placed marking terminals are those that the extensions declare. -/
theorem Laid.exists_marking_iff (laid : Laid host extensions l) (i terminal : Nat) :
    (∃ mk ∈ l.markings, key mk = (i, terminal)) ↔
      ∃ e, extensions[i]? = some e ∧ terminal ∈ e.markings.keys := by
  rw [← List.mem_map, laid.keys_markings, List.mem_flatMap]
  constructor
  · intro given
    obtain ⟨⟨e, i⟩, listed, own⟩ := given
    obtain ⟨_, declared, same⟩ := List.mem_map.mp own
    cases same
    exact ⟨e, List.mem_zipIdx_iff_getElem?.mp listed, declared⟩
  · intro given
    obtain ⟨e, listed, declared⟩ := given
    exact ⟨(e, i), List.mem_zipIdx_iff_getElem?.mpr listed, List.mem_map_of_mem declared⟩

theorem Laid.column_getElem? (laid : Laid host extensions l) {k : Nat} {mk : PlacedMarking}
    (placed : l.markings[k]? = some mk) : mk.column = l.ordinaryColumns + k := by
  have inside := (List.getElem?_eq_some_iff.mp placed).1
  have column : (l.markings.map (fun mk => mk.column))[k]? = some mk.column := by
    rw [List.getElem?_map, placed, Option.map_some]
  rw [laid.columns_markings, List.getElem?_range' inside, Nat.one_mul] at column
  exact (Option.some.inj column).symm

end Layout

namespace Dispatch

variable (hostStates state : Nat)

/-- The number that a bound stands for where the number of host states is a constant. -/
def Denotes (text : String) (bound : Nat) : Prop :=
  text = "HOST_STATE_COUNT" ∧ bound = hostStates ∨ text = toString bound

variable {hostStates state}

/-- Numbers are told apart by their digits. -/
theorem toString_inj {m n : Nat} (same : toString m = toString n) : m = n := by
  have digits : Nat.toDigits 10 m = Nat.toDigits 10 n := by
    rw [← Nat.toList_repr, ← Nat.toList_repr]
    exact congrArg String.toList same
  rw [← Nat.ofDigitChars_ten_toDigits (n := m), digits, Nat.ofDigitChars_ten_toDigits]

theorem hostStateCount_ne_repr (n : Nat) : "HOST_STATE_COUNT" ≠ n.repr := by
  intro same
  have letters := congrArg String.toList same
  rw [Nat.toList_repr] at letters
  have first : 'H' ∈ Nat.toDigits 10 n := letters ▸ List.mem_cons_self
  have digit := Nat.isDigit_of_mem_toDigits (by decide) (by decide) first
  cases digit

theorem Denotes.unique {text : String} {bound bound' : Nat} (first : Denotes hostStates text bound)
    (second : Denotes hostStates text bound') : bound = bound' := by
  rcases first with ⟨name, rfl⟩ | digits
  · rcases second with ⟨_, rfl⟩ | digits
    · rfl
    · exact absurd (name.symm.trans digits) (hostStateCount_ne_repr bound')
  · rcases second with ⟨name, rfl⟩ | digits'
    · exact absurd (name.symm.trans digits) (hostStateCount_ne_repr bound)
    · exact toString_inj (digits.symm.trans digits')

end Dispatch

namespace Layout

end Layout

end ParserSplice
