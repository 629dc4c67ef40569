import ParserSplice.Partition.States
import ParserSplice.Proofs.Partition.Numbering

set_option autoImplicit false

namespace ParserSplice.StatePartition

variable {hostStates : OrderedMap Nat} {extensionStates : IndexSet} {states : OrderedMap Decomposed}

/-- Entries that pair each key with its number as a word keep the keys and lose no number. -/
theorem mem_of_numbered {wrap : UInt32 → Decomposed} {items : List (Nat × Nat)}
    {entries : List (Nat × Decomposed)}
    (paired : List.Forall₂ (fun (item : Nat × Nat) (entry : Nat × Decomposed) =>
      ∃ word : UInt32, word.toNat = item.2 ∧ entry = (item.1, wrap word)) items entries) :
    entries.map Prod.fst = items.map Prod.fst ∧ (∀ item ∈ items, item.2 < UInt32.size) ∧
      ∀ s d, (s, d) ∈ entries ↔ ∃ word, d = wrap word ∧ (s, word.toNat) ∈ items := by
  refine ⟨?_, fun item listed => ?_, fun s d => ⟨fun inside => ?_, fun given => ?_⟩⟩
  · have keys : List.Forall₂ (fun (item : Nat × Nat) (entry : Nat × Decomposed) =>
        item.1 = entry.1) items entries := paired.imp (fun _ _ ⟨_, _, same⟩ => by rw [same])
    have columns : items.map Prod.fst = entries.map Prod.fst := by
      rwa [← List.forall₂_eq_eq_eq, List.forall₂_map_left_iff, List.forall₂_map_right_iff]
    exact columns.symm
  · obtain ⟨_, _, word, value, _⟩ := exists_result_of_mem paired _ listed
    exact value ▸ word.toNat_lt_size
  · obtain ⟨item, listed, word, value, same⟩ := exists_item_of_mem paired _ inside
    cases same
    exact ⟨word, rfl, value ▸ listed⟩
  · obtain ⟨word, rfl, listed⟩ := given
    obtain ⟨entry, inside, other, value, rfl⟩ := exists_result_of_mem paired _ listed
    rwa [UInt32.toNat_inj.mp value] at inside

theorem hostEntries_ok {entries : List (Nat × Decomposed)}
    (run : hostEntries hostStates = .ok entries) :
    entries.map Prod.fst = hostStates.entries.map Prod.fst ∧
      (∀ entry ∈ hostStates.entries, entry.2 < UInt32.size) ∧
      ∀ s d, (s, d) ∈ entries ↔
        ∃ word : UInt32, d = .host word ∧ (s, word.toNat) ∈ hostStates.entries := by
  refine mem_of_numbered (((mapM_eq_ok_iff _ _ _).mp run).imp (fun item entry done => ?_))
  obtain ⟨d, numbered, same⟩ := (bind_eq_ok_iff _ _ _).mp done
  obtain ⟨word, value, rfl⟩ := (hostNumber_eq_ok_iff _ _).mp numbered
  exact ⟨word, value, ((pure_eq_ok_iff _ _).mp same).symm⟩

theorem extensionEntries_ok {entries : List (Nat × Decomposed)}
    (run : extensionEntries hostStates extensionStates = .ok entries) :
    entries.map Prod.fst = extensionStates.elems ∧
      (∀ s ∈ extensionStates, hostStates.get? s = none) ∧
      extensionStates.size ≤ UInt32.size ∧
      ∀ s d, (s, d) ∈ entries ↔
        ∃ word : UInt32, d = .extension word ∧ extensionStates.elems[word.toNat]? = some s := by
  have checked : List.Forall₂ (fun (item : Nat × Nat) (entry : Nat × Decomposed) =>
      hostStates.get? item.1 = none ∧
        ∃ word : UInt32, word.toNat = item.2 ∧ entry = (item.1, .extension word))
      extensionStates.elems.zipIdx entries := by
    refine ((mapM_eq_ok_iff _ _ _).mp run).imp (fun item entry done => ?_)
    split at done
    · cases done
    · next apart =>
      obtain ⟨d, numbered, same⟩ := (bind_eq_ok_iff _ _ _).mp done
      obtain ⟨word, value, rfl⟩ := (extensionNumber_eq_ok_iff _ _).mp numbered
      refine ⟨?_, word, value, ((pure_eq_ok_iff _ _).mp same).symm⟩
      simpa [OrderedMap.contains] using apart
  have place : ∀ s k, (s, k) ∈ extensionStates.elems.zipIdx ↔
      extensionStates.elems[k]? = some s := fun s k => List.mem_zipIdx_iff_getElem?
  obtain ⟨keys, fits, members⟩ := mem_of_numbered (checked.imp (fun _ _ each => each.2))
  refine ⟨keys.trans (List.zipIdx_map_fst _ _), fun s inside => ?_, ?_, fun s d => ?_⟩
  · obtain ⟨k, found⟩ := List.mem_iff_getElem?.mp inside
    obtain ⟨_, _, apart, _⟩ := exists_result_of_mem checked _ ((place s k).mpr found)
    exact apart
  · exact (forall_mem_zipIdx_lt_iff extensionStates.elems UInt32.size).mp fits
  · simp only [members, place]

/-- The map of a partition gives every state its owner and its number there. -/
structure Numbers (hostStates : OrderedMap Nat) (extensionStates : IndexSet)
    (states : OrderedMap Decomposed) : Prop where
  apart : ∀ s ∈ extensionStates, hostStates.get? s = none
  hostFits : ∀ s h, hostStates.get? s = some h → h < UInt32.size
  fits : extensionStates.size ≤ UInt32.size
  ofHost : ∀ s word, states.get? s = some (.host word) ↔ hostStates.get? s = some word.toNat
  ofExtension : ∀ s word, states.get? s = some (.extension word) ↔
    extensionStates.elems[word.toNat]? = some s

theorem build_numbers (built : build hostStates extensionStates = .ok states) :
    Numbers hostStates extensionStates states := by
  obtain ⟨hosts, hostRun, rest⟩ := (bind_eq_ok_iff _ _ _).mp built
  obtain ⟨extensions, extensionRun, joined⟩ := (bind_eq_ok_iff _ _ _).mp rest
  obtain ⟨hostKeys, hostFits, hostMem⟩ := hostEntries_ok hostRun
  obtain ⟨extensionKeys, apart, fits, extensionMem⟩ := extensionEntries_ok extensionRun
  have keys : ((hosts ++ extensions).map Prod.fst).Nodup := by
    rw [List.map_append, hostKeys, extensionKeys, List.nodup_append]
    refine ⟨hostStates.nodup_keys, extensionStates.nodup_elems, ?_⟩
    intro s listed s' inside same
    subst same
    obtain ⟨number, found⟩ := (hostStates.mem_keys s).mp listed
    rw [apart s inside] at found
    cases found
  have lookup := OrderedMap.get?_ofList_iff (hosts ++ extensions) keys
  simp only at joined
  split at joined
  · cases joined
  · rw [(pure_eq_ok_iff _ _).mp joined] at lookup
    refine ⟨apart, fun s h found => ?_, fits, fun s word => ?_, fun s word => ?_⟩
    · exact hostFits _ ((hostStates.get?_eq_some_iff s h).mp found)
    · rw [lookup, List.mem_append, hostMem, extensionMem, OrderedMap.get?_eq_some_iff]
      simp
    · rw [lookup, List.mem_append, hostMem, extensionMem]
      simp

namespace Numbers

variable (n : Numbers hostStates extensionStates states)

include n

/-- Every place among the states of the extension is the number of one of them. -/
theorem exists_word_of_lt {place : Nat} (inside : place < extensionStates.size) :
    ∃ s word, word.toNat = place ∧ states.get? s = some (.extension word) := by
  have value : (UInt32.ofNat place).toNat = place :=
    UInt32.toNat_ofNat_of_lt' (Nat.lt_of_lt_of_le inside n.fits)
  obtain ⟨s, found⟩ : ∃ s, extensionStates.elems[place]? = some s :=
    ⟨_, List.getElem?_eq_getElem inside⟩
  exact ⟨s, UInt32.ofNat place, value, (n.ofExtension s _).mpr (by rw [value, found])⟩

theorem lt_size {s : Nat} {word : UInt32} (found : states.get? s = some (.extension word)) :
    word.toNat < extensionStates.size :=
  (List.getElem?_eq_some_iff.mp ((n.ofExtension s word).mp found)).1

theorem extension_unique {s s' : Nat} {word : UInt32}
    (first : states.get? s = some (.extension word))
    (second : states.get? s' = some (.extension word)) : s = s' :=
  Option.some.inj (((n.ofExtension s word).mp first).symm.trans ((n.ofExtension s' word).mp second))

end Numbers

end ParserSplice.StatePartition
