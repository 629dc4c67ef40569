import ParserSplice.Proofs.Engine.Dispatch
import ParserSplice.Proofs.Indexing.Copying
import ParserSplice.Proofs.Sizing.Sums

set_option autoImplicit false

namespace ParserSplice

namespace Sized

open Indexed (Stop fetch lift)

section Layout

variable (o : Overflow)

/-- The sizes of the fragments that were added up so far. -/
structure Sizes where
  offsets : List Nat
  counts : List Nat
  total : Nat
  columns : Nat
deriving DecidableEq

def Sizes.extend (s : Sizes) (e : ExtensionFragment) : Except Stop Sizes := do
  let total ← add o s.total e.size
  let columns ← partitionWidth o e.partition
  return ⟨s.offsets ++ [s.total], s.counts ++ [e.size], total, max s.columns columns⟩

def sizes (host : HostFragment) (extensions : List ExtensionFragment) : Except Stop Sizes := do
  let columns ← hostWidth o host.grammar
  extensions.foldlM (Sizes.extend o) ⟨[], [], host.size, columns⟩

/-- The merged state that a marking terminal leads to. -/
def target (hostStates : Nat) (offsets : List Nat) (index : Nat) (extension : ExtensionFragment) :
    Decomposed → Except Stop Nat
  | .host h =>
    if h.toNat < hostStates then .ok h.toNat
    else .error (.reported (.stateOutOfRange extension.name h.toNat extension.size))
  | .extension e =>
    if e.toNat < extension.size then do
      let offset ← fetch offsets index
      add o e.toNat offset
    else .error (.reported (.stateOutOfRange extension.name e.toNat extension.size))

/-- The marking terminals that were placed so far, and the first column that is free. -/
structure Placing where
  markings : List PlacedMarking
  width : Nat
deriving DecidableEq

/-- Places a marking terminal in the first free column. -/
def Placing.mark (host : HostFragment) (offsets : List Nat) (index : Nat)
    (extension : ExtensionFragment) (s : Placing) (marking : Nat × MarkingTerminal) :
    Except Stop Placing := do
  if host.grammar.nonterminals.contains marking.2.hook then
    let state ← target o host.size offsets index extension marking.2.entry
    let width ← add o s.width 1
    return ⟨s.markings ++ [⟨index, marking.1, marking.2.hook, state, s.width⟩], width⟩
  else .error (.reported (.unknownHookNonterminal extension.name marking.1 marking.2.hook))

def Placing.markAll (host : HostFragment) (offsets : List Nat) (s : Placing)
    (member : ExtensionFragment × Nat) : Except Stop Placing :=
  member.1.markings.entries.foldlM (mark o host offsets member.2 member.1) s

/-- The layout for a host and its extensions, all of whose numbers are held in 64 bits. -/
def layout (host : HostFragment) (extensions : List ExtensionFragment) : Except Stop Layout := do
  let sizes ← sizes o host extensions
  let placed ← extensions.zipIdx.foldlM (Placing.markAll o host sizes.offsets) ⟨[], sizes.columns⟩
  let largest := max sizes.total placed.width
  if EngineAction.maxParameter.toNat < largest then
    .error (.reported (.actionParameterOverflow largest))
  else return ⟨host.size, sizes.offsets, sizes.counts, sizes.total, sizes.columns, placed.width,
    placed.markings⟩

end Layout

/-- All states and all columns of a merged table can be numbered in 64 bits. Tables with so many
entries do not exist, but a single terminal with a high enough number makes a table too wide. -/
structure Fits (host : HostFragment) (extensions : List ExtensionFragment) : Prop where
  states : host.size + (extensions.map (fun e => e.size)).sum < UInt64.size
  columns : (extensions.map (fun e => e.partition.tableWidth)).foldl max host.grammar.tableWidth +
    Layout.markingCount extensions < UInt64.size

variable {o : Overflow} {host : HostFragment} {extensions : List ExtensionFragment}

theorem foldlM_extend_eq {s : Sizes}
    (states : s.total + (extensions.map (fun e => e.size)).sum < UInt64.size)
    (columns : (extensions.map (fun e => e.partition.tableWidth)).foldl max s.columns <
      UInt64.size) :
    extensions.foldlM (Sizes.extend o) s = .ok
      ⟨s.offsets ++ Layout.offsetsFrom s.total (extensions.map (fun e => e.size)),
        s.counts ++ extensions.map (fun e => e.size),
        s.total + (extensions.map (fun e => e.size)).sum,
        (extensions.map (fun e => e.partition.tableWidth)).foldl max s.columns⟩ := by
  induction extensions generalizing s with
  | nil => simp [Layout.offsetsFrom, pure, Except.pure]
  | cons e rest ih =>
    simp only [List.map_cons, List.sum_cons, List.foldl_cons] at states columns
    -- The running maximum is at most the last one, so this width fits as well.
    have width := (foldl_max_spec (max s.columns e.partition.tableWidth)
      (rest.map (fun e => e.partition.tableWidth))).1
    have first : Sizes.extend o s e = .ok ⟨s.offsets ++ [s.total], s.counts ++ [e.size],
        s.total + e.size, max s.columns e.partition.tableWidth⟩ := by
      rw [Sizes.extend, add_eq (by omega), partitionWidth_eq (by omega)]
      rfl
    rw [List.foldlM_cons, first, Indexed.ok_bind,
      ih (by simpa [Nat.add_assoc] using states) columns]
    simp [Layout.offsetsFrom, Nat.add_assoc]

theorem sizes_eq (fits : Fits host extensions) : sizes o host extensions = .ok
    ⟨Layout.offsetsFrom host.size (extensions.map (fun e => e.size)),
      extensions.map (fun e => e.size), host.size + (extensions.map (fun e => e.size)).sum,
      (extensions.map (fun e => e.partition.tableWidth)).foldl max host.grammar.tableWidth⟩ := by
  have columns := fits.columns
  have own := (foldl_max_spec host.grammar.tableWidth
    (extensions.map (fun e => e.partition.tableWidth))).1
  rw [sizes, hostWidth_eq (by omega), Indexed.ok_bind,
    foldlM_extend_eq fits.states (Nat.lt_of_le_of_lt (Nat.le_add_right _ _) columns)]
  rfl

/-- Puts a marking terminal in the first free column. -/
def Placing.push (s : Placing) (place : Nat → PlacedMarking) : Placing :=
  ⟨s.markings ++ [place s.width], s.width + 1⟩

theorem Placing.foldl_push (s : Placing) (places : List (Nat → PlacedMarking)) :
    places.foldl push s =
      ⟨s.markings ++ places.zipIdx.map (fun entry => entry.1 (s.width + entry.2)),
        s.width + places.length⟩ := by
  induction places generalizing s with
  | nil => simp
  | cons place rest ih =>
    rw [List.foldl_cons, ih, List.zipIdx_cons, List.zipIdx_succ]
    simp [push, Function.comp_def, Nat.add_assoc, Nat.add_comm 1]

theorem mark_eq {offsets : List Nat} {offset index : Nat} {e : ExtensionFragment}
    (found : offsets[index]? = some offset) (room : offset + e.size < UInt64.size) {s : Placing}
    (free : s.width + 1 < UInt64.size) (marking : Nat × MarkingTerminal) :
    s.mark o host offsets index e marking =
      (lift (Layout.placeMarking host index offset e marking) >>= fun place =>
        .ok (s.push place)) := by
  obtain ⟨terminal, hook, entry, regex⟩ := marking
  simp only [Placing.mark, Layout.placeMarking, add_eq free]
  by_cases hooked : host.grammar.nonterminals.contains hook = true
  · rw [if_pos hooked, if_pos hooked]
    cases entry with
    | host h =>
      by_cases inside : h.toNat < host.size <;>
        simp [target, Layout.target, inside, Placing.push, pure, Except.pure]
    | extension s =>
      by_cases inside : s.toNat < e.size
      · have sum : s.toNat + offset < UInt64.size := by omega
        simp [target, Layout.target, inside, Indexed.fetch_eq found, add_eq sum, Placing.push, pure,
          Except.pure]
      · simp only [target, Layout.target, if_neg inside]
        rfl
  · rw [if_neg hooked, if_neg hooked]
    rfl

theorem foldlM_mark_eq {offsets : List Nat} {offset index : Nat} {e : ExtensionFragment}
    (found : offsets[index]? = some offset) (room : offset + e.size < UInt64.size)
    {entries : List (Nat × MarkingTerminal)} {s : Placing}
    (free : s.width + entries.length < UInt64.size) :
    entries.foldlM (Placing.mark o host offsets index e) s =
      (lift (entries.mapM (Layout.placeMarking host index offset e)) >>= fun places =>
        .ok (places.foldl Placing.push s)) := by
  induction entries generalizing s with
  | nil => rfl
  | cons entry rest ih =>
    rw [List.length_cons] at free
    rw [List.foldlM_cons, List.mapM_cons, mark_eq found room (by omega)]
    simp only [Indexed.lift_bind, Indexed.lift_pure, bind_assoc, Indexed.ok_bind, pure_bind]
    apply Indexed.lift_bind_congr
    intro place _
    rw [ih (by simp only [Placing.push]; omega)]
    rfl

theorem foldlM_markAll_eq {offsets : List Nat} {members : List ((ExtensionFragment × Nat) × Nat)}
    (found : ∀ member ∈ members, offsets[member.2]? = some member.1.2)
    (room : ∀ member ∈ members, member.1.2 + member.1.1.size < UInt64.size) {s : Placing}
    (free : s.width + Layout.markingCount (members.map (fun member => member.1.1)) <
      UInt64.size) :
    (members.map (fun member => (member.1.1, member.2))).foldlM (Placing.markAll o host offsets) s =
      (lift (members.mapM (Layout.placeMarkings host)) >>= fun placed =>
        .ok (placed.flatten.foldl Placing.push s)) := by
  induction members generalizing s with
  | nil => rfl
  | cons member rest ih =>
    obtain ⟨place, places⟩ := List.forall_mem_cons.mp found
    obtain ⟨own, others⟩ := List.forall_mem_cons.mp room
    rw [Layout.markingCount, List.map_cons, List.map_cons, List.sum_cons] at free
    have here : s.width + member.1.1.markings.entries.length < UInt64.size := by omega
    have first : s.markAll o host offsets (member.1.1, member.2) =
        (lift (Layout.placeMarkings host member) >>= fun places =>
          .ok (places.foldl Placing.push s)) := foldlM_mark_eq place own here
    rw [List.map_cons, List.foldlM_cons, List.mapM_cons, first]
    simp only [Indexed.lift_bind, Indexed.lift_pure, bind_assoc, Indexed.ok_bind, pure_bind]
    apply Indexed.lift_bind_congr
    intro next placed
    have length := ((mapM_eq_ok_iff _ _ _).mp placed).length_eq
    rw [ih places others (by simp only [Placing.foldl_push, Layout.markingCount]; omega)]
    apply Indexed.lift_bind_congr
    intro later _
    rw [List.flatten_cons, List.foldl_append]

/-- All marking terminals, placed one after the other. -/
theorem placed_eq (fits : Fits host extensions) {offsets : List Nat} {columns : Nat}
    (offsetsEq : offsets = Layout.offsetsFrom host.size (extensions.map (fun e => e.size)))
    (columnsEq : columns = (extensions.map (fun e => e.partition.tableWidth)).foldl max
      host.grammar.tableWidth) :
    extensions.zipIdx.foldlM (Placing.markAll o host offsets) ⟨[], columns⟩ =
      (lift ((extensions.zip offsets).zipIdx.mapM (Layout.placeMarkings host)) >>= fun placed =>
        .ok (placed.flatten.foldl Placing.push ⟨[], columns⟩)) := by
  have same : offsets.length = extensions.length := by
    rw [offsetsEq, Layout.length_offsetsFrom, List.length_map]
  have listed {member : (ExtensionFragment × Nat) × Nat}
      (inside : member ∈ (extensions.zip offsets).zipIdx) :
      extensions[member.2]? = some member.1.1 ∧ offsets[member.2]? = some member.1.2 :=
    List.getElem?_zip_eq_some.mp (List.mem_zipIdx_iff_getElem?.mp inside)
  rw [Indexed.zipIdx_eq_map_zip same]
  refine foldlM_markAll_eq (fun member inside => (listed inside).2) (fun member inside => ?_) ?_
  · obtain ⟨extension, place⟩ := listed inside
    rw [offsetsEq] at place
    have size : (extensions.map (fun e => e.size))[member.2]? = some member.1.1.size := by
      rw [List.getElem?_map, extension, Option.map_some]
    exact Nat.lt_of_le_of_lt (Layout.offsetsFrom_add_le place size) fits.states
  · rw [Layout.members_of_places extensions _ same, columnsEq]
    exact fits.columns

/-- As long as all numbers fit, holding them in 64 bits changes nothing. -/
theorem layout_eq (fits : Fits host extensions) :
    layout o host extensions = lift (Layout.compute host extensions) := by
  rw [layout, sizes_eq fits, Indexed.ok_bind]
  simp only [placed_eq fits rfl rfl, Layout.compute, Indexed.lift_bind, bind_assoc, Indexed.ok_bind,
    Placing.foldl_push, List.nil_append, List.length_map, List.length_zipIdx, ← List.sum_eq_foldr]
  apply Indexed.lift_bind_congr
  intro placed _
  split <;> rfl

end Sized

end ParserSplice
