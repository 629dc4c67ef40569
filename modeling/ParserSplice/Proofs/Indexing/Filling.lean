import ParserSplice.Proofs.Engine.Placement
import ParserSplice.Proofs.Engine.Trace
import ParserSplice.Proofs.Indexing.Copying

set_option autoImplicit false

namespace ParserSplice

namespace Indexed

/-- Writes one action. What the cell holds is read first. -/
def write (s : Filling) (w : MarkingWrite) : Except Stop Filling := do
  let action ← lift w.action.engineAction
  let row ← fetch s.cells w.row
  let cell ← fetch row w.column
  let held := EngineAction.decode cell
  let conflicts := if !held.isError && held != action then
      s.conflicts ++ [⟨w.row, w.column, held, action⟩]
    else s.conflicts
  let packed ← lift (MergedTables.pack action)
  let cells ← change s.cells w.row (fun row => change row w.column (fun _ => .ok packed))
  return ⟨cells, conflicts⟩

/-- Writes what an extension writes, whose first state is looked up. -/
def fillExtension (l : Layout) (s : Filling) (entry : ExtensionFragment × Nat) :
    Except Stop Filling := do
  let offset ← fetch l.offsets entry.2
  (MarkingWrite.ofMember l (Member.ofExtension entry.1 offset)).foldlM write s

/-- Writes the marking columns of every state, if there are any. -/
def fill (t : MergedTables) (host : HostFragment) (extensions : List ExtensionFragment)
    (l : Layout) : Except Stop (MergedTables × List Conflict) := do
  if l.markings.isEmpty then return (t, [])
  let s ← (MarkingWrite.ofMember l (Member.ofHost host)).foldlM write ⟨t.cells, []⟩
  let s ← extensions.zipIdx.foldlM (fillExtension l) s
  return ({ t with cells := s.cells }, s.conflicts)

def Inside (rows width : Nat) (w : MarkingWrite) : Prop := w.row < rows ∧ w.column < width

theorem write_eq {rows width : Nat} {s : Filling} (shaped : Shaped rows width s.cells)
    {w : MarkingWrite} (inside : Inside rows width w) : write s w = lift (s.write w) := by
  obtain ⟨row, found, length⟩ := shaped.exists_row inside.1
  have column : w.column < row.length := by
    rw [length]
    exact inside.2
  have place := List.getElem?_eq_getElem column
  have held : s.cell w.row w.column = row[w.column] := by
    rw [Filling.cell, found, Option.bind_some, place, Option.getD_some]
  simp only [write, Filling.write, fetch_eq found, fetch_eq place, ok_bind, lift_bind, lift_pure,
    change_cell shaped inside.1 inside.2]
  apply lift_bind_congr
  intro action _
  apply lift_bind_congr
  intro packed _
  rw [Filling.conflictWith, held]
  split <;> simp

theorem shaped_write {rows width : Nat} {s next : Filling} (shaped : Shaped rows width s.cells)
    {w : MarkingWrite} (written : s.write w = .ok next) : Shaped rows width next.cells := by
  obtain ⟨_, rfl⟩ := (Filling.write_eq_ok_iff s next w).mp written
  exact shaped.modify (fun row => List.length_set ..) w.row

/-- Writes to cells that exist end as the writes that replace a cell only where there is one. -/
theorem foldlM_write_eq {rows width : Nat} {s : Filling} (shaped : Shaped rows width s.cells)
    {writes : List MarkingWrite} (inside : ∀ w ∈ writes, Inside rows width w) :
    writes.foldlM write s = lift (writes.foldlM Filling.write s) := by
  induction writes generalizing s with
  | nil => rfl
  | cons w rest ih =>
    obtain ⟨first, others⟩ := List.forall_mem_cons.mp inside
    rw [List.foldlM_cons, List.foldlM_cons, write_eq shaped first, lift_bind]
    apply lift_bind_congr
    intro next written
    exact ih (shaped_write shaped written) others

/-- Writing all actions succeeds with what is left after the last one, or fails with the first
action that does not fit. -/
theorem foldlM_filling_eq (s : Filling) (writes : List MarkingWrite) :
    writes.foldlM Filling.write s =
      match (s.writeAll writes).2 with
      | some fault => .error fault
      | none => .ok (s.writeAll writes).1 := by
  induction writes generalizing s with
  | nil => rfl
  | cons w rest ih =>
    rw [List.foldlM_cons, Filling.writeAll]
    cases s.write w with
    | error fault => rfl
    | ok next => exact ih next

variable {host : HostFragment} {extensions : List ExtensionFragment} {l : Layout}

/-- What a fragment writes goes to cells of the merged table. -/
theorem inside_of_mem (laid : Layout.Laid host extensions l) {m : Member}
    (member : m ∈ Member.all host extensions l) {w : MarkingWrite}
    (listed : w ∈ MarkingWrite.ofMember l m) : Inside l.totalStates l.width w := by
  have bound := Member.offset_add_size_le laid member
  obtain ⟨state, own, written⟩ := List.mem_flatMap.mp listed
  have below := List.mem_range.mp own
  rcases List.mem_append.mp written with shift | reduction
  · obtain ⟨mk, marking, rfl⟩ := List.mem_map.mp shift
    have column := laid.column_bounds (List.mem_of_mem_filter marking)
    exact ⟨by simp only; omega, column.2⟩
  · obtain ⟨mk, marking, produced⟩ := List.mem_flatMap.mp reduction
    obtain ⟨production, _, rfl⟩ := List.mem_map.mp produced
    have column := laid.column_bounds marking
    exact ⟨by simp only; omega, column.2⟩

theorem shaped_foldlM {rows width : Nat} {s next : Filling} (shaped : Shaped rows width s.cells)
    {writes : List MarkingWrite} (written : writes.foldlM Filling.write s = .ok next) :
    Shaped rows width next.cells := by
  induction writes generalizing s with
  | nil =>
    cases written
    exact shaped
  | cons w rest ih =>
    rw [List.foldlM_cons, bind_eq_ok_iff] at written
    obtain ⟨first, done, later⟩ := written
    exact ih (shaped_write shaped done) later

/-- The extensions write one after the other what they write together. -/
theorem foldlM_fillExtension_eq {s : Filling} (shaped : Shaped l.totalStates l.width s.cells)
    {entries : List (ExtensionFragment × Nat)}
    (placed : ∀ entry ∈ entries, l.offsets[entry.2]? = some (l.offset entry.2))
    (inside : ∀ entry ∈ entries, ∀ w ∈ MarkingWrite.ofMember l
      (Member.ofExtension entry.1 (l.offset entry.2)), Inside l.totalStates l.width w) :
    entries.foldlM (fillExtension l) s =
      lift (((entries.map (fun entry => Member.ofExtension entry.1 (l.offset entry.2))).flatMap
        (MarkingWrite.ofMember l)).foldlM Filling.write s) := by
  induction entries generalizing s with
  | nil => rfl
  | cons entry rest ih =>
    obtain ⟨first, others⟩ := List.forall_mem_cons.mp placed
    obtain ⟨own, later⟩ := List.forall_mem_cons.mp inside
    rw [List.foldlM_cons, fillExtension, fetch_eq first, ok_bind, foldlM_write_eq shaped own,
      List.map_cons, List.flatMap_cons, List.foldlM_append, lift_bind]
    apply lift_bind_congr
    intro next written
    exact ih (shaped_foldlM shaped written) others later

/-- Without marking terminals nothing is written. -/
theorem ofMember_eq_nil (none : l.markings = []) (m : Member) : MarkingWrite.ofMember l m = [] := by
  simp [MarkingWrite.ofMember, MarkingWrite.shifts, MarkingWrite.reductions, none]

/-- Filling finds every row and column, and the first state of every extension. -/
theorem fill_eq (laid : Layout.Laid host extensions l) {t : MergedTables}
    (shaped : Shaped l.totalStates l.width t.cells) : fill t host extensions l =
      (lift (t.fill host extensions l).2 >>= fun conflicts =>
        .ok ((t.fill host extensions l).1, conflicts)) := by
  by_cases none : l.markings = []
  · have silent : MarkingWrite.all host extensions l = [] := by
      rw [MarkingWrite.all, List.flatMap_eq_nil_iff]
      exact fun m _ => ofMember_eq_nil none m
    simp [fill, none, MergedTables.fill, silent, Filling.writeAll, pure, Except.pure]
  · have some : ¬ l.markings.isEmpty = true := by simpa using none
    have first : (MarkingWrite.ofMember l (Member.ofHost host)).foldlM write ⟨t.cells, []⟩ =
        lift ((MarkingWrite.ofMember l (Member.ofHost host)).foldlM Filling.write ⟨t.cells, []⟩) :=
      foldlM_write_eq shaped (fun w listed => inside_of_mem laid Member.ofHost_mem_all listed)
    have whole : ((MarkingWrite.ofMember l (Member.ofHost host)).foldlM write ⟨t.cells, []⟩ >>=
        fun s => extensions.zipIdx.foldlM (fillExtension l) s) =
          lift ((MarkingWrite.all host extensions l).foldlM Filling.write ⟨t.cells, []⟩) := by
      rw [first, MarkingWrite.all, Member.all, List.flatMap_cons, List.foldlM_append, lift_bind]
      apply lift_bind_congr
      intro next written
      exact foldlM_fillExtension_eq (shaped_foldlM shaped written)
        (fun _ listed => getElem?_offsets_of_mem laid listed)
        (fun _ listed _ => inside_of_mem laid (ofExtension_mem listed))
    rw [fill, if_neg some, ← bind_assoc, whole, foldlM_filling_eq, MergedTables.fill]
    generalize (Filling.mk t.cells []).writeAll (MarkingWrite.all host extensions l) = outcome
    cases outcome with
    | mk done fault => cases fault <;> rfl

end Indexed

end ParserSplice
