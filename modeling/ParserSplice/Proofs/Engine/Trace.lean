import Mathlib.Logic.Function.Basic
import ParserSplice.Engine.Marking
import ParserSplice.Proofs.Engine.Translation

set_option autoImplicit false

namespace ParserSplice

namespace MarkingAction

def number : MarkingAction → Nat
  | shift target => target
  | reduce production => production

def merged : MarkingAction → EngineAction
  | shift target => .shift (UInt32.ofNat target)
  | reduce production => .reduce (UInt32.ofNat production)

def Fits (a : MarkingAction) : Prop := a.number ≤ EngineAction.maxParameter.toNat

theorem isError_merged (a : MarkingAction) : a.merged.isError = false := by cases a <;> rfl

theorem Fits.parameter_merged {a : MarkingAction} (fits : a.Fits) :
    a.merged.parameter.toNat = a.number := by
  cases a <;> exact EngineAction.toNat_ofNat_of_le fits

theorem merged_inj {a b : MarkingAction} (fits : a.Fits) (fits' : b.Fits) :
    a.merged = b.merged ↔ a = b := by
  constructor
  · intro same
    have number : a.number = b.number := by
      rw [← fits.parameter_merged, ← fits'.parameter_merged, same]
    cases a <;> cases b
    · exact congrArg shift number
    · cases same
    · cases same
    · exact congrArg reduce number
  · exact congrArg merged

theorem engineAction_eq_ok_iff (a : MarkingAction) (action : EngineAction) :
    a.engineAction = .ok action ↔ ∃ word : UInt32, word.toNat = a.number ∧
      (match a with
        | shift _ => EngineAction.shift word
        | reduce _ => EngineAction.reduce word) = action := by
  cases a <;>
    simp only [engineAction, bind_eq_ok_iff, MergedTables.parameter_eq_ok_iff, pure_eq_ok_iff,
      number]

/-- Packing an action that is written succeeds exactly when the action fits. -/
theorem engineAction_pack_iff (a : MarkingAction) (action : EngineAction) (cell : UInt32) :
    a.engineAction = .ok action ∧ MergedTables.pack action = .ok cell ↔
      a.Fits ∧ a.merged = action ∧ a.merged.packed = cell := by
  rw [engineAction_eq_ok_iff, MergedTables.pack_eq_ok_iff]
  constructor
  · intro given
    obtain ⟨⟨word, number, rfl⟩, fits, rfl⟩ := given
    cases a <;>
    · obtain rfl : word.toNat = _ := number
      refine ⟨fits, ?_, ?_⟩ <;> rw [merged, UInt32.ofNat_toNat]
  · intro given
    obtain ⟨fits, rfl, rfl⟩ := given
    have number := fits.parameter_merged
    refine ⟨?_, by rwa [number], rfl⟩
    cases a <;> exact ⟨_, number, rfl⟩

end MarkingAction

/-- What the cells of a table hold, by row and column. -/
abbrev Grid := Nat × Nat → EngineAction

def Conflict.successive (row column : Nat) (actions : List EngineAction) : List Conflict :=
  List.zipWith (Conflict.mk row column) actions actions.tail

theorem Conflict.second_mem_tail {row column : Nat} {actions : List EngineAction} {c : Conflict}
    (between : c ∈ successive row column actions) : c.second ∈ actions.tail := by
  obtain ⟨k, found⟩ := List.mem_iff_getElem?.mp between
  obtain ⟨_, second, _, later, rfl⟩ := List.getElem?_zipWith_eq_some.mp found
  exact List.mem_of_getElem? later

namespace MarkingWrite

def cell (w : MarkingWrite) : Nat × Nat := (w.row, w.column)

def actionsAt (cell : Nat × Nat) (writes : List MarkingWrite) : List MarkingAction :=
  (writes.filter (fun w => w.cell == cell)).map (fun w => w.action)

theorem actionsAt_cons (cell : Nat × Nat) (w : MarkingWrite) (rest : List MarkingWrite) :
    actionsAt cell (w :: rest) =
      if w.cell = cell then w.action :: actionsAt cell rest else actionsAt cell rest := by
  rw [actionsAt, List.filter_cons]
  by_cases same : w.cell = cell
  · rw [if_pos (beq_iff_eq.mpr same), if_pos same, List.map_cons]
    rfl
  · rw [if_neg (fun equal => same (eq_of_beq equal)), if_neg same]
    rfl

theorem actionsAt_append (cell : Nat × Nat) (first second : List MarkingWrite) :
    actionsAt cell (first ++ second) = actionsAt cell first ++ actionsAt cell second := by
  simp only [actionsAt, List.filter_append, List.map_append]

theorem actionsAt_flatMap {ι : Type} (cell : Nat × Nat) (items : List ι)
    (block : ι → List MarkingWrite) :
    actionsAt cell (items.flatMap block) = items.flatMap (fun i => actionsAt cell (block i)) := by
  simp only [actionsAt, List.filter_flatMap, List.map_flatMap]

theorem actionsAt_eq_nil_iff {cell : Nat × Nat} {writes : List MarkingWrite} :
    actionsAt cell writes = [] ↔ ∀ w ∈ writes, w.cell ≠ cell := by
  rw [actionsAt, List.map_eq_nil_iff, List.filter_eq_nil_iff]
  simp only [beq_iff_eq, ne_eq]

theorem actionsAt_cell (row column : Nat) (actions : List MarkingAction) :
    actionsAt (row, column) (actions.map (fun a => ⟨row, column, a⟩)) = actions := by
  have all : (actions.map (MarkingWrite.mk row column)).filter
      (fun w => w.cell == (row, column)) = actions.map (MarkingWrite.mk row column) := by
    rw [List.filter_eq_self]
    intro w inside
    obtain ⟨_, _, rfl⟩ := List.mem_map.mp inside
    exact beq_self_eq_true _
  rw [actionsAt, all, List.map_map]
  exact List.map_id _

end MarkingWrite

namespace Grid

def write (g : Grid) (w : MarkingWrite) : Grid := Function.update g w.cell w.action.merged

def writeAll (g : Grid) (writes : List MarkingWrite) : Grid := writes.foldl write g

/-- The conflict that a write raises, if it does. -/
def conflictWith (g : Grid) (w : MarkingWrite) : List Conflict :=
  if !(g w.cell).isError && g w.cell != w.action.merged then
    [⟨w.row, w.column, g w.cell, w.action.merged⟩]
  else []

def conflicts (g : Grid) : List MarkingWrite → List Conflict
  | [] => []
  | w :: rest => g.conflictWith w ++ (g.write w).conflicts rest

theorem write_of_ne (g : Grid) (w : MarkingWrite) {cell : Nat × Nat} (other : w.cell ≠ cell) :
    g.write w cell = g cell :=
  Function.update_of_ne other.symm _ _

theorem write_cell (g : Grid) (w : MarkingWrite) : g.write w w.cell = w.action.merged :=
  Function.update_self _ _ _

/-- A cell holds the last action that was written to it. -/
theorem writeAll_apply (g : Grid) (writes : List MarkingWrite) (cell : Nat × Nat) :
    g.writeAll writes cell =
      (((MarkingWrite.actionsAt cell writes).getLast?).map MarkingAction.merged).getD (g cell) := by
  induction writes generalizing g with
  | nil => rfl
  | cons w rest ih =>
    have unfolded : g.writeAll (w :: rest) = (g.write w).writeAll rest := rfl
    rw [unfolded, ih, MarkingWrite.actionsAt_cons]
    by_cases same : w.cell = cell
    · rw [if_pos same, List.getLast?_cons, ← same, write_cell]
      cases List.getLast? _ <;> rfl
    · rw [if_neg same, write_of_ne g w same]

theorem writeAll_of_untouched (g : Grid) {writes : List MarkingWrite} {cell : Nat × Nat}
    (elsewhere : ∀ w ∈ writes, w.cell ≠ cell) : g.writeAll writes cell = g cell := by
  rw [writeAll_apply, MarkingWrite.actionsAt_eq_nil_iff.mpr elsewhere]
  rfl

theorem conflicts_append (g : Grid) (first second : List MarkingWrite) :
    g.conflicts (first ++ second) = g.conflicts first ++ (g.writeAll first).conflicts second := by
  induction first generalizing g with
  | nil => rfl
  | cons w rest ih => rw [List.cons_append, conflicts, conflicts, ih, List.append_assoc]; rfl

/-- Only what the written cells hold matters for conflicts. -/
theorem conflicts_congr {g g' : Grid} {writes : List MarkingWrite}
    (same : ∀ w ∈ writes, g w.cell = g' w.cell) : g.conflicts writes = g'.conflicts writes := by
  induction writes generalizing g g' with
  | nil => rfl
  | cons w rest ih =>
    obtain ⟨first, others⟩ := List.forall_mem_cons.mp same
    have later : ∀ v ∈ rest, g.write w v.cell = g'.write w v.cell := by
      intro v inside
      by_cases equal : w.cell = v.cell
      · rw [← equal, write_cell, write_cell]
      · rw [write_of_ne g w equal, write_of_ne g' w equal, others v inside]
    rw [conflicts, conflicts, ih later, conflictWith, conflictWith, first]

/-- Blocks of writes that share no cell raise their conflicts independently. -/
theorem conflicts_flatMap {ι : Type} (g : Grid) (items : List ι) (block : ι → List MarkingWrite)
    (apart : items.Pairwise (fun i j => ∀ w ∈ block i, ∀ v ∈ block j, w.cell ≠ v.cell)) :
    g.conflicts (items.flatMap block) = items.flatMap (fun i => g.conflicts (block i)) := by
  induction items generalizing g with
  | nil => rfl
  | cons i rest ih =>
    obtain ⟨first, others⟩ := List.pairwise_cons.mp apart
    rw [List.flatMap_cons, List.flatMap_cons, conflicts_append, ih _ others]
    congr 1
    apply List.flatMap_congr
    intro j inside
    apply conflicts_congr
    intro v found
    exact writeAll_of_untouched g (fun w written => first j inside w written v found)

/-- Writes to one cell conflict one with the next, if each differs from the one before. -/
theorem conflicts_cell (g : Grid) (row column : Nat) (actions : List MarkingAction)
    (sensible : (g (row, column)).isError = false)
    (changing : List.IsChain (· ≠ ·) (g (row, column) :: actions.map MarkingAction.merged)) :
    g.conflicts (actions.map (fun a => ⟨row, column, a⟩)) =
      Conflict.successive row column (g (row, column) :: actions.map MarkingAction.merged) := by
  induction actions generalizing g with
  | nil => rfl
  | cons a rest ih =>
    have held : g.write ⟨row, column, a⟩ (row, column) = a.merged := write_cell g ⟨row, column, a⟩
    rw [List.map_cons, List.isChain_cons_cons] at changing
    have later := ih (g.write ⟨row, column, a⟩)
      (by rw [held]; exact a.isError_merged) (by rw [held]; exact changing.2)
    have raised : g.conflictWith ⟨row, column, a⟩ = [⟨row, column, g (row, column), a.merged⟩] := by
      simp [conflictWith, MarkingWrite.cell, sensible, changing.1]
    rw [List.map_cons, conflicts, raised, later, held]
    rfl

theorem conflictWith_of_error (g : Grid) (w : MarkingWrite) (fresh : g w.cell = .error) :
    g.conflictWith w = [] := by
  rw [conflictWith, fresh]
  rfl

/-- Writes to a cell that held nothing conflict only among themselves. -/
theorem conflicts_fresh (g : Grid) (row column : Nat) (actions : List MarkingAction)
    (fresh : g (row, column) = .error)
    (changing : List.IsChain (· ≠ ·) (actions.map MarkingAction.merged)) :
    g.conflicts (actions.map (fun a => ⟨row, column, a⟩)) =
      Conflict.successive row column (actions.map MarkingAction.merged) := by
  cases actions with
  | nil => rfl
  | cons a rest =>
    have held : g.write ⟨row, column, a⟩ (row, column) = a.merged := write_cell g ⟨row, column, a⟩
    have later := conflicts_cell (g.write ⟨row, column, a⟩) row column rest
      (by rw [held]; exact a.isError_merged) (by rw [held]; exact changing)
    rw [List.map_cons, conflicts, conflictWith_of_error g ⟨row, column, a⟩ fresh, later, held]
    rfl

end Grid

namespace Filling

/-- The cell at a row and a column, if there is one. -/
def cell? (s : Filling) (cell : Nat × Nat) : Option UInt32 :=
  (s.cells[cell.1]?).bind (fun r => r[cell.2]?)

def grid (s : Filling) : Grid := fun cell => EngineAction.decode ((s.cell? cell).getD 0)

def wrote (s : Filling) (w : MarkingWrite) : Filling where
  cells := s.cells.modify w.row (fun r => r.set w.column w.action.merged.packed)
  conflicts := s.conflicts ++ s.conflictWith w w.action.merged

def wroteAll (s : Filling) (writes : List MarkingWrite) : Filling := writes.foldl wrote s

theorem write_eq_ok_iff (s next : Filling) (w : MarkingWrite) :
    s.write w = .ok next ↔ w.action.Fits ∧ s.wrote w = next := by
  simp only [write, bind_eq_ok_iff, pure_eq_ok_iff]
  constructor
  · intro given
    obtain ⟨action, made, cell, packed, rfl⟩ := given
    obtain ⟨fits, rfl, rfl⟩ := (w.action.engineAction_pack_iff action cell).mp ⟨made, packed⟩
    exact ⟨fits, rfl⟩
  · intro given
    obtain ⟨fits, rfl⟩ := given
    obtain ⟨made, packed⟩ := (w.action.engineAction_pack_iff _ _).mpr ⟨fits, rfl, rfl⟩
    exact ⟨_, made, _, packed, rfl⟩

/-- Writing succeeds exactly when every action fits a cell. -/
theorem writeAll_eq_none_iff (s done : Filling) (writes : List MarkingWrite) :
    s.writeAll writes = (done, none) ↔
      (∀ w ∈ writes, w.action.Fits) ∧ s.wroteAll writes = done := by
  induction writes generalizing s with
  | nil => simp [writeAll, wroteAll]
  | cons w rest ih =>
    rw [List.forall_mem_cons, writeAll]
    have unfolded : s.wroteAll (w :: rest) = (s.wrote w).wroteAll rest := rfl
    rw [unfolded, and_assoc]
    cases written : s.write w with
    | ok next =>
      obtain ⟨fits, rfl⟩ := (write_eq_ok_iff s next w).mp written
      simp only [ih, fits, true_and]
    | error fault =>
      have large : ¬ w.action.Fits := fun fits => by
        have impossible := written.symm.trans ((write_eq_ok_iff s _ w).mpr ⟨fits, rfl⟩)
        cases impossible
      simp [large]

theorem cell?_wrote (s : Filling) (w : MarkingWrite) (cell : Nat × Nat) :
    (s.wrote w).cell? cell =
      if w.cell = cell then (s.cell? cell).map (fun _ => w.action.merged.packed)
      else s.cell? cell := by
  obtain ⟨row, column⟩ := cell
  obtain ⟨writtenRow, writtenColumn, action⟩ := w
  simp only [cell?, wrote, MarkingWrite.cell, Prod.mk.injEq, List.getElem?_modify]
  by_cases sameRow : writtenRow = row
  · subst sameRow
    cases s.cells[writtenRow]? with
    | none => simp
    | some r =>
      by_cases sameColumn : writtenColumn = column
      · subst sameColumn
        simp [List.getElem?_set_self']
        rfl
      · simp [sameColumn]
  · simp [sameRow]

theorem isSome_cell?_wrote (s : Filling) (w : MarkingWrite) (cell : Nat × Nat) :
    ((s.wrote w).cell? cell).isSome = (s.cell? cell).isSome := by
  rw [cell?_wrote]
  split <;> simp

theorem isSome_cell?_wroteAll (s : Filling) (writes : List MarkingWrite) (cell : Nat × Nat) :
    ((s.wroteAll writes).cell? cell).isSome = (s.cell? cell).isSome := by
  induction writes generalizing s with
  | nil => rfl
  | cons w rest ih => exact (ih (s.wrote w)).trans (isSome_cell?_wrote s w cell)

theorem grid_wrote (s : Filling) (w : MarkingWrite) (fits : w.action.Fits)
    (inside : (s.cell? w.cell).isSome) : (s.wrote w).grid = s.grid.write w := by
  funext cell
  rw [grid, cell?_wrote]
  by_cases same : w.cell = cell
  · obtain ⟨old, found⟩ := Option.isSome_iff_exists.mp inside
    have small : w.action.merged.parameter.toNat ≤ EngineAction.maxParameter.toNat := by
      rw [fits.parameter_merged]
      exact fits
    rw [if_pos same, ← same, found, Grid.write_cell]
    exact EngineAction.decode_packed _ small
  · rw [if_neg same, Grid.write_of_ne _ _ same]
    rfl

theorem conflictWith_eq (s : Filling) (w : MarkingWrite) :
    s.conflictWith w w.action.merged = s.grid.conflictWith w := rfl

/-- Writes to cells that exist do to the cells what they do to the grid. -/
theorem wroteAll_spec (s : Filling) (writes : List MarkingWrite)
    (fits : ∀ w ∈ writes, w.action.Fits) (inside : ∀ w ∈ writes, (s.cell? w.cell).isSome) :
    (s.wroteAll writes).grid = s.grid.writeAll writes ∧
      (s.wroteAll writes).conflicts = s.conflicts ++ s.grid.conflicts writes := by
  induction writes generalizing s with
  | nil => exact ⟨rfl, (List.append_nil _).symm⟩
  | cons w rest ih =>
    obtain ⟨firstFits, othersFit⟩ := List.forall_mem_cons.mp fits
    obtain ⟨firstInside, othersInside⟩ := List.forall_mem_cons.mp inside
    obtain ⟨grid, conflicts⟩ := ih (s.wrote w) othersFit
      (fun v found => by rw [isSome_cell?_wrote]; exact othersInside v found)
    rw [grid_wrote s w firstFits firstInside] at grid conflicts
    refine ⟨grid, conflicts.trans ?_⟩
    rw [wrote, conflictWith_eq, List.append_assoc]
    rfl

theorem cell?_wroteAll_of_untouched (s : Filling) {writes : List MarkingWrite} {cell : Nat × Nat}
    (elsewhere : ∀ w ∈ writes, w.cell ≠ cell) : (s.wroteAll writes).cell? cell = s.cell? cell := by
  induction writes generalizing s with
  | nil => rfl
  | cons w rest ih =>
    obtain ⟨first, others⟩ := List.forall_mem_cons.mp elsewhere
    have unfolded : s.wroteAll (w :: rest) = (s.wrote w).wroteAll rest := rfl
    rw [unfolded, ih _ others, cell?_wrote, if_neg first]

end Filling

end ParserSplice
