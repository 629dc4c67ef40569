import Mathlib.Data.List.Induction
import ParserSplice.Proofs.Engine.Rows

set_option autoImplicit false

namespace ParserSplice

open MergedTables

/-- Cells in rows of one width. -/
structure Shaped (rows width : Nat) (cells : List (List UInt32)) : Prop where
  length : cells.length = rows
  width : ∀ (i : Nat) row, cells[i]? = some row → row.length = width

theorem shaped_blank (rows width : Nat) :
    Shaped rows width (List.replicate rows (List.replicate width 0)) where
  length := List.length_replicate
  width i row found := by
    rw [List.getElem?_replicate] at found
    split at found
    · cases found
      exact List.length_replicate
    · cases found

theorem Shaped.modify {rows width : Nat} {cells : List (List UInt32)}
    (shaped : Shaped rows width cells) {new : List UInt32 → List UInt32}
    (keeps : ∀ row, (new row).length = row.length) (place : Nat) :
    Shaped rows width (cells.modify place new) where
  length := (List.length_modify ..).trans shaped.length
  width i row found := by
    rw [List.getElem?_modify, Option.map_eq_map, Option.map_eq_some_iff] at found
    obtain ⟨old, before, rfl⟩ := found
    have own := shaped.width i old before
    by_cases here : place = i
    · rw [if_pos here, keeps, own]
    · rw [if_neg here, own]

theorem Shaped.exists_row {rows width : Nat} {cells : List (List UInt32)}
    (shaped : Shaped rows width cells) {place : Nat} (inside : place < rows) :
    ∃ row, cells[place]? = some row ∧ row.length = width := by
  have below : place < cells.length := by rw [shaped.length]; exact inside
  exact ⟨_, List.getElem?_eq_getElem below, shaped.width place _ (List.getElem?_eq_getElem below)⟩

def overwrite (row : List UInt32) (cells : List (Nat × UInt32)) : List UInt32 :=
  cells.foldl (fun row cell => row.set cell.1 cell.2) row

theorem length_overwrite (row : List UInt32) (cells : List (Nat × UInt32)) :
    (overwrite row cells).length = row.length := by
  induction cells generalizing row with
  | nil => rfl
  | cons cell rest ih => exact (ih _).trans (List.length_set ..)

theorem set_denseRow (width : Nat) (cells : List (Nat × UInt32)) (cell : Nat × UInt32) :
    (denseRow width cells).set cell.1 cell.2 = denseRow width (cell :: cells) := by
  apply List.ext_getElem?
  intro column
  rw [getElem?_denseRow, List.getElem?_set, length_denseRow, getElem?_denseRow, List.lookup_cons]
  by_cases here : cell.1 = column
  · simp [here]
  · have other : (column == cell.1) = false := beq_false_of_ne (Ne.symm here)
    simp [here, other]

/-- Cells for different columns, written to a row, go before what the row holds. -/
theorem overwrite_denseRow (width : Nat) {cells : List (Nat × UInt32)}
    (distinct : (cells.map Prod.fst).Nodup) (held : List (Nat × UInt32)) :
    overwrite (denseRow width held) cells = denseRow width (cells ++ held) := by
  induction cells generalizing held with
  | nil => rfl
  | cons cell rest ih =>
    rw [List.map_cons, List.nodup_cons] at distinct
    have first : overwrite (denseRow width held) (cell :: rest) =
        overwrite ((denseRow width held).set cell.1 cell.2) rest := rfl
    rw [first, set_denseRow, ih distinct.2]
    -- No later cell is for the column of the first one, so it may stand before them as well.
    apply List.ext_getElem?
    intro column
    rw [getElem?_denseRow, getElem?_denseRow, List.cons_append, List.lookup_append,
      List.lookup_cons, List.lookup_cons, List.lookup_append]
    by_cases here : column = cell.1
    · have absent : rest.lookup column = none := by
        rw [List.lookup_eq_none_iff]
        intro entry listed
        have other : entry.1 ≠ cell.1 := fun same =>
          distinct.1 (same ▸ List.mem_map_of_mem listed)
        simpa [here] using other.symm
      rw [here] at absent
      simp [here, absent]
    · have other : (column == cell.1) = false := beq_false_of_ne here
      simp [other]

/-- The row that some states leave when their cells are written one after the other. -/
theorem foldl_overwrite (width : Nat) (states : List CopiedState)
    (distinct : ∀ s ∈ states, (s.cells.map Prod.fst).Nodup) :
    states.foldl (fun row s => overwrite row s.cells) (List.replicate width 0) =
      mergedRow width states := by
  have blank : List.replicate width (0 : UInt32) = denseRow width [] := by
    simp [denseRow]
  suffices given : ∀ held, states.foldl (fun row s => overwrite row s.cells) (denseRow width held) =
      denseRow width (states.reverse.flatMap (fun s => s.cells) ++ held) by
    rw [blank, given, List.append_nil]
    rfl
  intro held
  induction states generalizing held with
  | nil => rfl
  | cons s rest ih =>
    obtain ⟨first, others⟩ := List.forall_mem_cons.mp distinct
    rw [List.foldl_cons, overwrite_denseRow width first, ih others]
    simp

/-- The merged table while it is filled. -/
structure Board where
  cells : List (List UInt32)
  layouts : List IndexSet

namespace Board

def blank (rows width : Nat) : Board :=
  ⟨List.replicate rows (List.replicate width 0), List.replicate rows ∅⟩

def place (b : Board) (entry : Nat × CopiedState) : Board :=
  ⟨b.cells.modify entry.1 (fun row => overwrite row entry.2.cells),
    b.layouts.modify entry.1 (fun held => held.union entry.2.layout)⟩

def placeAll (b : Board) (placed : List (Nat × CopiedState)) : Board := placed.foldl place b

/-- A board with rows of one width, and a layout set for each. -/
structure Fits (rows width : Nat) (b : Board) : Prop where
  cells : Shaped rows width b.cells
  layouts : b.layouts.length = rows

theorem fits_blank (rows width : Nat) : (blank rows width).Fits rows width :=
  ⟨shaped_blank rows width, List.length_replicate⟩

theorem Fits.place {rows width : Nat} {b : Board} (fits : b.Fits rows width)
    (entry : Nat × CopiedState) : (b.place entry).Fits rows width :=
  ⟨fits.cells.modify (fun row => length_overwrite row entry.2.cells) entry.1,
    (List.length_modify ..).trans fits.layouts⟩

theorem Fits.placeAll {rows width : Nat} {b : Board} (fits : b.Fits rows width)
    (placed : List (Nat × CopiedState)) : (b.placeAll placed).Fits rows width := by
  induction placed generalizing b with
  | nil => exact fits
  | cons entry rest ih => exact ih (fits.place entry)

theorem placedOn_concat (front : List (Nat × CopiedState)) (entry : Nat × CopiedState) (row : Nat) :
    placedOn (front ++ [entry]) row =
      placedOn front row ++ (if entry.1 = row then [entry.2] else []) := by
  by_cases here : entry.1 = row <;> simp [placedOn, here]

/-- Items that are changed at places, one after the other: each item is changed by what is meant for
its place, in order. -/
theorem foldl_modify {α : Type} (add : α → CopiedState → α) (start : α) (rows : Nat)
    (placed : List (Nat × CopiedState)) :
    placed.foldl (fun items entry => items.modify entry.1 (fun item => add item entry.2))
        (List.replicate rows start) =
      (List.range rows).map (fun row => (placedOn placed row).foldl add start) := by
  induction placed using List.reverseRecOn with
  | nil => simp [placedOn]
  | append_singleton front entry ih =>
    rw [List.foldl_append, List.foldl_cons, List.foldl_nil, ih]
    apply List.ext_getElem?
    intro row
    rw [List.getElem?_modify, List.getElem?_map, List.getElem?_map]
    by_cases inside : row < rows
    · rw [List.getElem?_range inside]
      by_cases here : entry.1 = row <;> simp [placedOn_concat, here]
    · simp [inside]

/-- A blank board that copied states were put on, row by row. -/
theorem placeAll_blank (rows width : Nat) {placed : List (Nat × CopiedState)}
    (distinct : ∀ entry ∈ placed, (entry.2.cells.map Prod.fst).Nodup) :
    (blank rows width).placeAll placed =
      ⟨(List.range rows).map (fun row => mergedRow width (placedOn placed row)),
        (List.range rows).map (fun row => mergedLayout (placedOn placed row))⟩ := by
  have split : ∀ b : Board, b.placeAll placed =
      ⟨placed.foldl (fun items entry => items.modify entry.1 (fun row =>
          overwrite row entry.2.cells)) b.cells,
        placed.foldl (fun items entry => items.modify entry.1 (fun held =>
          held.union entry.2.layout)) b.layouts⟩ := by
    clear distinct
    induction placed with
    | nil => exact fun b => rfl
    | cons entry rest ih => exact fun b => ih (b.place entry)
  have cells := foldl_modify (fun row s => overwrite row s.cells) (List.replicate width 0) rows placed
  have layouts := foldl_modify (fun (held : IndexSet) s => held.union s.layout) ∅ rows placed
  rw [split, blank]
  dsimp only
  rw [cells, layouts]
  congr 1
  apply List.map_congr_left
  intro row _
  apply foldl_overwrite
  intro s listed
  obtain ⟨entry, inside, rfl⟩ := List.mem_map.mp listed
  exact distinct entry (List.mem_of_mem_filter inside)

end Board

end ParserSplice
