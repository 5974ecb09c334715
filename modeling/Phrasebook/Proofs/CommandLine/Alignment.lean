import Mathlib.Algebra.Order.Ring.Nat
import Phrasebook.CommandLine.Grid

/-!
# Grids are aligned

All lines of a grid take the same number of columns, whatever its cells hold: wide characters,
marks, pictures and letters that are drawn as one included. A cell is as wide as its column when it
is padded, and since there is a blank on both sides of it, it is drawn apart from its neighbours and
from the frame. A column is as wide as the widest cell, because no later row makes it narrower.
-/
namespace Phrasebook.CommandLine.Grid

open Text

/-- The columns are wide enough for what stands in them. What has no column is not drawn. -/
inductive Fits {α : Type} (size : α → Nat) : List Nat → List α → Prop where
  | nil (cells : List α) : Fits size [] cells
  | cons {columns : Nat} {widths : List Nat} {cell : α} {cells : List α}
    (hcell : size cell ≤ columns) (hmore : Fits size widths cells) :
    Fits size (columns :: widths) (cell :: cells)

namespace Fits
variable {α β : Type} {size : α → Nat} {widths : List Nat} {cells : List α}

theorem map_size (cells : List α) : Fits size (cells.map size) cells := by
  induction cells with
  | nil => exact .nil []
  | cons cell cells ih => exact .cons le_rfl ih

/-- What is no wider than the cells fits where they do. -/
theorem map {narrow : β → Nat} {f : α → β} (h : Fits size widths cells)
    (hf : ∀ cell, narrow (f cell) ≤ size cell) : Fits narrow widths (cells.map f) := by
  induction h with
  | nil => exact .nil _
  | cons hcell _ ih => exact .cons ((hf _).trans hcell) ih

/-- What fits goes on fitting when columns are made wider. -/
theorem zipWith_max (h : Fits size widths cells) (needed : List Nat) :
    Fits size (widths.zipWith max needed) cells := by
  induction h generalizing needed with
  | nil => exact .nil _
  | cons hcell _ ih =>
    cases needed with
    | nil => exact .nil _
    | cons least needed => exact .cons (hcell.trans (le_max_left _ _)) (ih needed)

/-- What columns are made wider for fits. -/
theorem of_zipWith_max (widths : List Nat) (cells : List α) :
    Fits size (widths.zipWith max (cells.map size)) cells := by
  induction cells generalizing widths with
  | nil => simpa using Fits.nil []
  | cons cell cells ih =>
    cases widths with
    | nil => exact .nil _
    | cons columns widths => exact .cons (le_max_right _ _) (ih widths)

end Fits

/-! ## The widths of the columns -/

theorem fits_foldl_widen {widths : List Nat} {row : List String} (h : Fits cellWidth widths row)
    (rows : List (List String)) : Fits cellWidth (rows.foldl widen widths) row := by
  induction rows generalizing widths with
  | nil => exact h
  | cons next rows ih => exact ih (h.zipWith_max _)

theorem fits_foldl_widen_of_mem {rows : List (List String)} {row : List String}
    (hrow : row ∈ rows) (widths : List Nat) : Fits cellWidth (rows.foldl widen widths) row := by
  induction rows generalizing widths with
  | nil => contradiction
  | cons next rows ih =>
    rcases List.mem_cons.1 hrow with rfl | hlater
    · exact fits_foldl_widen (.of_zipWith_max widths row) rows
    · exact ih hlater _

theorem fits_header (grid : Grid) : Fits cellWidth grid.widths grid.header :=
  fits_foldl_widen (.map_size grid.header) grid.rows

theorem fits_row {grid : Grid} {row : List String} (h : row ∈ grid.rows) :
    Fits cellWidth grid.widths row :=
  fits_foldl_widen_of_mem h _

theorem width_le_cellWidth {cell : String} {line : List Char} (h : line ∈ cellLines cell) :
    width line ≤ cellWidth cell := by
  rw [cellWidth, List.foldl_max]
  exact (List.le_max?_getD_of_mem (List.mem_map_of_mem h)).trans (le_max_right _ _)

/-- Below its last line a cell is drawn as empty lines. -/
theorem width_line_le (cell : String) (height : Nat) :
    width (((cellLines cell)[height]?).getD []) ≤ cellWidth cell := by
  cases hline : (cellLines cell)[height]? with
  | none => exact Nat.zero_le _
  | some line => exact width_le_cellWidth (List.mem_of_getElem? hline)

/-! ## The lines of a row -/

/-- The columns between the sides of the frame: a blank on both sides of each cell, and one between
cells. -/
def innerWidth (widths : List Nat) : Nat :=
  (widths.map (· + 2)).sum + (widths.length - 1)

/-- A line of a cell between its blanks. -/
def cellText (columns : Nat) (line : List Char) : List Char :=
  ' ' :: padRight columns line ++ [' ']

/-- Lines of cells that stand at the same height. -/
def cellsText (widths : List Nat) (lines : List (List Char)) : List Char :=
  [' '].intercalate (widths.zipWith cellText lines)

theorem cellsText_singleton (columns : Nat) (line : List Char) (lines : List (List Char)) :
    cellsText [columns] (line :: lines) = cellText columns line := by
  simp [cellsText]

theorem cellsText_cons_cons (columns next : Nat) (widths : List Nat) (line nextLine : List Char)
    (lines : List (List Char)) :
    cellsText (columns :: next :: widths) (line :: nextLine :: lines) =
      cellText columns line ++ ' ' :: cellsText (next :: widths) (nextLine :: lines) := by
  simp [cellsText, List.intercalate_cons_cons]

theorem toList_rowLine (widths : List Nat) (lines : List (List Char)) :
    (rowLine widths lines).toList = '│' :: (cellsText widths lines ++ ['│']) := by
  have hcell : cellText = fun columns line => ' ' :: (padRight columns line ++ [' ']) := rfl
  simp [rowLine, cellsText, hcell, String.toList_intercalate, List.map_zipWith]

section
variable {widths : List Nat} {lines : List (List Char)}

theorem width_cellText {columns : Nat} {line : List Char} (h : width line ≤ columns) :
    width (cellText columns line) = columns + 2 := by
  rw [cellText, width_append _ (standsAlone_blank []), width_blank, width_blank, width_padRight h,
    width_nil]

theorem width_cellsText (h : Fits width widths lines) :
    width (cellsText widths lines) = innerWidth widths := by
  induction h with
  | nil lines => rfl
  | cons hcell hmore ih =>
    cases hmore with
    | nil =>
      rw [cellsText_singleton, width_cellText hcell]
      simp [innerWidth]
    | cons =>
      rw [cellsText_cons_cons, width_append _ (standsAlone_blank _), width_blank,
        width_cellText hcell, ih]
      simp only [innerWidth, List.map_cons, List.sum_cons, List.length_cons]
      omega

/-- The side of the frame is not joined to the first cell. -/
theorem standsAlone_cellsText_append (h : Fits width widths lines) {text : List Char}
    (htext : StandsAlone text) : StandsAlone (cellsText widths lines ++ text) := by
  cases h with
  | nil => exact htext
  | cons _ hmore =>
    cases hmore with
    | nil => rw [cellsText_singleton]; exact standsAlone_blank _
    | cons => rw [cellsText_cons_cons]; exact standsAlone_blank _

theorem width_rowLine (h : Fits width widths lines) :
    width (rowLine widths lines).toList = innerWidth widths + 2 := by
  have hside : Head.of '│' = .single 1 := by decide +kernel
  have hright : StandsAlone ['│'] := standsAlone_nil.cons hside
  rw [toList_rowLine, (standsAlone_cellsText_append h hright).width_cons hside,
    width_append _ hright, width_cellsText h, standsAlone_nil.width_cons hside, width_nil]
  omega

end

theorem width_of_mem_rowLines {widths : List Nat} {row : List String} {line : String}
    (hrow : Fits cellWidth widths row) (hline : line ∈ rowLines widths row) :
    width line.toList = innerWidth widths + 2 := by
  obtain ⟨height, -, rfl⟩ := List.mem_map.1 hline
  rw [List.map_map]
  exact width_rowLine (hrow.map fun cell => width_line_le cell height)

/-! ## The frame -/

/-- A sign of the frame takes one column. -/
def IsFrameSign (sign : String) : Prop :=
  ∃ c, sign.toList = [c] ∧ Head.of c = .single 1

theorem foldl_columns (widths : List Nat) (start : Nat) :
    widths.foldl (fun columns width => columns + width + 2) start =
      start + (widths.map (· + 2)).sum := by
  induction widths generalizing start with
  | nil => rfl
  | cons columns widths ih =>
    rw [List.foldl_cons, ih, List.map_cons, List.sum_cons]
    omega

theorem width_border {left line right : String} (hleft : IsFrameSign left)
    (hline : IsFrameSign line) (hright : IsFrameSign right) (widths : List Nat) :
    width (border left line right widths).toList = innerWidth widths + 2 := by
  obtain ⟨l, hl, hlwidth⟩ := hleft
  obtain ⟨c, hc, hcwidth⟩ := hline
  obtain ⟨r, hr, hrwidth⟩ := hright
  have hend : StandsAlone [r] := standsAlone_nil.cons hrwidth
  have htext : (border left line right widths).toList =
      l :: (List.replicate (innerWidth widths) c ++ [r]) := by
    simp [border, foldl_columns, innerWidth, hl, hc, hr, List.flatMap_replicate, Nat.add_comm]
  rw [htext, (hend.replicate_append hcwidth _).width_cons hlwidth,
    hend.width_replicate_append hcwidth, standsAlone_nil.width_cons hrwidth, width_nil]
  omega

/-- Every line of a grid takes the same number of columns. -/
theorem width_of_mem_lines {grid : Grid} {line : String} (h : line ∈ grid.lines) :
    width line.toList = innerWidth grid.widths + 2 := by
  simp only [lines, List.mem_append, List.mem_singleton, List.mem_flatMap] at h
  rcases h with (((rfl | hheader) | rfl) | ⟨row, hrow, hline⟩) | rfl
  · exact width_border ⟨'┌', rfl, by decide +kernel⟩ ⟨'─', rfl, by decide +kernel⟩
      ⟨'┐', rfl, by decide +kernel⟩ _
  · exact width_of_mem_rowLines (fits_header grid) hheader
  · exact width_border ⟨'╞', rfl, by decide +kernel⟩ ⟨'═', rfl, by decide +kernel⟩
      ⟨'╡', rfl, by decide +kernel⟩ _
  · exact width_of_mem_rowLines (fits_row hrow) hline
  · exact width_border ⟨'└', rfl, by decide +kernel⟩ ⟨'─', rfl, by decide +kernel⟩
      ⟨'┘', rfl, by decide +kernel⟩ _

end Phrasebook.CommandLine.Grid
