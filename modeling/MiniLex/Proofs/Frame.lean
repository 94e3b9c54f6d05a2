import MiniLex.Proofs.Heading
import Mathlib.Data.List.Forall2

/-!
Tables of single words. Each row takes one line, and each cell shows its word, or the beginning of
it where the console has no room for more. So the rows can be read off the lines that are printed.
-/

namespace MiniLex.Console

/-! ### Cells -/

/-- What stands in a column for a cell: the cell between blanks or, if it is wider than the column,
as much of its beginning as there is room for and a sign of omission. -/
inductive Shows (width : Nat) (cell : Text) : Text → Prop where
  | whole (before after : Nat) (h : before + lineWidth cell + after = width) :
      Shows width cell (blanks before ++ cell ++ blanks after)
  | start (front : Text) (gap : Nat) (hwide : width < lineWidth cell) (hfront : front <+: cell)
      (hroom : lineWidth front + gap = width - 1) (hgap : gap ≤ 1) :
      Shows width cell (front ++ blanks gap ++ ['…'])

/-- The one line of a cell that holds no blank. -/
def field (align : Align) (width : Nat) (cell : Text) : Text :=
  fill width (align.pad width (Overflow.crop .ellipsis width cell))

theorem Shows.not_mem {width : Nat} {cell text : Text} (h : Shows width cell text) {c : Char}
    (hcell : c ∉ cell) (hblank : c ≠ ' ') (hsign : c ≠ '…') : c ∉ text := by
  cases h with
  | whole before after hwidth => simp [not_mem_blanks hblank, hcell]
  | start front gap hwide hfront hroom hgap =>
      have hcut : c ∉ front := fun hmem => hcell (hfront.subset hmem)
      simp [not_mem_blanks hblank, hcut, hsign]

section

variable {cell : Text}

end

/-! ### Rows -/

namespace Table

variable {t : Table}

def asked (t : Table) : List Nat :=
  t.columns.zipIdx.map fun (column, i) =>
    (t.rows.map fun (row : List Text) => cellWidth (row.getD i [])).foldl max
      (cellWidth column.heading) + 2

end Table

/-! ### Frames -/

namespace Table

variable {t : Table}

end Table

end MiniLex.Console
