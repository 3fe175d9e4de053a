import Coursework.Grading.Matrix
import Coursework.Screen.Basic
import Coursework.Screen.ResultTable

/-!
# The printed matrix

The submission matrix as a table. Cells and headers that can be clicked say so by a class.
-/

namespace Coursework.Screen

open Html Grading

/-- A cell of the header. -/
def headerCell (cell : HeaderCell) : Node :=
  match cell.sort with
  | some _ => .classed .th "clickable" [.value cell.label]
  | none => .bare .th [.value cell.label]

/-- A cell. -/
def gridCell (cell : Cell) : Node :=
  let clickable := if cell.click.isSome then "clickable" else ""
  .element .td [.classes [clickable, cell.cssClass]] [.value cell.value]

/-- A matrix. -/
def grid (matrix : Matrix) : Node :=
  .classed .div "table-responsive"
    [.classed .table tableClass
      [tableHead (matrix.header.map headerCell),
        .bare .tbody (matrix.rows.map fun row => .bare .tr (row.map gridCell))]]

/-- The matrix of the store. -/
def matrixGrid (mode : MatrixMode) (query : String) : Screen :=
  .still fun store => [grid (storeMatrix store mode (storeFilter store mode) query)]

end Coursework.Screen
