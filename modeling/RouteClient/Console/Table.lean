import RouteClient.Console.Layout
import RouteClient.Text.Lines

namespace RouteClient.Console

structure Column where
  title : String
  wraps : Bool := true

end RouteClient.Console

namespace RouteClient.Console.Table

open RouteClient.Text

def measure (s : List Char) : Nat := ((Lines.lines s).map Width.width).foldl max 0

def rule (left line cross right : Char) (widths : List Nat) : List Char :=
  left :: [cross].intercalate (widths.map fun w ↦ List.replicate (w + 2) line) ++ [right]

def rowLine (edge : Char) (widths : List Nat) (cells : List (List Char)) : List Char :=
  edge :: (widths.zip cells).flatMap fun (w, cell) ↦ ' ' :: Layout.padTo w cell ++ [' ', edge]

def rowLines (edge : Char) (columns : List Column) (widths : List Nat) (row : List (List Char)) :
    List (List Char) :=
  let cells := (columns.zip (widths.zip row)).map fun (column, w, cell) ↦
    Layout.fit w column.wraps cell
  (List.range ((cells.map List.length).foldl max 0)).map fun k ↦
    rowLine edge widths (cells.map fun cell ↦ cell.getD k [])

def widths (columns : List Column) (rows : List (List (List Char))) : List Nat :=
  columns.zipIdx.map fun (column, k) ↦
    (rows.map fun row ↦ measure (row.getD k [])).foldl max (measure column.title.toList)

def lines (columns : List Column) (rows : List (List (List Char))) : List (List Char) :=
  let ws := widths columns rows
  [rule '┏' '━' '┳' '┓' ws] ++ rowLines '┃' columns ws (columns.map (·.title.toList)) ++
    [rule '┡' '━' '╇' '┩' ws] ++ rows.flatMap (rowLines '│' columns ws) ++ [rule '└' '─' '┴' '┘' ws]

end RouteClient.Console.Table
