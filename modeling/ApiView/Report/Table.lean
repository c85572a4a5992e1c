import ApiView.Json.Writer
import ApiView.Text.Runs

/-!
# Tables

A row of headers over rows of cells, and its two written forms.

* `Table.lines`: one row to a line, cells between tabs;
* `Table.records`: a list of mappings from headers to cells;
* `cellsOf`: the cells of a text in lines.
-/

namespace ApiView

structure Table where
  headers : List String
  rows : List (List String)
deriving DecidableEq, Repr

namespace Table

def rowLine (cells : List String) : List Char :=
  Text.joinWith ['\t'] (cells.map String.toList)

/-- A table in writing: the headers and then the rows, a line break between each two. -/
def lines (t : Table) : List Char :=
  Text.joinWith ['\n'] ((t.headers :: t.rows).map rowLine)

/-- A row as a mapping. Of equal headers the first keeps its place and the last gives the cell;
headers without cells and cells without headers are left out. -/
def record (headers cells : List String) : Value :=
  .map (Entries.ofPairs ((headers.zip cells).map fun (h, c) => (.str h, .str c)))

def records (t : Table) : Value :=
  .list (t.rows.map (record t.headers))

end Table

def cellsOf (text : List Char) : List (List String) :=
  (Text.fieldsAt '\n' text).map fun line => (Text.fieldsAt '\t' line).map String.ofList

end ApiView
