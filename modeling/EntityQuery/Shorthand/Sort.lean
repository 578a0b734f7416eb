import EntityQuery.Text.Split
/-!
# Sort chains

A chain of calls names columns, each with or without a direction of its own, and gives directions to
all columns that have none so far, whose positions are kept. A column that is left without one is
ascending.

Results:
* `orderByClause?_of_no_columns`, `orderByClause?_of_columns`: when there is a clause.
-/
namespace EntityQuery

inductive Direction where
  | ascending
  | descending
  deriving DecidableEq, Repr, Inhabited

namespace Direction

def keyword : Direction → String
  | .ascending => "ASC"
  | .descending => "DESC"

end Direction

/-- One call of a chain. -/
inductive SortCall where
  /-- The first column. -/
  | sortBy (column : String) (direction : Option Direction)
  /-- A further column. -/
  | thenBy (column : String) (direction : Option Direction)
  /-- A direction for every column before that has none. -/
  | chainWide (direction : Direction)
  deriving DecidableEq, Repr, Inhabited

/-- A column with its direction. -/
structure SortColumn where
  name : String
  direction : Direction
  deriving DecidableEq, Repr, Inhabited

namespace SortColumn

def text (c : SortColumn) : String := c.name ++ " " ++ c.direction.keyword

end SortColumn

/-- The columns so far, each with its direction if it has one, and the positions of those that wait
for one. -/
structure SortColumns where
  columns : List (String × Option Direction)
  waiting : List Nat
  deriving DecidableEq, Repr

namespace SortColumns

def empty : SortColumns := ⟨[], []⟩

def addColumn (c : SortColumns) (name : String) (direction : Option Direction) : SortColumns where
  columns := c.columns ++ [(name, direction)]
  waiting := if direction.isNone then c.waiting ++ [c.columns.length] else c.waiting

/-- Gives the direction to all columns that wait. -/
def direct (c : SortColumns) (direction : Direction) : SortColumns where
  columns := c.waiting.foldl (fun columns i => columns.modify i fun column =>
    (column.1, some direction)) c.columns
  waiting := []

/-- The columns after one more call. -/
def addCall (c : SortColumns) : SortCall → SortColumns
  | .sortBy column direction => c.addColumn column direction
  | .thenBy column direction => c.addColumn column direction
  | .chainWide direction => c.direct direction

end SortColumns

/-- Calls in order. -/
abbrev SortChain := List SortCall

namespace SortChain

/-- The chain with one more column: the first call of a chain is `sortBy`. -/
def addColumn (chain : SortChain) (column : String) (direction : Option Direction) : SortChain :=
  if chain.isEmpty then [.sortBy column direction] else chain ++ [.thenBy column direction]

/-- The columns in the order of the calls, with their directions. -/
def columns (chain : SortChain) : List SortColumn :=
  (chain.foldl SortColumns.addCall .empty).columns.map fun (name, direction) =>
    ⟨name, direction.getD .ascending⟩

/-- The clause for the columns; none for a chain without columns. -/
def orderByClause? (chain : SortChain) : Option String :=
  match chain.columns with
  | [] => none
  | columns => some ("ORDER BY " ++ Text.joinStrings ", " (columns.map SortColumn.text))

theorem orderByClause?_of_no_columns {chain : SortChain} (h : chain.columns = []) :
    chain.orderByClause? = none := by
  rw [orderByClause?, h]

theorem orderByClause?_of_columns {chain : SortChain} (h : chain.columns ≠ []) :
    chain.orderByClause? =
      some ("ORDER BY " ++ Text.joinStrings ", " (chain.columns.map SortColumn.text)) := by
  unfold orderByClause?
  split
  · contradiction
  · rfl

/-- The chain for columns written as `name` or, descending, `-name`; empty ones are left out. -/
def ofColumns (columns : List String) : SortChain :=
  (columns.filter (· != "")).foldl
    (fun chain column =>
      match column.toList with
      | '-' :: name => chain.addColumn (String.ofList name) (some .descending)
      | _ => chain.addColumn column none)
    []

end SortChain

end EntityQuery
