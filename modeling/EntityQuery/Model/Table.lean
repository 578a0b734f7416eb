import EntityQuery.Model.Basic
/-!
# Models from a table

A table lists types with handles of their own, in increasing order. A handle is searched by halving,
a name row by row, and the superclass links are handles that need not be in the table.
-/
namespace EntityQuery

/-- Rows of handle and type. -/
structure Table where
  rows : List (TypeId × TypeInfo)
  deriving DecidableEq, Repr

namespace Table

/-- The table of `rows`, put in the order of their handles. -/
def ofRows (rows : List (TypeId × TypeInfo)) : Table := ⟨rows.mergeSort fun a b => a.1 ≤ b.1⟩

/-- The type in the row with the handle `ty`. The middle row tells in which half to go on; if the
number of rows is odd, it belongs to both. -/
def search (rows : List (TypeId × TypeInfo)) (ty : TypeId) : Option TypeInfo :=
  if h : rows.length ≤ 1 then (rows.head?.filter (·.1 == ty)).map (·.2)
  else
    let half := rows.length / 2
    if ty < (rows[half]).1 then search (rows.take (rows.length - half)) ty
    else search (rows.drop half) ty
termination_by rows.length
decreasing_by
  · rw [List.length_take]
    omega
  · rw [List.length_drop]
    omega

/-- The handle in the first row whose type satisfies `p`. -/
def findRow? (t : Table) (p : TypeInfo → Bool) : Option TypeId :=
  (t.rows.find? fun row => p row.2).map (·.1)

/-- The model as the rest of the library sees it. -/
def toModel (t : Table) : TypeModel where
  ids := t.rows.map (·.1)
  info? := search t.rows
  resolve? name := t.findRow? (·.name == name) <|> t.findRow? (Name.simple ·.name == name)

/-- The table itself, if its superclass chains end. -/
def checked (t : Table) : Except ModelError Table := do
  t.toModel.checkAcyclic
  return t

end Table

end EntityQuery
