import EntityQuery.Model.Basic
/-!
# Models from declarations

`Declared.build` numbers declarations in order, finds their superclasses by name and keeps an index
of qualified names and one of simple names. A superclass that is not declared counts as none.

Results:
* `resolve?_eq`: a name is looked up among the qualified names first.
-/
namespace EntityQuery

/-- Names with the type each one stands for. -/
abbrev NameIndex := List (String × TypeId)

namespace NameIndex

/-- Adds a name, unless it is there. -/
def insertNew (index : NameIndex) (name : String) (ty : TypeId) : NameIndex :=
  if (index.lookup name).isSome then index else (name, ty) :: index

end NameIndex

/-- Types in the order of their declarations, with an index of their names. -/
structure Declared where
  types : List TypeInfo
  byName : NameIndex
  bySimpleName : NameIndex
  deriving DecidableEq, Repr

namespace Declared

/-- Enters declarations numbered from `next` into the index of qualified names; a name that is
already there is refused. -/
def indexNames : List Declaration → TypeId → NameIndex → Except ModelError NameIndex
  | [], _, index => .ok index
  | d :: ds, next, index =>
    if (index.lookup d.name).isSome then .error (.duplicateType d.name)
    else indexNames ds (next + 1) ((d.name, next) :: index)

/-- Enters declarations numbered from `next` into the index of simple names; the first type with a
simple name keeps it. -/
def indexSimpleNames : List Declaration → TypeId → NameIndex → NameIndex
  | [], _, index => index
  | d :: ds, next, index =>
    indexSimpleNames ds (next + 1) (index.insertNew (Name.simple d.name) next)

/-- The type a name stands for, qualified names before simple ones. -/
def resolveIn (byName bySimpleName : NameIndex) (name : String) : Option TypeId :=
  byName.lookup name <|> bySimpleName.lookup name

/-- A declaration with its superclass found. -/
def resolveSuperclass (byName bySimpleName : NameIndex) (d : Declaration) : TypeInfo where
  name := d.name
  superclass := d.superclass.bind (resolveIn byName bySimpleName)
  annotations := d.annotations
  members := d.members

/-- The model as the rest of the library sees it. -/
def toModel (m : Declared) : TypeModel where
  ids := List.range m.types.length
  info? ty := m.types[ty]?
  resolve? name := resolveIn m.byName m.bySimpleName name

theorem resolve?_eq (m : Declared) (name : String) :
    m.toModel.resolve? name = (m.byName.lookup name <|> m.bySimpleName.lookup name) := rfl

/-- The model of a list of declarations: names must differ and superclass chains must end. -/
def build (ds : List Declaration) : Except ModelError Declared := do
  let byName ← indexNames ds 0 []
  let bySimpleName := indexSimpleNames ds 0 []
  let m : Declared := ⟨ds.map (resolveSuperclass byName bySimpleName), byName, bySimpleName⟩
  m.toModel.checkAcyclic
  return m

end Declared

end EntityQuery
