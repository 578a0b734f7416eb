import EntityQuery.Graph.PathType
/-!
# Collections by role

A role is the name of an entity and the path to a collection, joined with a dot. Collections that
are found are kept; a role that is not found is asked again.
-/
namespace EntityQuery

/-- The collection that a path on a named entity leads to. -/
def collectionOf (types : TypeModel) (fallback : Bool) (entity : String) (path : Path) :
    GraphM (Option Collection) := do
  match ← resolveEntity types entity with
  | none => return none
  | some id => return (← propertyType types fallback id path).bind (·.collection?)

/-- The collection with a role. -/
def resolveCollection (types : TypeModel) (fallback : Bool) (role : String) :
    GraphM (Option Collection) := do
  match (← get).collections.lookup role with
  | some c => return some c
  | none =>
    match Path.ofString role with
    | entity :: next :: rest =>
      match ← collectionOf types fallback entity (next :: rest) with
      | some c =>
        modify (·.setCollection role c)
        return some c
      | none => return none
    | _ => return none

/-- The type of a path within the elements of the collection with a role. -/
def collectionElementType (types : TypeModel) (fallback : Bool) (role : String) (path : Path) :
    GraphM (Option PropertyType) := do
  match ← resolveCollection types fallback role with
  | none => return none
  | some c =>
    match c.element with
    | .entity name =>
      match ← resolveEntity types name with
      | none => return none
      | some id => propertyType types fallback id path
    | .component component =>
      pathType types fallback path c.owner (Path.toString (Path.ofString role).tail)
        component.typeId component.access
    | .basic _ => return none

end EntityQuery
