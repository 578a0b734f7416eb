import EntityQuery.Graph.PathType
import EntityQuery.Text.Split
/-!
# Summary of the entities

The text that lists every entity of a model: its name, type and access, its properties with their
types, and its subtypes.
-/
namespace EntityQuery

namespace Summary

/-- The lines of properties; one whose type is not known gets a question mark. -/
def propertyLines (types : TypeModel) (id : EntityId) : List String → GraphM String
  | [] => return ""
  | name :: rest => do
    let type ← propertyType types false id (Path.ofString name)
    let line := "  " ++ name ++ ": " ++ (type.map PropertyType.text).getD "?" ++ "\n"
    return line ++ (← propertyLines types id rest)

/-- The line of subtypes, if there are any. -/
def subtypeLine (g : Graph) (e : Entity) : String :=
  let names := e.subtypes.filterMap fun sub => g.entities[sub]?.map (·.name)
  if names.isEmpty then "" else "  subtypes: " ++ Text.joinStrings ", " names ++ "\n"

/-- The part of one entity. -/
def entityPart (types : TypeModel) (id : EntityId) : GraphM String := do
  let e ← (← get).entity id
  let head := e.name ++ " (" ++ e.typeName ++ ", " ++ e.access.text ++ " access)\n"
  let properties ← propertyLines types id (e.properties.map (·.name))
  let g ← get
  return head ++ properties ++ subtypeLine g (← g.entity id)

/-- The parts of entities, with an empty line between neighbours. -/
def parts (types : TypeModel) : List EntityId → GraphM String
  | [] => return ""
  | [id] => entityPart types id
  | id :: next :: rest => do
    let part ← entityPart types id
    return part ++ "\n" ++ (← parts types (next :: rest))

end Summary

/-- The summary of a model. Properties are looked up on the entity alone. -/
def summary (types : TypeModel) : Except MissingId String :=
  Prod.fst <$> (do
    let ids ← resolveAll types
    Summary.parts types ids : GraphM String) Graph.empty

end EntityQuery
