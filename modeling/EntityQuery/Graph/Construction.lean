import EntityQuery.Graph.Basic
/-!
# Building entities

An entity is built when it is first asked for, by name or with all others. It is linked at once with
the entities already there: to those of its supertypes it is a new subtype, and those of its
subtypes become its own.
-/
namespace EntityQuery

namespace TypeModel

/-- The entity types of a model, in order. -/
def entityTypes (m : TypeModel) : Lineage :=
  m.ids.filterMap fun ty => ((m.info? ty).filter (·.isEntity)).map fun t => (ty, t)

/-- Adds a name to names in increasing order, unless it is there. -/
def insertName (name : String) : List String → List String
  | [] => [name]
  | n :: rest =>
    if name = n then n :: rest
    else if name < n then name :: n :: rest
    else n :: insertName name rest

/-- The names of all entity types, each once, in increasing order. -/
def entityNames (m : TypeModel) : List String :=
  m.entityTypes.foldr (fun (_, t) names => insertName t.entityName names) []

/-- The entity type that a name stands for: the first with that entity name, else the type with that
name if it is an entity type, else the first with that simple name. -/
def findEntityType? (m : TypeModel) (name : String) : Option TypeId :=
  (m.entityTypes.find? fun (_, t) => t.entityName == name).map (·.1)
  <|> (m.resolve? name).filter (fun ty => (m.info? ty).any (·.isEntity))
  <|> (m.entityTypes.find? fun (_, t) => t.simpleName == name).map (·.1)

end TypeModel

namespace Graph

/-- An entity already built, told of a new one numbered `id`. -/
def linkTo (types : TypeModel) (ty : TypeId) (id : EntityId) (known : Entity) : Entity :=
  if types.isSubtype ty known.typeId then { known with subtypes := known.subtypes ++ [id] }
  else known

/-- The entities already built that are subtypes of a new one. -/
def knownSubtypes (types : TypeModel) (ty : TypeId) (entities : List Entity) : List EntityId :=
  (entities.filter fun known =>
    !types.isSubtype ty known.typeId && types.isSubtype known.typeId ty).map (·.id)

/-- The entity for a type, without links. -/
def describeEntity (types : TypeModel) (ty : TypeId) (id : EntityId) : Except MissingId Entity := do
  let t ← types.info ty
  let chain ← types.lineage ty
  let access := chain.defaultAccess
  return {
    id
    name := t.entityName
    typeId := ty
    typeName := t.name
    access
    properties := chain.properties types access
    subtypes := []
    pathTypes := [] }

/-- Adds a new entity and its links. -/
def addEntity (types : TypeModel) (g : Graph) (e : Entity) : Graph :=
  { g with
    entities := g.entities.map (linkTo types e.typeId e.id) ++
      [{ e with subtypes := knownSubtypes types e.typeId g.entities }]
    byType := (e.typeId, e.id) :: g.byType }

end Graph

/-- The entity for a type, built if it is not there. -/
def entityForType (types : TypeModel) (ty : TypeId) : GraphM EntityId := do
  let g ← get
  match g.byType.lookup ty with
  | some id => return id
  | none =>
    let e ← Graph.describeEntity types ty g.entities.length
    set ((g.addEntity types e).setNewName e.name e.id)
    return e.id

/-- The entity that a name stands for. The first answer for a name is kept, `none` included. -/
def resolveEntity (types : TypeModel) (name : String) : GraphM (Option EntityId) := do
  match (← get).byName.lookup name with
  | some answer => return answer
  | none =>
    let answer ←
      match types.findEntityType? name with
      | some ty => some <$> entityForType types ty
      | none => pure none
    modify (·.setName name answer)
    return answer

/-- The entities for types, in order. -/
def entitiesForTypes (types : TypeModel) : List TypeId → GraphM (List EntityId)
  | [] => return []
  | ty :: rest => do
    let id ← entityForType types ty
    let ids ← entitiesForTypes types rest
    return id :: ids

/-- Builds every entity of the model. -/
def resolveAll (types : TypeModel) : GraphM (List EntityId) :=
  entitiesForTypes types (types.entityTypes.map (·.1))

end EntityQuery
