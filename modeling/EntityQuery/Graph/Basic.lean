import EntityQuery.Mapping.PropertyType
/-!
# The metadata graph

A graph holds what has been found out about a model so far: the entities built, numbered in order of
construction and linked to their subtypes, and four tables of answers already given (by requested
name, by type, by collection role, by component). Lookups are functions on graphs; the model is
handed to them.

A table is a list of keys and answers, the latest first.
-/
namespace EntityQuery

/-- Number of an entity in a graph. -/
abbrev EntityId := Nat

/-- An entity type with its properties. -/
structure Entity where
  id : EntityId
  name : String
  typeId : TypeId
  typeName : String
  access : Access
  properties : List Property
  /-- The entities built so far whose types are strict subtypes, in order of construction. -/
  subtypes : List EntityId
  /-- Answers to paths on exactly this entity, failed ones included. -/
  pathTypes : List (Path × Option PropertyType)
  deriving DecidableEq, Repr, Inhabited

namespace Entity

/-- The property called `name`. -/
def property? (e : Entity) (name : String) : Option Property :=
  e.properties.find? (·.name == name)

end Entity

/-- Entities and answers of one run. -/
structure Graph where
  entities : List Entity
  /-- Requested names, failed ones included. -/
  byName : List (String × Option EntityId)
  byType : List (TypeId × EntityId)
  collections : List (String × Collection)
  components : List ((TypeId × Access) × Component)
  deriving DecidableEq, Repr, Inhabited

/-- A lookup: it may add to the graph, and fails on a handle that belongs to no model or graph. -/
abbrev GraphM := StateT Graph (Except MissingId)

namespace Graph

/-- The graph in which nothing has been looked up. -/
def empty : Graph := ⟨[], [], [], [], []⟩

/-- The entity with a number; the number must be one of the graph. -/
def entity (g : Graph) (id : EntityId) : Except MissingId Entity :=
  match g.entities[id]? with
  | some e => .ok e
  | none => .error (.entity id)

/-- Records the answer for a requested name. -/
def setName (g : Graph) (name : String) (id : Option EntityId) : Graph :=
  { g with byName := (name, id) :: g.byName }

/-- Records the answer for a name, unless there is one. -/
def setNewName (g : Graph) (name : String) (id : EntityId) : Graph :=
  if (g.byName.lookup name).isSome then g else g.setName name (some id)

/-- Records the answer for a path on an entity. -/
def setPathType (g : Graph) (id : EntityId) (path : Path) (answer : Option PropertyType) : Graph :=
  { g with entities := g.entities.modify id fun e =>
      { e with pathTypes := (path, answer) :: e.pathTypes } }

/-- Records a collection under its role as requested. -/
def setCollection (g : Graph) (role : String) (c : Collection) : Graph :=
  { g with collections := (role, c) :: g.collections }

/-- Records a component. -/
def setComponent (g : Graph) (ty : TypeId) (access : Access) (c : Component) : Graph :=
  { g with components := ((ty, access), c) :: g.components }

end Graph

end EntityQuery
