import EntityQuery.Graph.Collection
/-!
# What an analyser may ask

The questions about metadata that an analyser of queries can put, by names and dotted texts. `none`
means unresolved; whether that is a fault is for the analyser to say.
-/
namespace EntityQuery

/-- Questions about the metadata of one run. -/
structure Lookup where
  entity : String → GraphM (Option Entity)
  /-- The type of a dotted path on a named entity. -/
  propertyType : String → String → GraphM (Option PropertyType)
  /-- The collection with a role. -/
  collection : String → GraphM (Option Collection)
  /-- The type of a dotted path within the elements of a collection. -/
  elementType : String → String → GraphM (Option PropertyType)
  entityNames : List String

/-- The entity that a name stands for. -/
def entityByName (types : TypeModel) (name : String) : GraphM (Option Entity) := do
  match ← resolveEntity types name with
  | none => return none
  | some id => return some (← (← get).entity id)

/-- The type of a dotted path on a named entity. -/
def propertyTypeByName (types : TypeModel) (fallback : Bool) (entity path : String) :
    GraphM (Option PropertyType) := do
  match ← resolveEntity types entity with
  | none => return none
  | some id => propertyType types fallback id (Path.ofString path)

/-- The questions as answered from a model and the graph. -/
def lookupIn (types : TypeModel) (fallback : Bool) : Lookup where
  entity := entityByName types
  propertyType := propertyTypeByName types fallback
  collection := resolveCollection types fallback
  elementType role path := collectionElementType types fallback role (Path.ofString path)
  entityNames := types.entityNames

end EntityQuery
