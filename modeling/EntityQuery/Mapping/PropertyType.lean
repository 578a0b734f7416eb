import EntityQuery.Mapping.Property
/-!
# Types of property paths

What a path through the properties of an entity can lead to: a basic value, another entity, a
component, or a collection of one of these.
-/
namespace EntityQuery

inductive BasicKind where
  | string
  | integer
  | decimal
  | boolean
  | temporal
  | binary
  | other
  deriving DecidableEq, Repr, Inhabited

/-- A value type with its classification. -/
structure BasicType where
  name : String
  kind : BasicKind
  deriving DecidableEq, Repr, Inhabited

namespace BasicKind

/-- The kinds by simple type name; every other name is `other`. -/
def names : List (BasicKind × List String) := [
  (.string, ["String", "char", "Character", "CharSequence"]),
  (.integer, ["byte", "short", "int", "long", "Byte", "Short", "Integer", "Long", "BigInteger"]),
  (.decimal, ["float", "double", "Float", "Double", "BigDecimal"]),
  (.boolean, ["boolean", "Boolean"]),
  (.temporal, ["Date", "Calendar", "Timestamp", "Time", "Instant", "LocalDate", "LocalTime",
    "LocalDateTime", "OffsetDateTime", "OffsetTime", "ZonedDateTime", "Year", "YearMonth"]),
  (.binary, ["byte[]", "Byte[]", "Blob"])]

/-- The kind of a type with the given simple name. -/
def ofSimpleName (name : String) : BasicKind :=
  match names.find? fun (_, known) => known.contains name with
  | some (kind, _) => kind
  | none => .other

end BasicKind

namespace BasicType

/-- The value type with a name. -/
def ofName (name : String) : BasicType := ⟨name, BasicKind.ofSimpleName (Name.simple name)⟩

end BasicType

inductive CollectionShape where
  | set
  | list
  | map
  | bag
  deriving DecidableEq, Repr, Inhabited

namespace CollectionShape

/-- The shape of a container type, told by the end of its simple name. -/
def ofContainer (typeName : String) : CollectionShape :=
  let name := (Name.simple typeName).toList
  if ['M', 'a', 'p'].isSuffixOf name then .map
  else if ['S', 'e', 't'].isSuffixOf name then .set
  else if ['L', 'i', 's', 't'].isSuffixOf name then .list
  else .bag

def text : CollectionShape → String
  | .set => "Set"
  | .list => "List"
  | .map => "Map"
  | .bag => "Bag"

end CollectionShape

/-- An embedded value type with the properties of its whole lineage. -/
structure Component where
  typeId : TypeId
  typeName : String
  access : Access
  properties : List Property
  deriving DecidableEq, Repr, Inhabited

namespace Component

/-- The property called `name`. -/
def property? (c : Component) (name : String) : Option Property :=
  c.properties.find? (·.name == name)

end Component

inductive CollectionElement where
  | entity (name : String)
  | component (component : Component)
  | basic (type : BasicType)
  deriving DecidableEq, Repr, Inhabited

namespace CollectionElement

def text : CollectionElement → String
  | .entity name => name
  | .component c => c.typeName
  | .basic b => b.name

end CollectionElement

/-- A to-many association or element collection. -/
structure Collection where
  /-- The entity that owns it. -/
  owner : String
  /-- The owner and the path to the collection, joined with a dot. -/
  role : String
  shape : CollectionShape
  element : CollectionElement
  deriving DecidableEq, Repr, Inhabited

inductive PropertyType where
  | basic (type : BasicType)
  | entity (name : String)
  | toMany (collection : Collection)
  | elementCollection (collection : Collection)
  | component (component : Component)
  deriving DecidableEq, Repr, Inhabited

namespace PropertyType

/-- The collection that a path leads to. -/
def collection? : PropertyType → Option Collection
  | .toMany c => some c
  | .elementCollection c => some c
  | _ => none

/-- The type as it is printed. -/
def text : PropertyType → String
  | .basic b => b.name
  | .entity name => name
  | .toMany c => c.shape.text ++ "<" ++ c.element.text ++ ">"
  | .elementCollection c => c.shape.text ++ "<" ++ c.element.text ++ ">"
  | .component c => c.typeName

end PropertyType

end EntityQuery
