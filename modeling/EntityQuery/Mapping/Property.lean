import EntityQuery.Keyed
import EntityQuery.Mapping.Access
/-!
# Properties

Which members are properties, what a property is called, what kind it is and what it points at. The
same properties can be searched one by one, nearest type first, or listed, root type first.
-/
namespace EntityQuery

inductive PropertyKind where
  | basic
  | embedded
  | toOne
  | toMany
  | elementCollection
  deriving DecidableEq, Repr, Inhabited

namespace PropertyKind

/-- To-many associations and element collections. -/
def isCollection (k : PropertyKind) : Bool := k == .toMany || k == .elementCollection

end PropertyKind

/-- A persistent property of an entity or component. -/
structure Property where
  name : String
  kind : PropertyKind
  /-- The declared type of a basic property, the component type of an embedded one, the entity of an
  association, the element type of a collection. -/
  target : String
  /-- The declared type of a collection. -/
  container : Option String
  member : MemberId
  deriving DecidableEq, Repr, Inhabited

namespace Member

/-- Neither static nor transient, by modifier or annotation. -/
def isPersistent (m : Member) : Bool := !m.isStatic && !m.isTransient && !m.has "Transient"

/-- Whether a method is an accessor by its form: no parameters, and `get…` with a result or any
other name with a boolean one. -/
def isAccessor (m : Member) : Bool :=
  m.isMethod && m.parameters == 0 &&
    if ['g', 'e', 't'].isPrefixOf m.name.toList then !m.type.isVoid else m.type.isBoolean

/-- The property that a member stands for under an access. -/
def propertyName (m : Member) : Access → Option String
  | .field => if m.isPersistent && m.isField then some m.name else none
  | .property => if m.isPersistent && m.isAccessor then Name.accessorProperty m.name else none

end Member

namespace Lineage

/-- The member for a property: the nearest type that has one, and its first. -/
def findMember? (chain : Lineage) (property : String) (default : Access) : Option PlacedMember :=
  chain.findSome? fun (ty, t) =>
    (t.placedMembers ty).find? fun p =>
      p.member.propertyName (t.accessFor default) == some property

/-- The properties that a type of the lineage declares itself, with their members. -/
def declaredProperties (default : Access) (ty : TypeId) (t : TypeInfo) :
    List (String × PlacedMember) :=
  (t.placedMembers ty).filterMap fun p =>
    (p.member.propertyName (t.accessFor default)).map fun name => (name, p)

/-- The members of every property, from the root down. A redeclared property keeps its place and
gets the later member. -/
def propertyMembers (chain : Lineage) (default : Access) : List (String × PlacedMember) :=
  Keyed.ofPairs (chain.reverse.flatMap fun (ty, t) => declaredProperties default ty t)

end Lineage

namespace Member

/-- The kind of a property; of several annotations the first of to-one, to-many, element collection
and embedded counts. -/
def propertyKind (types : TypeModel) (m : Member) : PropertyKind :=
  if m.has "ManyToOne" || m.has "OneToOne" then .toOne
  else if m.has "OneToMany" || m.has "ManyToMany" then .toMany
  else if m.has "ElementCollection" then .elementCollection
  else if m.has "Embedded" || m.has "EmbeddedId" ||
      ((types.resolve? m.type.name).bind types.info?).any (·.isEmbeddable) then .embedded
  else .basic

/-- The type that an annotation names in one of its attributes: without a final `.class`, and by its
simple name. -/
def explicitTarget? (m : Member) (mark key : String) : Option String :=
  match (findAnnotation? m.annotations mark).bind (·.attribute? key) with
  | some value =>
    let name := (Name.stripEnd ['.', 'c', 'l', 'a', 's', 's'] value.toList).getD value.toList
    if name.isEmpty then none else some (Name.simple (String.ofList name))
  | none => none

/-- The simple name of the last type argument (the value type of a map), or of the type itself if it
has none. -/
def elementType (m : Member) : String :=
  match m.type.arguments.getLast? with
  | some argument => Name.simple argument
  | none => m.type.simpleName

/-- What a property of the given kind points at. -/
def targetName (m : Member) : PropertyKind → String
  | .toOne =>
    (m.explicitTarget? "ManyToOne" "targetEntity" <|>
      m.explicitTarget? "OneToOne" "targetEntity").getD m.type.simpleName
  | .toMany =>
    (m.explicitTarget? "OneToMany" "targetEntity" <|>
      m.explicitTarget? "ManyToMany" "targetEntity").getD m.elementType
  | .elementCollection =>
    (m.explicitTarget? "ElementCollection" "targetClass").getD m.elementType
  | .embedded | .basic => m.type.name

end Member

namespace Property

/-- Describes the property `name` of a member. -/
def describe (types : TypeModel) (name : String) (p : PlacedMember) : Property :=
  let kind := p.member.propertyKind types
  { name, kind
    target := p.member.targetName kind
    container := if kind.isCollection then some p.member.type.name else none
    member := p.id }

end Property

namespace Lineage

/-- The property called `name`, searched nearest type first. -/
def findProperty? (types : TypeModel) (chain : Lineage) (name : String) (default : Access) :
    Option Property :=
  (chain.findMember? name default).map (Property.describe types name)

/-- Every property, from the root down. -/
def properties (types : TypeModel) (chain : Lineage) (default : Access) : List Property :=
  (chain.propertyMembers default).map fun (name, p) => Property.describe types name p

end Lineage

namespace TypeModel

/-- The property of a type called `name`. -/
def findProperty (m : TypeModel) (ty : TypeId) (name : String) (default : Access) :
    Except MissingId (Option Property) :=
  (m.lineage ty).map (·.findProperty? m name default)

/-- Every property of a type. -/
def describeProperties (m : TypeModel) (ty : TypeId) (default : Access) :
    Except MissingId (List Property) :=
  (m.lineage ty).map (·.properties m default)

end TypeModel

end EntityQuery
