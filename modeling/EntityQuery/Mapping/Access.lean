import EntityQuery.Model.Basic
/-!
# Persistent types and access

Which types take part in persistence, what an entity is called, and whether its state is read from
fields or through accessors.

The `lineage` of a type is the type itself and its persistent supertypes, nearest first. Everything
that depends on a hierarchy is a function of a lineage.
-/
namespace EntityQuery

/-- How persistent state is read. -/
inductive Access where
  | field
  /-- Through `get…` and `is…` methods. -/
  | property
  deriving DecidableEq, Repr, Inhabited

namespace Access

def text : Access → String
  | .field => "field"
  | .property => "property"

end Access

namespace TypeInfo

def isEntity (t : TypeInfo) : Bool := t.has "Entity"

def isEmbeddable (t : TypeInfo) : Bool := t.has "Embeddable"

/-- Entity, mapped superclass or embeddable. -/
def isPersistent (t : TypeInfo) : Bool := t.isEntity || t.has "MappedSuperclass" || t.isEmbeddable

def simpleName (t : TypeInfo) : String := Name.simple t.name

/-- The name given in the `Entity` annotation, unless it is empty or not given: then the simple name
of the type. -/
def entityName (t : TypeInfo) : String :=
  match (findAnnotation? t.annotations "Entity").bind (·.attribute? "name") with
  | some name => if name == "" then t.simpleName else name
  | none => t.simpleName

/-- The access that an `Access` annotation on the type asks for. -/
def explicitAccess (t : TypeInfo) : Option Access :=
  match (findAnnotation? t.annotations "Access").bind (·.attribute? "value") with
  | some value =>
    if value == "FIELD" then some .field else if value == "PROPERTY" then some .property else none
  | none => none

/-- The access for the members that the type itself declares. -/
def accessFor (t : TypeInfo) (default : Access) : Access := t.explicitAccess.getD default

end TypeInfo

/-- A type and its persistent supertypes, nearest first. -/
abbrev Lineage := List (TypeId × TypeInfo)

namespace TypeModel

/-- The types with these handles; each handle must be one of the model. -/
def infos (m : TypeModel) : List TypeId → Except MissingId Lineage
  | [] => .ok []
  | ty :: rest => do
    let t ← m.info ty
    let ts ← m.infos rest
    return (ty, t) :: ts

/-- A type, persistent or not, followed by its persistent supertypes. -/
def lineage (m : TypeModel) (ty : TypeId) : Except MissingId Lineage := do
  let t ← m.info ty
  let supertypes ← m.infos (m.ancestors ty)
  return (ty, t) :: supertypes.filter (·.2.isPersistent)

/-- The handles of a lineage. -/
def persistentChain (m : TypeModel) (ty : TypeId) : Except MissingId (List TypeId) :=
  (m.lineage ty).map (List.map (·.1))

end TypeModel

namespace Member

/-- Whether the member carries the identifier. -/
def isIdentifier (m : Member) : Bool := m.has "Id" || m.has "EmbeddedId"

end Member

namespace Lineage

/-- Every member of the lineage, from the root down. -/
def membersFromRoot (chain : Lineage) : List Member := chain.reverse.flatMap (·.2.members)

/-- The access of a hierarchy: its first identifier, searched from the root down, decides. Without
one it is field access. -/
def defaultAccess (chain : Lineage) : Access :=
  match chain.membersFromRoot.find? (·.isIdentifier) with
  | some m => if m.isMethod then .property else .field
  | none => .field

end Lineage

end EntityQuery
