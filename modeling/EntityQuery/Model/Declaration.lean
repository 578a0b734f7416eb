import EntityQuery.Name
/-!
# Declarations

What a compiler knows of a type before anything is resolved: its name, the name of its superclass,
its annotations and its members in the order of the source. A `TypeInfo` is the same with the
superclass found.

Results:
* `map_placedMembers`, `mem_placedMembers`: the members of a type with their places.
-/
namespace EntityQuery

/-- Handle of a declared type. -/
abbrev TypeId := Nat

/-- A named mark on a type or member, with attributes in the order of the source. -/
structure Annotation where
  name : String
  attributes : List (String × String)
  deriving DecidableEq, Repr, Inhabited

namespace Annotation

/-- The value of the first attribute `key`. -/
def attribute? (a : Annotation) (key : String) : Option String := a.attributes.lookup key

end Annotation

/-- The first annotation called `name`. -/
def findAnnotation? (annotations : List Annotation) (name : String) : Option Annotation :=
  annotations.find? (·.name == name)

/-- Whether an annotation is called `name`. -/
def hasAnnotation (annotations : List Annotation) (name : String) : Bool :=
  (findAnnotation? annotations name).isSome

/-- A type as written: its name and its type arguments. -/
structure TypeRef where
  name : String
  arguments : List String
  deriving DecidableEq, Repr, Inhabited

namespace TypeRef

def simpleName (t : TypeRef) : String := Name.simple t.name

def isVoid (t : TypeRef) : Bool := t.name == "void"

def isBoolean (t : TypeRef) : Bool := t.simpleName == "boolean" || t.simpleName == "Boolean"

end TypeRef

/-- A field, or a method with its number of parameters. -/
inductive MemberKind where
  | field
  | method (parameters : Nat)
  deriving DecidableEq, Repr, Inhabited

/-- A declared field or method; `type` is a method's result type. -/
structure Member where
  name : String
  kind : MemberKind
  type : TypeRef
  isStatic : Bool
  isTransient : Bool
  annotations : List Annotation
  deriving DecidableEq, Repr, Inhabited

namespace Member

def isField (m : Member) : Bool := m.kind == .field

def isMethod (m : Member) : Bool := !m.isField

/-- Number of parameters, none for a field. -/
def parameters (m : Member) : Nat :=
  match m.kind with
  | .field => 0
  | .method n => n

def has (m : Member) (mark : String) : Bool := hasAnnotation m.annotations mark

end Member

/-- Place of a member: the declaring type and the position among its members. -/
structure MemberId where
  owner : TypeId
  index : Nat
  deriving DecidableEq, Repr, Inhabited

/-- A member together with its place. -/
structure PlacedMember where
  id : MemberId
  member : Member
  deriving DecidableEq, Repr, Inhabited

/-- A type as declared; the superclass is a name. -/
structure Declaration where
  name : String
  superclass : Option String
  annotations : List Annotation
  members : List Member
  deriving DecidableEq, Repr, Inhabited

/-- A type of a model; the superclass is a handle. -/
structure TypeInfo where
  name : String
  superclass : Option TypeId
  annotations : List Annotation
  members : List Member
  deriving DecidableEq, Repr, Inhabited

namespace TypeInfo

def has (t : TypeInfo) (mark : String) : Bool := hasAnnotation t.annotations mark

/-- The members with their places, for the type with the handle `id`. -/
def placedMembers (t : TypeInfo) (id : TypeId) : List PlacedMember :=
  t.members.zipIdx.map fun (member, index) => ⟨⟨id, index⟩, member⟩

theorem map_placedMembers (t : TypeInfo) (id : TypeId) :
    (t.placedMembers id).map (·.member) = t.members := by
  rw [placedMembers, List.map_map]
  exact List.zipIdx_map_fst 0 t.members

theorem mem_placedMembers {t : TypeInfo} {id : TypeId} {p : PlacedMember} :
    p ∈ t.placedMembers id ↔ p.id.owner = id ∧ t.members[p.id.index]? = some p.member := by
  rw [placedMembers, List.mem_map]
  constructor
  · rintro ⟨⟨member, index⟩, hindex, rfl⟩
    exact ⟨rfl, List.mk_mem_zipIdx_iff_getElem?.mp hindex⟩
  · rintro ⟨rfl, hmember⟩
    exact ⟨(p.member, p.id.index), List.mk_mem_zipIdx_iff_getElem?.mpr hmember, rfl⟩

end TypeInfo

end EntityQuery
