import EntityQuery.Model.Declaration
/-!
# Type models

A `TypeModel` is what the rest of the library sees of a set of types: their handles, what is known
of each, and the search by name. `Declared` and `Table` produce one each.

The superclass links of a checked model end: `checkAcyclic` refuses the others, so the walk upwards
may be cut after as many steps as there are types.

Results:
* `Except.exists_of_bind_eq_ok`, `Except.exists_of_map_eq_ok`: what a computation that succeeded has
  done before its last step.
* `info_eq_ok_iff`: a handle is accepted if something is known of it.
* `superclassWalk_succ`: one step of the walk.
* `superclassWalk_length_le`: a walk is no longer than it was allowed to be.
-/
namespace EntityQuery

/-- A handle that does not belong to the model, or graph, it was used with. -/
inductive MissingId where
  | type (id : TypeId)
  | entity (id : Nat)
  deriving DecidableEq, Repr

namespace MissingId

def message : MissingId → String
  | .type id =>
    "TypeIntrospection: type id " ++ toString id ++ " not found (ids must come from this model)"
  | .entity id => "entity id " ++ toString id ++ " not found"

end MissingId

/-- Why a set of declarations is no model. -/
inductive ModelError where
  | duplicateType (name : String)
  | cyclicSuperclass (name : String)
  deriving DecidableEq, Repr

namespace ModelError

def message : ModelError → String
  | .duplicateType name => "type `" ++ name ++ "` is declared more than once"
  | .cyclicSuperclass name => "type `" ++ name ++ "` is its own superclass"

end ModelError

section
variable {ε α β : Type} {x : Except ε α}

theorem Except.ok_bind (a : α) (f : α → Except ε β) : (Except.ok a >>= f) = f a := rfl

theorem Except.exists_of_bind_eq_ok {f : α → Except ε β} {b : β} (h : x >>= f = .ok b) :
    ∃ a, x = .ok a ∧ f a = .ok b := by
  cases x with
  | error e => cases h
  | ok a => exact ⟨a, rfl, h⟩

theorem Except.exists_of_map_eq_ok {f : α → β} {b : β} (h : x.map f = .ok b) :
    ∃ a, x = .ok a ∧ f a = b := by
  cases x with
  | error e => cases h
  | ok a => exact ⟨a, rfl, Except.ok.inj h⟩

end

/-- A set of types, seen from outside. -/
structure TypeModel where
  /-- Every handle, in order. -/
  ids : List TypeId
  /-- What is known of a type; `none` for a handle of some other model. -/
  info? : TypeId → Option TypeInfo
  /-- The type with a qualified or simple name. -/
  resolve? : String → Option TypeId

/-- What annotations are attached to. -/
inductive Element where
  | type (id : TypeId)
  | member (id : MemberId)
  deriving DecidableEq, Repr

namespace TypeModel

/-- What is known of a type; the handle must be one of the model. -/
def info (m : TypeModel) (ty : TypeId) : Except MissingId TypeInfo :=
  match m.info? ty with
  | some t => .ok t
  | none => .error (.type ty)

theorem info_eq_ok_iff {m : TypeModel} {ty : TypeId} {t : TypeInfo} :
    m.info ty = .ok t ↔ m.info? ty = some t := by
  unfold info
  cases m.info? ty <;> simp

/-- The qualified name of a type. -/
def typeName (m : TypeModel) (ty : TypeId) : Except MissingId String :=
  (m.info ty).map (·.name)

/-- The members of a type, in the order of the source. -/
def members (m : TypeModel) (ty : TypeId) : Except MissingId (List PlacedMember) :=
  (m.info ty).map (·.placedMembers ty)

/-- The annotations of a type or member; a position past the last member has none. -/
def annotations (m : TypeModel) : Element → Except MissingId (List Annotation)
  | .type ty => (m.info ty).map (·.annotations)
  | .member id => (m.info id.owner).map fun t => (t.members[id.index]?.map (·.annotations)).getD []

/-- The first annotation called `name` of a type or member. -/
def annotation? (m : TypeModel) (e : Element) (name : String) :
    Except MissingId (Option Annotation) :=
  (m.annotations e).map (findAnnotation? · name)

/-- The superclass of a type. It may itself be no type of the model. -/
def superclass? (m : TypeModel) (ty : TypeId) : Option TypeId :=
  (m.info? ty).bind (·.superclass)

/-- The first `n` supertypes of a type, nearest first. -/
def superclassWalk (m : TypeModel) : Nat → TypeId → List TypeId
  | 0, _ => []
  | n + 1, ty =>
    match m.superclass? ty with
    | none => []
    | some sup => sup :: m.superclassWalk n sup

theorem superclassWalk_succ (m : TypeModel) (n : Nat) (ty : TypeId) :
    m.superclassWalk (n + 1) ty =
      match m.superclass? ty with
      | none => []
      | some sup => sup :: m.superclassWalk n sup := rfl

theorem superclassWalk_length_le (m : TypeModel) (n : Nat) (ty : TypeId) :
    (m.superclassWalk n ty).length ≤ n := by
  induction n generalizing ty with
  | zero => simp [superclassWalk]
  | succ n ih =>
    rw [superclassWalk_succ]
    split
    · simp
    · simpa using ih _

/-- Every supertype of a type, nearest first. In an acyclic model no chain has more links than there
are types. -/
def ancestors (m : TypeModel) (ty : TypeId) : List TypeId := m.superclassWalk m.ids.length ty

/-- Whether `sup` is `sub` or one of its supertypes. -/
def isSubtype (m : TypeModel) (sub sup : TypeId) : Bool := (sub :: m.ancestors sub).contains sup

/-- Whether the walk from `ty` comes back to it, or has more steps than there are types. -/
def isEndless (m : TypeModel) (ty : TypeId) : Bool :=
  let walk := m.superclassWalk (m.ids.length + 1) ty
  walk.contains ty || m.ids.length < walk.length

/-- Refuses a model with an endless chain of superclasses, naming the first type that has one. -/
def checkAcyclic (m : TypeModel) : Except ModelError Unit :=
  match m.ids.find? m.isEndless with
  | none => .ok ()
  | some ty => .error (.cyclicSuperclass (((m.info? ty).map (·.name)).getD ""))

end TypeModel

end EntityQuery
