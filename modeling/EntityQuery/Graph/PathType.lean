import EntityQuery.Graph.Construction
/-!
# Types of paths

The type of a dotted path on an entity. A path descends through components and through to-one
associations to other entities; where the entity itself has no such path, the subtypes known so far
are asked, in order, if the lookup may fall back to them.

Answers on exactly one entity are kept, except that a longer path that was not found is asked again:
an association's target may gain a subtype later.

Results:
* `pathType_single`, `pathType_cons`: a path by its first segment.
-/
namespace EntityQuery

/-- The properties of an embeddable type under an inherited access. -/
def componentFor (types : TypeModel) (ty : TypeId) (inherited : Access) : GraphM Component := do
  let t ← types.info ty
  let access := t.accessFor inherited
  match (← get).components.lookup (ty, access) with
  | some c => return c
  | none =>
    let properties ← types.describeProperties ty access
    let c : Component := ⟨ty, t.name, access, properties⟩
    modify (·.setComponent ty access c)
    return c

/-- A collection property of the entity `owner`, found under `path`. -/
def collectionAt (owner path : String) (p : Property) (element : CollectionElement) :
    Collection where
  owner
  role := owner ++ "." ++ path
  shape := CollectionShape.ofContainer (p.container.getD "")
  element

/-- What a property leads to; `none` only for an embedded one whose type is not declared. -/
def typeOfProperty (types : TypeModel) (owner path : String) (p : Property) (access : Access) :
    GraphM (Option PropertyType) :=
  match p.kind with
  | .basic => return some (.basic (BasicType.ofName p.target))
  | .toOne => return some (.entity p.target)
  | .embedded =>
    match types.resolve? p.target with
    | none => return none
    | some ty => do return some (.component (← componentFor types ty access))
  | .toMany => return some (.toMany (collectionAt owner path p (.entity p.target)))
  | .elementCollection =>
    match (types.resolve? p.target).filter fun ty => (types.info? ty).any (·.isEmbeddable) with
    | some ty => do
      let c ← componentFor types ty access
      return some (.elementCollection (collectionAt owner path p (.component c)))
    | none =>
      let element := CollectionElement.basic (BasicType.ofName p.target)
      return some (.elementCollection (collectionAt owner path p element))

/-- The dotted text of a path so far and one more segment. -/
def extendPath (above head : String) : String := if above == "" then head else above ++ "." ++ head

/-- The answer kept for a path on an entity, else the one that `walk` finds, which is then kept
unless it is a failure on more than one segment. -/
def exactly (walk : Entity → GraphM (Option PropertyType)) (path : Path) (id : EntityId) :
    GraphM (Option PropertyType) := do
  let e ← (← get).entity id
  match e.pathTypes.lookup path with
  | some answer => return answer
  | none =>
    let answer ← walk e
    if answer.isSome || path.length ≤ 1 then modify (·.setPathType id path answer)
    return answer

/-- The first answer among entities. -/
def firstAnswer (ask : EntityId → GraphM (Option PropertyType)) :
    List EntityId → GraphM (Option PropertyType)
  | [] => return none
  | id :: rest => do
    match ← ask id with
    | some answer => return some answer
    | none => firstAnswer ask rest

/-- The answer of an entity, else that of the first of its subtypes, as known when the entity itself
had none. -/
def withSubtypes (fallback : Bool) (ask : EntityId → GraphM (Option PropertyType)) (id : EntityId) :
    GraphM (Option PropertyType) := do
  match ← ask id with
  | some answer => return some answer
  | none =>
    if fallback then firstAnswer ask (← (← get).entity id).subtypes else return none

/-- The type of a path from the type `ty`, whose members are read through `access`. `owner` is the
entity whose path this is, and `above` the path that leads to `ty`. -/
def pathType (types : TypeModel) (fallback : Bool) :
    Path → String → String → TypeId → Access → GraphM (Option PropertyType)
  | [], _, _, _, _ => return none
  | [head], owner, above, ty, access => do
    match ← types.findProperty ty head access with
    | none => return none
    | some p => typeOfProperty types owner (extendPath above head) p access
  | head :: next :: rest, owner, above, ty, access => do
    match ← types.findProperty ty head access with
    | none => return none
    | some p =>
      match p.kind with
      | .embedded =>
        match types.resolve? p.target with
        | none => return none
        | some target =>
          let t ← types.info target
          pathType types fallback (next :: rest) owner (extendPath above head) target
            (t.accessFor access)
      | .toOne =>
        match ← resolveEntity types p.target with
        | none => return none
        | some id =>
          withSubtypes fallback
            (exactly (fun e => pathType types fallback (next :: rest) e.name "" e.typeId e.access)
              (next :: rest)) id
      | _ => return none

theorem pathType_single (types : TypeModel) (fallback : Bool) (head owner above : String)
    (ty : TypeId) (access : Access) :
    pathType types fallback [head] owner above ty access = (do
      match ← types.findProperty ty head access with
      | none => return none
      | some p => typeOfProperty types owner (extendPath above head) p access) := rfl

/-- The type of a path on exactly this entity. -/
def exactPropertyType (types : TypeModel) (fallback : Bool) (id : EntityId) (path : Path) :
    GraphM (Option PropertyType) :=
  exactly (fun e => pathType types fallback path e.name "" e.typeId e.access) path id

/-- The type of a path on this entity, else on the first of its subtypes that has it. -/
def propertyType (types : TypeModel) (fallback : Bool) (id : EntityId) (path : Path) :
    GraphM (Option PropertyType) :=
  withSubtypes fallback (exactPropertyType types fallback · path) id

/-- A path of several segments by its first: through a component, or to another entity. -/
theorem pathType_cons (types : TypeModel) (fallback : Bool) (head next : String) (rest : Path)
    (owner above : String) (ty : TypeId) (access : Access) :
    pathType types fallback (head :: next :: rest) owner above ty access = (do
      match ← types.findProperty ty head access with
      | none => return none
      | some p =>
        match p.kind with
        | .embedded =>
          match types.resolve? p.target with
          | none => return none
          | some target =>
            let t ← types.info target
            pathType types fallback (next :: rest) owner (extendPath above head) target
              (t.accessFor access)
        | .toOne =>
          match ← resolveEntity types p.target with
          | none => return none
          | some id => propertyType types fallback id (next :: rest)
        | _ => return none) := rfl

end EntityQuery
