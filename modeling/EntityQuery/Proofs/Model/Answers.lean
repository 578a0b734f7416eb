import Mathlib
import EntityQuery.Graph.Collection
import EntityQuery.Proofs.Model.EntityTypes
/-!
# Answers read off a model

What a path leads to, worked out from the model alone: nothing is kept from one question to the
next, and the subtypes that a path may fall back to are given by a function `subs` on types. These
are the answers that a graph is compared with.

A path either ends within the type it starts from and the components below it, or leaves them
through an association: `walk` says which, without asking for any other entity.

Results:
* `walk_ok`, `typeOf_ok`: in an accepted model both succeed on every type.
* `walk_cons`: a walk by the first segment of its path.
* `walk_onward`: what is left of a path after an association is its end, shorter and not empty.
* `typeOf_collection`: the owner, the role and the elements of a collection.
* `typeOf_inModel`: what a property leads to belongs to the model.
* `pathAnswer_eq_walk`: the answer of a path is that of the end of its walk.
-/
namespace EntityQuery

/-- Components among the elements belong to types of the model. -/
def Collection.InModel (m : TypeModel) (c : Collection) : Prop :=
  ∀ k, c.element = .component k → k.typeId ∈ m.ids

/-- The collection that the answer is, if any, belongs to the model. -/
def PropertyType.InModel (m : TypeModel) (t : PropertyType) : Prop :=
  ∀ c, t.collection? = some c → c.InModel m

/-- Where a path stops, as far as components lead. -/
inductive PathEnd where
  | nowhere
  /-- At a property, read through `access`, with the dotted text of the path to it. -/
  | found (p : Property) (path : String) (access : Access)
  /-- At an association, with the segments still to go. -/
  | onward (target : String) (rest : Path)

namespace TypeModel

variable (m : TypeModel)

/-- The end of a path from a type, whose members are read through `access`. -/
def walk : Path → String → TypeId → Access → Except MissingId PathEnd
  | [], _, _, _ => .ok .nowhere
  | [head], above, ty, access => do
    match ← m.findProperty ty head access with
    | none => return .nowhere
    | some p => return .found p (extendPath above head) access
  | head :: next :: rest, above, ty, access => do
    match ← m.findProperty ty head access with
    | none => return .nowhere
    | some p =>
      match p.kind with
      | .embedded =>
        match m.resolve? p.target with
        | none => return .nowhere
        | some target =>
          let t ← m.info target
          walk (next :: rest) (extendPath above head) target (t.accessFor access)
      | .toOne => return .onward p.target (next :: rest)
      | _ => return .nowhere

/-- The component of a type read through `access`. -/
def componentOf (ty : TypeId) (access : Access) : Except MissingId Component := do
  let t ← m.info ty
  let properties ← m.describeProperties ty access
  return ⟨ty, t.name, access, properties⟩

/-- The component of a type where `inherited` is the access around it. -/
def componentIn (ty : TypeId) (inherited : Access) : Except MissingId Component := do
  let t ← m.info ty
  m.componentOf ty (t.accessFor inherited)

/-- The name and the access of the entity of a type. -/
def entityHead (ty : TypeId) : Except MissingId (String × Access) := do
  let t ← m.info ty
  let chain ← m.lineage ty
  return (t.entityName, chain.defaultAccess)

/-- What a property leads to. -/
def typeOf (owner path : String) (p : Property) (access : Access) :
    Except MissingId (Option PropertyType) :=
  match p.kind with
  | .basic => .ok (some (.basic (BasicType.ofName p.target)))
  | .toOne => .ok (some (.entity p.target))
  | .toMany => .ok (some (.toMany (collectionAt owner path p (.entity p.target))))
  | .embedded =>
    match m.resolve? p.target with
    | none => .ok none
    | some ty => (m.componentIn ty access).map fun c => some (.component c)
  | .elementCollection =>
    match (m.resolve? p.target).filter fun ty => (m.info? ty).any (·.isEmbeddable) with
    | some ty => (m.componentIn ty access).map fun c =>
        some (.elementCollection (collectionAt owner path p (.component c)))
    | none => .ok (some (.elementCollection
        (collectionAt owner path p (.basic (BasicType.ofName p.target)))))

/-- The first answer that one of the types has. -/
def firstOf (ask : TypeId → Except MissingId (Option PropertyType)) :
    List TypeId → Except MissingId (Option PropertyType)
  | [] => .ok none
  | ty :: rest => do
    match ← ask ty with
    | some t => return some t
    | none => firstOf ask rest

/-- What a path from `ty` leads to; a path through an association goes on at its target, and where
that has no answer, at the subtypes `subs` of the target. -/
def pathAnswer (subs : TypeId → List TypeId) :
    Path → String → String → TypeId → Access → Except MissingId (Option PropertyType)
  | [], _, _, _, _ => .ok none
  | [head], owner, above, ty, access => do
    match ← m.findProperty ty head access with
    | none => return none
    | some p => m.typeOf owner (extendPath above head) p access
  | head :: next :: rest, owner, above, ty, access => do
    match ← m.findProperty ty head access with
    | none => return none
    | some p =>
      match p.kind with
      | .embedded =>
        match m.resolve? p.target with
        | none => return none
        | some target =>
          let t ← m.info target
          pathAnswer subs (next :: rest) owner (extendPath above head) target (t.accessFor access)
      | .toOne =>
        match m.findEntityType? p.target with
        | none => return none
        | some target =>
          firstOf (fun s => do
            let (name, own) ← m.entityHead s
            pathAnswer subs (next :: rest) name "" s own) (target :: subs target)
      | _ => return none

/-- What a path on exactly the entity of a type leads to. -/
def entityAnswer (subs : TypeId → List TypeId) (path : Path) (ty : TypeId) :
    Except MissingId (Option PropertyType) := do
  let (name, access) ← m.entityHead ty
  m.pathAnswer subs path name "" ty access

/-- What a path on the entity of a type leads to, or else on one of its subtypes. -/
def propertyAnswer (subs : TypeId → List TypeId) (path : Path) (ty : TypeId) :
    Except MissingId (Option PropertyType) :=
  firstOf (m.entityAnswer subs path) (ty :: subs ty)

/-- What a path on a named entity leads to. -/
def namedAnswer (subs : TypeId → List TypeId) (entity : String) (path : Path) :
    Except MissingId (Option PropertyType) :=
  match m.findEntityType? entity with
  | none => .ok none
  | some ty => m.propertyAnswer subs path ty

/-- The collection with a role. -/
def collectionAnswer (subs : TypeId → List TypeId) (role : String) :
    Except MissingId (Option Collection) :=
  match Path.ofString role with
  | entity :: next :: rest =>
    (m.namedAnswer subs entity (next :: rest)).map (·.bind (·.collection?))
  | _ => .ok none

/-- What a path within the elements of the collection with a role leads to. -/
def elementAnswer (subs : TypeId → List TypeId) (role : String) (path : Path) :
    Except MissingId (Option PropertyType) := do
  match ← m.collectionAnswer subs role with
  | none => return none
  | some c =>
    match c.element with
    | .entity name => m.namedAnswer subs name path
    | .component k =>
      m.pathAnswer subs path c.owner (Path.toString (Path.ofString role).tail) k.typeId k.access
    | .basic _ => return none

/-! ## Answers belong to the model -/

variable {m}

theorem componentOf_typeId {ty : TypeId} {access : Access} {c : Component}
    (h : m.componentOf ty access = .ok c) : c.typeId = ty := by
  obtain ⟨t, -, h⟩ := Except.exists_of_bind_eq_ok h
  obtain ⟨properties, -, h⟩ := Except.exists_of_bind_eq_ok h
  cases h
  rfl

theorem componentIn_eq {ty : TypeId} {t : TypeInfo} (ht : m.info ty = .ok t) (inherited : Access) :
    m.componentIn ty inherited = m.componentOf ty (t.accessFor inherited) := by
  unfold componentIn
  rw [ht]
  rfl

theorem componentIn_typeId {ty : TypeId} {inherited : Access} {c : Component}
    (h : m.componentIn ty inherited = .ok c) : c.typeId = ty := by
  obtain ⟨t, -, h⟩ := Except.exists_of_bind_eq_ok h
  exact componentOf_typeId h

/-- A collection that a property leads to stands where the property was met, and the type of its
elements is one that the model found. -/
theorem typeOf_collection {owner path : String} {p : Property} {access : Access} {t : PropertyType}
    {c : Collection} (h : m.typeOf owner path p access = .ok (some t))
    (hc : t.collection? = some c) :
    c.owner = owner ∧ c.role = owner ++ "." ++ path ∧
      ∀ k, c.element = .component k → m.resolve? p.target = some k.typeId := by
  unfold typeOf at h
  split at h
  · cases h; cases hc
  · cases h; cases hc
  · cases h; cases hc
    exact ⟨rfl, rfl, fun k hk => by cases hk⟩
  · split at h
    · cases h
    · obtain ⟨c', -, hc'⟩ := Except.exists_of_map_eq_ok h
      cases hc'
      cases hc
  · split at h
    · rename_i ty hr
      obtain ⟨c', hi, hc'⟩ := Except.exists_of_map_eq_ok h
      cases hc'; cases hc
      refine ⟨rfl, rfl, fun k hk => ?_⟩
      cases hk
      rw [componentIn_typeId hi]
      exact (Option.filter_eq_some_iff.mp hr).1
    · cases h; cases hc
      exact ⟨rfl, rfl, fun k hk => by cases hk⟩

theorem typeOf_inModel (hm : m.Accepted) {owner path : String} {p : Property} {access : Access}
    {t : PropertyType} (h : m.typeOf owner path p access = .ok (some t)) : t.InModel m :=
  fun _ hc k hk => hm.resolve_mem _ _ ((typeOf_collection h hc).2.2 k hk)

/-- Only an embedded property leads nowhere, and that where its type is not declared. -/
theorem typeOf_eq_none_iff {owner path : String} {p : Property} {access : Access} :
    m.typeOf owner path p access = .ok none ↔
      p.kind = .embedded ∧ m.resolve? p.target = none := by
  unfold typeOf
  constructor
  · intro h
    split at h
    · cases h
    · cases h
    · cases h
    · rename_i hkind
      split at h
      · rename_i hr
        exact ⟨hkind, hr⟩
      · obtain ⟨c, -, hc⟩ := Except.exists_of_map_eq_ok h
        cases hc
    · split at h
      · obtain ⟨c, -, hc⟩ := Except.exists_of_map_eq_ok h
        cases hc
      · cases h
  · rintro ⟨hkind, hr⟩
    rw [hkind]
    dsimp only
    rw [hr]

theorem Accepted.componentOf_ok (hm : m.Accepted) {ty : TypeId} (hty : ty ∈ m.ids)
    (access : Access) : ∃ c, m.componentOf ty access = .ok c := by
  obtain ⟨t, -, ht⟩ := hm.info_ok hty
  obtain ⟨ps, hp⟩ := hm.describeProperties_ok hty access
  rw [componentOf, ht, Except.ok_bind, hp, Except.ok_bind]
  exact ⟨_, rfl⟩

theorem Accepted.componentIn_ok (hm : m.Accepted) {ty : TypeId} (hty : ty ∈ m.ids)
    (inherited : Access) : ∃ c, m.componentIn ty inherited = .ok c := by
  obtain ⟨t, -, ht⟩ := hm.info_ok hty
  rw [componentIn_eq ht]
  exact hm.componentOf_ok hty _

theorem Accepted.typeOf_ok (hm : m.Accepted) (owner path : String) (p : Property)
    (access : Access) : ∃ a, m.typeOf owner path p access = .ok a := by
  unfold typeOf
  split
  · exact ⟨_, rfl⟩
  · exact ⟨_, rfl⟩
  · exact ⟨_, rfl⟩
  · split
    · exact ⟨_, rfl⟩
    · rename_i ty hr
      obtain ⟨c, hc⟩ := hm.componentIn_ok (hm.resolve_mem _ _ hr) access
      exact ⟨_, by rw [hc]; rfl⟩
  · split
    · rename_i ty hr
      have hty := hm.resolve_mem _ _ (Option.filter_eq_some_iff.mp hr).1
      obtain ⟨c, hc⟩ := hm.componentIn_ok hty access
      exact ⟨_, by rw [hc]; rfl⟩
    · exact ⟨_, rfl⟩

/-! ## Walks -/

theorem Accepted.walk_ok (hm : m.Accepted) (path : Path) (above : String) (access : Access)
    {ty : TypeId} (hty : ty ∈ m.ids) : ∃ stop, m.walk path above ty access = .ok stop := by
  induction path generalizing above ty access with
  | nil => exact ⟨_, rfl⟩
  | cons head path ih =>
    obtain ⟨p?, hp⟩ := hm.findProperty_ok hty head access
    cases path with
    | nil => cases p? <;> exact ⟨_, by rw [walk, hp]; rfl⟩
    | cons next rest =>
      rw [walk, hp]
      cases p? with
      | none => exact ⟨_, rfl⟩
      | some p =>
        simp only [bind, Except.bind]
        split
        · split
          · exact ⟨_, rfl⟩
          · rename_i target hr
            obtain ⟨t, -, ht⟩ := hm.info_ok (hm.resolve_mem _ _ hr)
            rw [ht]
            exact ih _ _ (hm.resolve_mem _ _ hr)
        · exact ⟨_, rfl⟩
        · exact ⟨_, rfl⟩

/-- What the first segment of a path has to do with the end of its walk. -/
inductive WalkStep (m : TypeModel) (head : String) (rest : Path) (above : String) (ty : TypeId)
    (access : Access) (stop : PathEnd) : Prop
  | nowhere (h : stop = .nowhere)
  | property {p : Property} (hp : m.findProperty ty head access = .ok (some p)) (hrest : rest = [])
    (h : stop = .found p (extendPath above head) access)
  | association {p : Property} (hp : m.findProperty ty head access = .ok (some p))
    (hrest : rest ≠ []) (h : stop = .onward p.target rest)
  | component {p : Property} {target : TypeId} {inner : Access}
    (hp : m.findProperty ty head access = .ok (some p)) (hrest : rest ≠ [])
    (h : m.walk rest (extendPath above head) target inner = .ok stop)

theorem walk_cons {head : String} {rest : Path} {above : String} {ty : TypeId} {access : Access}
    {stop : PathEnd} (h : m.walk (head :: rest) above ty access = .ok stop) :
    m.WalkStep head rest above ty access stop := by
  cases hp : m.findProperty ty head access with
  | error e => cases rest <;> rw [walk, hp] at h <;> cases h
  | ok p? =>
    cases p? with
    | none => cases rest <;> rw [walk, hp] at h <;> cases h <;> exact .nowhere rfl
    | some p =>
      cases rest with
      | nil =>
        rw [walk, hp] at h
        cases h
        exact .property hp rfl rfl
      | cons next rest =>
        rw [walk, hp] at h
        simp only [bind, Except.bind] at h
        split at h
        · split at h
          · cases h
            exact .nowhere rfl
          · rename_i target _
            cases ht : m.info target with
            | error e => rw [ht] at h; cases h
            | ok t =>
              rw [ht] at h
              exact .component hp (by simp) h
        · cases h
          exact .association hp (by simp) rfl
        · cases h
          exact .nowhere rfl

theorem walk_onward {path rest : Path} {above target : String} {ty : TypeId} {access : Access}
    (h : m.walk path above ty access = .ok (.onward target rest)) :
    rest ≠ [] ∧ rest <:+ path ∧ rest.length < path.length := by
  induction path generalizing above ty access with
  | nil => cases h
  | cons head path ih =>
    cases walk_cons h with
    | nowhere h => cases h
    | property _ _ h => cases h
    | association _ hne h =>
      cases h
      exact ⟨hne, List.suffix_cons head rest, by simp⟩
    | component _ _ h =>
      obtain ⟨hne, hsuffix, hlt⟩ := ih h
      exact ⟨hne, hsuffix.trans (List.suffix_cons head path), by simp only [List.length_cons]; omega⟩

/-- A walk that ends at a property has gone through every segment of the path. -/
theorem walk_found {path : Path} {above full : String} {ty : TypeId} {access own : Access}
    {p : Property} (h : m.walk path above ty access = .ok (.found p full own)) :
    path ≠ [] ∧ full = path.foldl extendPath above ∧
      ∀ head ∈ path, ∃ ty access p, m.findProperty ty head access = .ok (some p) := by
  induction path generalizing above ty access with
  | nil => cases h
  | cons head path ih =>
    cases walk_cons h with
    | nowhere h => cases h
    | association _ _ h => cases h
    | property hp hrest h =>
      cases h
      subst hrest
      exact ⟨by simp, rfl, by simpa using ⟨_, _, _, hp⟩⟩
    | component hp hrest h =>
      obtain ⟨-, hfull, hall⟩ := ih h
      exact ⟨by simp, hfull, List.forall_mem_cons.mpr ⟨⟨_, _, _, hp⟩, hall⟩⟩

/-- The answer at the end of a walk. -/
def endAnswer (m : TypeModel) (subs : TypeId → List TypeId) (owner : String) :
    PathEnd → Except MissingId (Option PropertyType)
  | .nowhere => .ok none
  | .found p path access => m.typeOf owner path p access
  | .onward target rest => m.namedAnswer subs target rest

theorem pathAnswer_eq_walk (subs : TypeId → List TypeId) (path : Path) (owner above : String)
    (ty : TypeId) (access : Access) : m.pathAnswer subs path owner above ty access =
      m.walk path above ty access >>= m.endAnswer subs owner := by
  induction path generalizing above ty access with
  | nil => rfl
  | cons head path ih =>
    cases hp : m.findProperty ty head access with
    | error e => cases path <;> rw [walk, pathAnswer, hp] <;> rfl
    | ok p? =>
      cases path with
      | nil => cases p? <;> rw [walk, pathAnswer, hp] <;> rfl
      | cons next rest =>
        rw [walk, pathAnswer, hp]
        cases p? with
        | none => rfl
        | some p =>
          simp only [bind, Except.bind]
          split
          · split
            · rfl
            · rename_i target hr
              cases ht : m.info target with
              | error e => rfl
              | ok t => exact ih _ _ _
          · simp only [pure, Except.pure, endAnswer, namedAnswer, propertyAnswer]
            rfl
          · rfl

end TypeModel

end EntityQuery
