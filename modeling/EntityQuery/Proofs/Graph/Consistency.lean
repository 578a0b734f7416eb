import Mathlib
import EntityQuery.Proofs.Graph.Outcome
import EntityQuery.Proofs.Model.Answers
/-!
# Consistent graphs

`Graph.Consistent m g` relates a graph to the model it was grown from: entities are numbered in
order and described by their types, each type has one entity, links run from every entity to exactly
its strict subtypes, and the tables of names, types, collections and components hold what the model
says. The links and numbers are functions of `g.builtTypes` alone.

Results:
* `empty_consistent` and one lemma for each way in which a graph changes: a new entity
  (`Consistent.build`), a new name (`Consistent.setName`) and a new answer
  (`Consistent.setPathType`, `Consistent.setCollection`, `Consistent.setComponent`).
* `Lasting.entityForType_gives`, `Lasting.resolveEntity_gives`, `Lasting.resolveAll_gives`: asking
  for entities succeeds and keeps an invariant that outlasts new entities and names.
-/
namespace EntityQuery

/-- The places in `tys` of the strict subtypes of `ty`. -/
def TypeModel.subtypesAmong (m : TypeModel) (tys : List TypeId) (ty : TypeId) : List EntityId :=
  (tys.zipIdx.filter fun p => p.1 != ty && m.isSubtype p.1 ty).map (·.2)

/-- The strict subtypes of `ty` among `tys`. -/
def TypeModel.strictSubtypes (m : TypeModel) (tys : List TypeId) (ty : TypeId) : List TypeId :=
  tys.filter fun s => s != ty && m.isSubtype s ty

/-- The subtypes that are asked after an entity when the types in `tys` are built. -/
def TypeModel.subtypesAsked (m : TypeModel) (fallback : Bool) (tys : List TypeId) (ty : TypeId) :
    List TypeId :=
  if fallback then m.strictSubtypes tys ty else []

/-- The entity without its links and answers. -/
def Entity.bare (e : Entity) : Entity := { e with subtypes := [], pathTypes := [] }

namespace Graph

/-- What holds of every graph that grew from the model. -/
structure Consistent (m : TypeModel) (g : Graph) : Prop where
  id_eq : ∀ {id : EntityId} {e : Entity}, g.entities[id]? = some e → e.id = id
  described : ∀ e ∈ g.entities, describeEntity m e.typeId e.id = .ok e.bare
  entityType : ∀ ty ∈ g.builtTypes, m.IsEntityType ty
  distinct : g.builtTypes.Nodup
  byType : ∀ {ty : TypeId} {id : EntityId},
    g.byType.lookup ty = some id ↔ g.builtTypes[id]? = some ty
  links : ∀ e ∈ g.entities, e.subtypes = m.subtypesAmong g.builtTypes e.typeId
  /-- A name was asked for and stands for this entity's type, or is the entity's own. -/
  found : ∀ {name : String} {id : EntityId}, g.byName.lookup name = some (some id) →
    ∃ e, g.entities[id]? = some e ∧ (e.name = name ∨ m.findEntityType? name = some e.typeId)
  missing : ∀ {name : String}, g.byName.lookup name = some none → m.findEntityType? name = none
  named : ∀ e ∈ g.entities, ∃ id, g.byName.lookup e.name = some (some id)
  components : ∀ {ty : TypeId} {access : Access} {c : Component},
    g.components.lookup (ty, access) = some c → m.componentOf ty access = .ok c
  answers : ∀ e ∈ g.entities, ∀ {path : Path} {t : PropertyType},
    e.pathTypes.lookup path = some (some t) → t.InModel m
  collections : ∀ {role : String} {c : Collection}, g.collections.lookup role = some c → c.InModel m

theorem empty_consistent (m : TypeModel) : Graph.empty.Consistent m := by
  constructor <;> simp [Graph.empty, builtTypes]

/-- A type has one number. -/
theorem Consistent.eq_of_builtTypes {m : TypeModel} {g : Graph} (hg : g.Consistent m)
    {i j : EntityId} {ty : TypeId} (hi : g.builtTypes[i]? = some ty)
    (hj : g.builtTypes[j]? = some ty) : i = j :=
  (List.getElem?_inj (List.getElem?_eq_some_iff.mp hi).1 hg.distinct).mp (hi.trans hj.symm)

theorem Consistent.eq_of_is {m : TypeModel} {g : Graph} (hg : g.Consistent m)
    {i j : Option EntityId} {ty? : Option TypeId} (hi : g.Is i ty?) (hj : g.Is j ty?) : i = j := by
  cases hi with
  | none => cases hj; rfl
  | some hi =>
    cases hj with
    | some hj => rw [hg.eq_of_builtTypes hi hj]

theorem Consistent.eq_of_are {m : TypeModel} {g : Graph} (hg : g.Consistent m)
    {is js : List EntityId} {tys : List TypeId} (hi : g.Are is tys) (hj : g.Are js tys) :
    is = js := by
  induction hi generalizing js with
  | nil => exact (List.forall₂_nil_right_iff.mp hj).symm
  | cons h _ ih =>
    cases hj with
    | cons h' hrest => rw [hg.eq_of_builtTypes h h', ih hrest]

/-! ## Descriptions -/

theorem describeEntity_fields {m : TypeModel} {ty : TypeId} {id : EntityId} {e : Entity}
    (h : describeEntity m ty id = .ok e) :
    e.id = id ∧ e.typeId = ty ∧ e.subtypes = [] ∧ e.pathTypes = [] ∧
      ∃ t, m.info? ty = some t ∧ e.name = t.entityName := by
  obtain ⟨t, ht, h⟩ := Except.exists_of_bind_eq_ok h
  obtain ⟨chain, -, h⟩ := Except.exists_of_bind_eq_ok h
  cases h
  exact ⟨rfl, rfl, rfl, rfl, t, TypeModel.info_eq_ok_iff.mp ht, rfl⟩

/-- The entity of an entity type has the entity name of that type. -/
theorem describeEntity_name {m : TypeModel} {ty : TypeId} {id : EntityId} {e : Entity}
    (h : describeEntity m ty id = .ok e) (hty : m.IsEntityType ty) :
    ∃ t, (ty, t) ∈ m.entityTypes ∧ e.name = t.entityName := by
  obtain ⟨-, -, -, -, t, ht, hname⟩ := describeEntity_fields h
  obtain ⟨t', ht'⟩ := TypeModel.isEntityType_iff.mp hty
  obtain rfl : t = t' := Option.some.inj (ht.symm.trans (TypeModel.mem_entityTypes.mp ht').2.1)
  exact ⟨t, ht', hname⟩

theorem Consistent.exists_entityType {m : TypeModel} {g : Graph} (hg : g.Consistent m) {e : Entity}
    (he : e ∈ g.entities) : ∃ t, (e.typeId, t) ∈ m.entityTypes ∧ e.name = t.entityName := by
  obtain ⟨t, ht, hname⟩ :=
    describeEntity_name (hg.described e he) (hg.entityType _ (List.mem_map_of_mem he))
  exact ⟨t, ht, hname⟩

theorem Consistent.mem_ids {m : TypeModel} {g : Graph} (hg : g.Consistent m) {e : Entity}
    (he : e ∈ g.entities) : e.typeId ∈ m.ids :=
  (hg.entityType _ (List.mem_map_of_mem he)).mem_ids

theorem describeEntity_head {m : TypeModel} {ty : TypeId} {id : EntityId} {e : Entity}
    (h : describeEntity m ty id = .ok e) : m.entityHead ty = .ok (e.name, e.access) := by
  obtain ⟨t, ht, h⟩ := Except.exists_of_bind_eq_ok h
  obtain ⟨chain, hchain, h⟩ := Except.exists_of_bind_eq_ok h
  cases h
  rw [TypeModel.entityHead, ht, Except.ok_bind, hchain, Except.ok_bind]
  rfl

theorem describeEntity_ok {m : TypeModel} (hm : m.Accepted) {ty : TypeId} (hty : ty ∈ m.ids)
    (id : EntityId) : ∃ e, describeEntity m ty id = .ok e := by
  obtain ⟨t, -, ht⟩ := hm.info_ok hty
  obtain ⟨chain, hchain⟩ := hm.lineage_ok hty
  rw [describeEntity, ht, Except.ok_bind, hchain, Except.ok_bind]
  exact ⟨_, rfl⟩

theorem bare_eq {e : Entity} (hs : e.subtypes = []) (hp : e.pathTypes = []) :
    e.bare = e := by
  cases e
  simp_all [Entity.bare]

/-! ## Numbers and links -/

/-- Where entities are numbered in order, their types and numbers are those of `builtTypes`. -/
theorem types_ids_eq {entities : List Entity}
    (h : ∀ {id : EntityId} {e : Entity}, entities[id]? = some e → e.id = id) :
    entities.map (fun e => (e.typeId, e.id)) = (entities.map (·.typeId)).zipIdx := by
  apply List.ext_getElem?
  intro i
  simp only [List.getElem?_map, List.getElem?_zipIdx, Nat.zero_add]
  cases he : entities[i]? with
  | none => rfl
  | some e => simp [h he]

theorem ids_filter_eq {entities : List Entity}
    (h : ∀ {id : EntityId} {e : Entity}, entities[id]? = some e → e.id = id) (p : TypeId → Bool) :
    (entities.filter fun e => p e.typeId).map (·.id) =
      ((entities.map (·.typeId)).zipIdx.filter fun q => p q.1).map (·.2) := by
  rw [← types_ids_eq h, List.filter_map, List.map_map]
  rfl

end Graph

theorem TypeModel.subtypesAmong_append (m : TypeModel) (tys : List TypeId) (new ty : TypeId) :
    m.subtypesAmong (tys ++ [new]) ty =
      m.subtypesAmong tys ty ++
        if new != ty && m.isSubtype new ty then [tys.length] else [] := by
  unfold TypeModel.subtypesAmong
  rw [List.zipIdx_append, List.filter_append, List.map_append]
  congr 1
  simp only [List.zipIdx_singleton, List.filter_cons, List.filter_nil]
  split <;> simp

theorem Graph.are_subtypesAmong (g : Graph) (m : TypeModel) (ty : TypeId) :
    g.Are (m.subtypesAmong g.builtTypes ty) (m.strictSubtypes g.builtTypes ty) := by
  have htys : m.strictSubtypes g.builtTypes ty =
      (g.builtTypes.zipIdx.filter fun p => p.1 != ty && m.isSubtype p.1 ty).map (·.1) := by
    conv_lhs => rw [← List.zipIdx_map_fst 0 g.builtTypes]
    rw [TypeModel.strictSubtypes, List.filter_map]
    rfl
  rw [htys, TypeModel.subtypesAmong, Are, List.forall₂_map_left_iff, List.forall₂_map_right_iff,
    List.forall₂_same]
  intro p hp
  simpa using List.mk_mem_zipIdx_iff_getElem?.mp (List.mem_of_mem_filter hp)

/-! ## New entities -/

theorem getElem?_concat_eq_some {α : Type} {l : List α} {a b : α} {i : Nat} :
    (l ++ [a])[i]? = some b ↔ l[i]? = some b ∨ (i = l.length ∧ a = b) := by
  rw [List.getElem?_append]
  split
  · rename_i h
    exact ⟨.inl, fun h' => h'.elim id fun h'' => absurd h''.1 (by omega)⟩
  · rename_i h
    rw [List.getElem?_singleton, List.getElem?_eq_none (by omega)]
    split
    · rename_i h0
      simp [show i = l.length by omega]
    · rename_i h0
      simp [show i ≠ l.length by omega]

namespace Graph

/-- A table with an entry put in front gives that entry, or what it gave before. -/
theorem lookup_front {α β : Type} [BEq α] [LawfulBEq α] {key k : α} {value v : β}
    {table : List (α × β)} (h : ((key, value) :: table).lookup k = some v) :
    (key = k ∧ value = v) ∨ table.lookup k = some v := by
  rw [List.lookup_cons] at h
  split at h
  · rename_i hkey
    exact .inl ⟨(beq_iff_eq.mp hkey).symm, Option.some.inj h⟩
  · exact .inr h

/-- The graph with a new entity, its links and its name. -/
def build (m : TypeModel) (g : Graph) (e : Entity) : Graph :=
  (g.addEntity m e).setNewName e.name e.id

@[simp] theorem setNewName_entities (g : Graph) (name : String) (id : EntityId) :
    (g.setNewName name id).entities = g.entities := by
  unfold setNewName
  split <;> rfl

theorem lookup_setName (g : Graph) (name n : String) (id : Option EntityId) :
    (g.setName name id).byName.lookup n = if n = name then some id else g.byName.lookup n := by
  by_cases h : n = name
  · simp [setName, h]
  · simp [setName, List.lookup_cons, beq_false_of_ne h, h]

/-- The name of a new entity is entered where no answer for it is known. -/
theorem lookup_setNewName (g : Graph) (name n : String) (id : EntityId) :
    (g.setNewName name id).byName.lookup n =
      (g.byName.lookup n).or (if n = name then some (some id) else none) := by
  unfold setNewName
  split
  · rename_i h
    obtain ⟨a, ha⟩ := Option.isSome_iff_exists.mp h
    by_cases hn : n = name
    · simp [hn, ha]
    · simp [hn]
  · rename_i h
    rw [lookup_setName]
    by_cases hn : n = name
    · subst hn
      simp [Option.not_isSome_iff_eq_none.mp h]
    · simp [hn]

theorem lookup_build (m : TypeModel) (g : Graph) (e : Entity) (n : String) :
    (g.build m e).byName.lookup n =
      (g.byName.lookup n).or (if n = e.name then some (some e.id) else none) :=
  lookup_setNewName _ _ _ _

theorem build_tables (m : TypeModel) (g : Graph) (e : Entity) :
    (g.build m e).byType = (e.typeId, e.id) :: g.byType ∧
      (g.build m e).collections = g.collections ∧ (g.build m e).components = g.components := by
  unfold build setNewName
  split <;> exact ⟨rfl, rfl, rfl⟩

/-- A new link changes nothing else of an entity. -/
theorem linkTo_frame (m : TypeModel) (ty : TypeId) (id : EntityId) (e : Entity) :
    (linkTo m ty id e).typeId = e.typeId ∧ (linkTo m ty id e).id = e.id ∧
      (linkTo m ty id e).name = e.name ∧ (linkTo m ty id e).pathTypes = e.pathTypes ∧
      (linkTo m ty id e).bare = e.bare := by
  unfold linkTo
  split <;> simp [Entity.bare]

/-- The new entity as it enters the graph. -/
def linked (m : TypeModel) (g : Graph) (e : Entity) : Entity :=
  { e with subtypes := knownSubtypes m e.typeId g.entities }

theorem build_entities (m : TypeModel) (g : Graph) (e : Entity) :
    (g.build m e).entities = g.entities.map (linkTo m e.typeId e.id) ++ [g.linked m e] := by
  simp [build, addEntity, linked]

/-- An entity of the new graph is an old one, perhaps with one more link, or the new one. -/
theorem getElem?_build {m : TypeModel} {g : Graph} {e f : Entity} {id : EntityId}
    (h : (g.build m e).entities[id]? = some f) :
    (∃ old, g.entities[id]? = some old ∧ f = linkTo m e.typeId e.id old) ∨
      (id = g.entities.length ∧ f = g.linked m e) := by
  rw [build_entities, getElem?_concat_eq_some, List.getElem?_map, Option.map_eq_some_iff,
    List.length_map] at h
  rcases h with ⟨old, hold, rfl⟩ | ⟨hid, rfl⟩
  · exact .inl ⟨old, hold, rfl⟩
  · exact .inr ⟨hid, rfl⟩

theorem mem_build {m : TypeModel} {g : Graph} {e f : Entity} (h : f ∈ (g.build m e).entities) :
    (∃ old ∈ g.entities, f = linkTo m e.typeId e.id old) ∨ f = g.linked m e := by
  obtain ⟨id, hid⟩ := List.getElem?_of_mem h
  rcases getElem?_build hid with ⟨old, hold, rfl⟩ | ⟨-, rfl⟩
  · exact .inl ⟨old, List.mem_of_getElem? hold, rfl⟩
  · exact .inr rfl

/-- What does not depend on links is as it was, and as described for the new entity. -/
theorem map_build {α : Type} (m : TypeModel) (g : Graph) (e : Entity) (f : Entity → α)
    (hf : ∀ d ids, f { d with subtypes := ids } = f d) :
    (g.build m e).entities.map f = g.entities.map f ++ [f e] := by
  have hlink : f ∘ linkTo m e.typeId e.id = f := by
    funext d
    rw [Function.comp_apply, linkTo]
    split
    · exact hf d _
    · rfl
  rw [build_entities, List.map_append, List.map_map, hlink, List.map_singleton, linked, hf]

@[simp] theorem builtTypes_build (m : TypeModel) (g : Graph) (e : Entity) :
    (g.build m e).builtTypes = g.builtTypes ++ [e.typeId] :=
  map_build m g e (·.typeId) fun _ _ => rfl

theorem extends_build (m : TypeModel) (g : Graph) (e : Entity) : g.Extends (g.build m e) := by
  unfold Extends
  rw [builtTypes_build]
  exact List.prefix_append _ _

section
variable {m : TypeModel} {g : Graph} {e : Entity} (hg : g.Consistent m)
include hg

/-- Of an old and a new type at most one is a subtype of the other, so the links of the new entity
are those to its strict subtypes. -/
theorem knownSubtypes_eq (hm : m.Accepted) (hnew : e.typeId ∉ g.builtTypes) :
    knownSubtypes m e.typeId g.entities =
      m.subtypesAmong (g.builtTypes ++ [e.typeId]) e.typeId := by
  have hp : ∀ f ∈ g.entities, (!m.isSubtype e.typeId f.typeId && m.isSubtype f.typeId e.typeId) =
      (f.typeId != e.typeId && m.isSubtype f.typeId e.typeId) := by
    intro f hf
    have hft : f.typeId ∈ g.builtTypes := List.mem_map_of_mem hf
    have hne : f.typeId ≠ e.typeId := fun h => hnew (h ▸ hft)
    cases h1 : m.isSubtype f.typeId e.typeId with
    | false => simp
    | true =>
      cases h2 : m.isSubtype e.typeId f.typeId with
      | false => simp [hne]
      | true =>
        exact absurd (hm.grounded.isSubtype_antisymm h1 h2) hne
  rw [knownSubtypes, List.filter_congr hp, m.subtypesAmong_append,
    ids_filter_eq hg.id_eq fun t => t != e.typeId && m.isSubtype t e.typeId]
  simp [TypeModel.subtypesAmong, builtTypes]

/-- An old entity gets a link to the new one just if that is a strict subtype. -/
theorem linkTo_subtypes (hnew : e.typeId ∉ g.builtTypes) (hid : e.id = g.entities.length)
    {f : Entity} (hf : f ∈ g.entities) : (linkTo m e.typeId e.id f).subtypes =
      m.subtypesAmong (g.builtTypes ++ [e.typeId]) f.typeId := by
  have hne : e.typeId ≠ f.typeId := fun h => hnew (h ▸ List.mem_map_of_mem hf)
  rw [m.subtypesAmong_append, ← hg.links f hf, length_builtTypes, ← hid]
  unfold linkTo
  split <;> rename_i h <;> simp [h, hne]

/-- An entity type's own name never stands for nothing, so the new entity has a name that leads
somewhere. -/
theorem exists_lookup_build {t : TypeInfo} (ht : (e.typeId, t) ∈ m.entityTypes)
    (hname : e.name = t.entityName) :
    ∃ id, (g.build m e).byName.lookup e.name = some (some id) := by
  rw [lookup_build]
  cases hl : g.byName.lookup e.name with
  | none => exact ⟨e.id, by simp⟩
  | some a =>
    cases a with
    | some id => exact ⟨id, rfl⟩
    | none =>
      obtain ⟨ty, h⟩ := TypeModel.exists_findEntityType? ht
      rw [← hname, hg.missing hl] at h
      cases h

theorem lookup_byType_build (hnew : e.typeId ∉ g.builtTypes) (hid : e.id = g.entities.length)
    {ty : TypeId} {id : EntityId} : (g.build m e).byType.lookup ty = some id ↔
      (g.build m e).builtTypes[id]? = some ty := by
  rw [(build_tables m g e).1, builtTypes_build, getElem?_concat_eq_some, length_builtTypes, ← hid,
    List.lookup_cons]
  by_cases h : ty = e.typeId
  · subst h
    have hno : g.builtTypes[id]? ≠ some e.typeId := fun h => hnew (List.mem_of_getElem? h)
    simp [hno, eq_comm]
  · simp [beq_false_of_ne h, hg.byType, Ne.symm h]

theorem found_build (hid : e.id = g.entities.length) {name : String} {id : EntityId}
    (h : (g.build m e).byName.lookup name = some (some id)) :
    ∃ f, (g.build m e).entities[id]? = some f ∧
      (f.name = name ∨ m.findEntityType? name = some f.typeId) := by
  rw [lookup_build, Option.or_eq_some_iff] at h
  simp only [build_entities, getElem?_concat_eq_some, List.getElem?_map, List.length_map]
  rcases h with h | ⟨-, h⟩
  · obtain ⟨f, hf, hfn⟩ := hg.found h
    obtain ⟨h1, -, h3, -, -⟩ := linkTo_frame m e.typeId e.id f
    exact ⟨linkTo m e.typeId e.id f, .inl (by rw [hf]; rfl), by rwa [h1, h3]⟩
  · split at h
    · rename_i hn
      simp only [Option.some.injEq] at h
      exact ⟨g.linked m e, .inr ⟨h ▸ hid, rfl⟩, .inl hn.symm⟩
    · cases h

theorem Consistent.build (hm : m.Accepted) (hty : m.IsEntityType e.typeId)
    (hnew : e.typeId ∉ g.builtTypes)
    (hd : describeEntity m e.typeId g.entities.length = .ok e) : (g.build m e).Consistent m := by
  obtain ⟨hid, -, hs, hp, -⟩ := describeEntity_fields hd
  obtain ⟨t, ht, hname⟩ := describeEntity_name hd hty
  obtain ⟨-, hbc, hbk⟩ := build_tables m g e
  constructor
  case id_eq =>
    intro id f hf
    rcases getElem?_build hf with ⟨old, hold, rfl⟩ | ⟨rfl, rfl⟩
    · rw [(linkTo_frame m e.typeId e.id old).2.1]
      exact hg.id_eq hold
    · exact hid
  case described =>
    intro f hf
    rcases mem_build hf with ⟨old, hold, rfl⟩ | rfl
    · obtain ⟨h1, h2, -, -, h5⟩ := linkTo_frame m e.typeId e.id old
      rw [h1, h2, h5]
      exact hg.described old hold
    · change describeEntity m e.typeId e.id = .ok e.bare
      rw [bare_eq hs hp, hid]
      exact hd
  case entityType =>
    intro ty h
    rw [builtTypes_build, List.mem_append, List.mem_singleton] at h
    rcases h with h | rfl
    · exact hg.entityType ty h
    · exact hty
  case distinct =>
    rw [builtTypes_build]
    exact List.nodup_append.mpr ⟨hg.distinct, by simp, fun a ha b hb h =>
      hnew (List.mem_singleton.mp hb ▸ h ▸ ha)⟩
  case byType => exact lookup_byType_build hg hnew hid
  case links =>
    intro f hf
    rw [builtTypes_build]
    rcases mem_build hf with ⟨old, hold, rfl⟩ | rfl
    · rw [(linkTo_frame m e.typeId e.id old).1]
      exact linkTo_subtypes hg hnew hid hold
    · exact knownSubtypes_eq hg hm hnew
  case found => exact found_build hg hid
  case missing =>
    intro name h
    rw [lookup_build, Option.or_eq_some_iff] at h
    rcases h with h | ⟨-, h⟩
    · exact hg.missing h
    · split at h <;> cases h
  case named =>
    intro f hf
    rcases mem_build hf with ⟨old, hold, rfl⟩ | rfl
    · obtain ⟨id, h⟩ := hg.named old hold
      exact ⟨id, by rw [(linkTo_frame m e.typeId e.id old).2.2.1, lookup_build, h]; rfl⟩
    · exact exists_lookup_build hg ht hname
  case components =>
    intro ty access c h
    exact hg.components (hbk ▸ h)
  case answers =>
    intro f hf path t h
    rcases mem_build hf with ⟨old, hold, rfl⟩ | rfl
    · rw [(linkTo_frame m e.typeId e.id old).2.2.2.1] at h
      exact hg.answers old hold h
    · simp [linked, hp] at h
  case collections =>
    intro role c h
    exact hg.collections (hbc ▸ h)

end

/-! ## New names and answers -/

section
variable {m : TypeModel} {g : Graph} (hg : g.Consistent m)
include hg

/-- A name may be answered with what it stands for. -/
theorem Consistent.setName {name : String} {answer : Option EntityId}
    (h : g.Is answer (m.findEntityType? name)) : (g.setName name answer).Consistent m := by
  refine { hg with found := ?found, missing := ?missing, named := ?named }
  case found =>
    intro n id hl
    rw [lookup_setName] at hl
    split at hl
    · rename_i hn
      obtain rfl : answer = some id := Option.some.inj hl
      obtain ⟨ty, hf, hid⟩ := is_some_iff.mp h
      obtain ⟨e, he, rfl⟩ := exists_of_builtTypes hid
      exact ⟨e, he, .inr (hn ▸ hf)⟩
    · exact hg.found hl
  case missing =>
    intro n hl
    rw [lookup_setName] at hl
    split at hl
    · rename_i hn
      obtain rfl : answer = none := Option.some.inj hl
      exact hn ▸ is_none_iff.mp h
    · exact hg.missing hl
  case named =>
    intro e he
    rw [lookup_setName]
    split
    · rename_i hn
      obtain ⟨t, ht, hname⟩ := hg.exists_entityType he
      obtain ⟨ty, hf⟩ := TypeModel.exists_findEntityType? ht
      cases answer with
      | some id => exact ⟨id, rfl⟩
      | none =>
        rw [← hn, hname, hf] at h
        cases h
    · exact hg.named e he

theorem Consistent.setComponent {ty : TypeId} {access : Access} {c : Component}
    (hc : m.componentOf ty access = .ok c) : (g.setComponent ty access c).Consistent m := by
  refine { hg with components := ?components }
  intro ty' access' c' hl
  rcases lookup_front hl with ⟨hkey, rfl⟩ | hl
  · cases hkey
    exact hc
  · exact hg.components hl

theorem Consistent.setCollection {role : String} {c : Collection} (hc : c.InModel m) :
    (g.setCollection role c).Consistent m := by
  refine { hg with collections := ?collections }
  intro role' c' hl
  rcases lookup_front hl with ⟨-, rfl⟩ | hl
  · exact hc
  · exact hg.collections hl

end

/-- An entity after an answer was kept: the old one, with that answer if it is the one asked. -/
theorem getElem?_setPathType {g : Graph} {id i : EntityId} {path : Path}
    {answer : Option PropertyType} {e : Entity}
    (h : (g.setPathType id path answer).entities[i]? = some e) :
    ∃ old kept, g.entities[i]? = some old ∧ e = { old with pathTypes := kept } ∧
      (kept = old.pathTypes ∨ (i = id ∧ kept = (path, answer) :: old.pathTypes)) := by
  simp only [setPathType, List.getElem?_modify, Option.map_eq_map, Option.map_eq_some_iff] at h
  obtain ⟨old, hold, rfl⟩ := h
  split
  · rename_i hid
    exact ⟨old, _, hold, rfl, .inr ⟨hid.symm, rfl⟩⟩
  · exact ⟨old, _, hold, rfl, .inl rfl⟩

/-- What does not depend on kept answers is as it was. -/
theorem map_setPathType {α : Type} (g : Graph) (id : EntityId) (path : Path)
    (answer : Option PropertyType) (f : Entity → α)
    (hf : ∀ e kept, f { e with pathTypes := kept } = f e) :
    (g.setPathType id path answer).entities.map f = g.entities.map f := by
  apply List.ext_getElem?
  intro i
  simp only [setPathType, List.getElem?_map, List.getElem?_modify, Option.map_eq_map,
    Option.map_map]
  congr 1
  funext e
  rw [Function.comp_apply]
  split
  · exact hf e _
  · rfl

@[simp] theorem builtTypes_setPathType (g : Graph) (id : EntityId) (path : Path)
    (answer : Option PropertyType) : (g.setPathType id path answer).builtTypes = g.builtTypes :=
  map_setPathType g id path answer (·.typeId) fun _ _ => rfl

theorem extends_setPathType (g : Graph) (id : EntityId) (path : Path) (a : Option PropertyType) :
    g.Extends (g.setPathType id path a) := by
  simp [Extends]

theorem mem_setPathType {g : Graph} {id : EntityId} {path : Path} {answer : Option PropertyType}
    {e : Entity} (h : e ∈ (g.setPathType id path answer).entities) :
    ∃ old kept, old ∈ g.entities ∧ e = { old with pathTypes := kept } ∧
      (kept = old.pathTypes ∨ kept = (path, answer) :: old.pathTypes) := by
  obtain ⟨i, hi⟩ := List.getElem?_of_mem h
  obtain ⟨old, kept, hold, he, hk⟩ := getElem?_setPathType hi
  exact ⟨old, kept, List.mem_of_getElem? hold, he, hk.imp_right And.right⟩

/-- Every answer kept on an entity is one that `Q` lets its type have. -/
def AllKept (Q : TypeId → Path → Option PropertyType → Prop) (g : Graph) : Prop :=
  ∀ e ∈ g.entities, ∀ {path : Path} {a : Option PropertyType},
    e.pathTypes.lookup path = some a → Q e.typeId path a

theorem AllKept.build {Q : TypeId → Path → Option PropertyType → Prop} {g : Graph}
    (h : g.AllKept Q) {m : TypeModel} {e : Entity} (he : e.pathTypes = []) :
    (g.build m e).AllKept Q := by
  intro f hf path a hl
  rcases mem_build hf with ⟨old, hold, rfl⟩ | rfl
  · obtain ⟨h1, -, -, h4, -⟩ := linkTo_frame m e.typeId e.id old
    rw [h4] at hl
    exact h1 ▸ h old hold hl
  · simp [linked, he] at hl

theorem AllKept.setPathType {Q : TypeId → Path → Option PropertyType → Prop} {g : Graph}
    (h : g.AllKept Q) {id : EntityId} {ty : TypeId} {path : Path} {a : Option PropertyType}
    (hid : g.builtTypes[id]? = some ty) (ha : Q ty path a) :
    (g.setPathType id path a).AllKept Q := by
  intro e he p b hl
  obtain ⟨i, hi⟩ := List.getElem?_of_mem he
  obtain ⟨old, kept, hold, rfl, rfl | ⟨rfl, rfl⟩⟩ := getElem?_setPathType hi
  · exact (h old (List.mem_of_getElem? hold) hl :)
  · rcases lookup_front hl with ⟨rfl, rfl⟩ | hl
    · rw [builtTypes_getElem? hold] at hid
      exact Option.some.inj hid ▸ ha
    · exact (h old (List.mem_of_getElem? hold) hl :)

/-- An answer that belongs to the model may be kept. -/
theorem Consistent.setPathType {m : TypeModel} {g : Graph} (hg : g.Consistent m) {id : EntityId}
    {path : Path} {answer : Option PropertyType} (ha : ∀ t, answer = some t → t.InModel m) :
    (g.setPathType id path answer).Consistent m := by
  have hb := builtTypes_setPathType g id path answer
  refine { hg with id_eq := ?_, described := ?_, entityType := hb ▸ hg.entityType,
                   distinct := hb ▸ hg.distinct, byType := hb ▸ hg.byType, links := ?_,
                   found := ?_, named := ?_, answers := ?_ }
  · intro i e he
    obtain ⟨old, kept, hold, rfl, -⟩ := getElem?_setPathType he
    exact (hg.id_eq hold :)
  · intro e he
    obtain ⟨old, kept, hold, rfl, -⟩ := mem_setPathType he
    exact (hg.described old hold :)
  · intro e he
    obtain ⟨old, kept, hold, rfl, -⟩ := mem_setPathType he
    rw [hb]
    exact (hg.links old hold :)
  · intro name i hl
    obtain ⟨old, hold, h⟩ := hg.found hl
    have hlt : i < (g.setPathType id path answer).entities.length := by
      rw [← length_builtTypes, hb, length_builtTypes]
      exact (List.getElem?_eq_some_iff.mp hold).1
    have he := List.getElem?_eq_getElem hlt
    obtain ⟨old', kept, hold', h1, -⟩ := getElem?_setPathType he
    obtain rfl : old = old' := Option.some.inj (hold.symm.trans hold')
    exact ⟨_, he, by rw [h1]; exact h⟩
  · intro e he
    obtain ⟨old, kept, hold, rfl, -⟩ := mem_setPathType he
    exact (hg.named old hold :)
  · intro e he p t hl
    obtain ⟨old, kept, hold, rfl, rfl | rfl⟩ := mem_setPathType he
    · exact hg.answers old hold hl
    · rcases lookup_front hl with ⟨-, hanswer⟩ | hl
      · exact ha t hanswer
      · exact hg.answers old hold hl

end Graph

/-! ## Asking for entities -/

section
variable {m : TypeModel} {g : Graph}

theorem entityForType_known {ty : TypeId} {id : EntityId} (h : g.byType.lookup ty = some id) :
    entityForType m ty g = .ok (id, g) := by
  unfold entityForType
  rw [GraphM.get_bind, h]
  rfl

theorem entityForType_new {ty : TypeId} {e : Entity} (h : g.byType.lookup ty = none)
    (hd : Graph.describeEntity m ty g.entities.length = .ok e) :
    entityForType m ty g = .ok (e.id, g.build m e) := by
  unfold entityForType
  rw [GraphM.get_bind, h]
  change Except.bind (Except.bind (Graph.describeEntity m ty g.entities.length) _) _ = _
  rw [hd]
  rfl

theorem resolveEntity_known {name : String} {answer : Option EntityId}
    (h : g.byName.lookup name = some answer) : resolveEntity m name g = .ok (answer, g) := by
  unfold resolveEntity
  rw [GraphM.get_bind, h]
  rfl

theorem resolveEntity_missing {name : String} (h : g.byName.lookup name = none)
    (hf : m.findEntityType? name = none) :
    resolveEntity m name g = .ok (none, g.setName name none) := by
  unfold resolveEntity
  rw [GraphM.get_bind, h, hf]
  rfl

theorem resolveEntity_found {name : String} {ty : TypeId} {id : EntityId} {g' : Graph}
    (h : g.byName.lookup name = none) (hf : m.findEntityType? name = some ty)
    (he : entityForType m ty g = .ok (id, g')) :
    resolveEntity m name g = .ok (some id, g'.setName name (some id)) := by
  unfold resolveEntity
  rw [GraphM.get_bind, h, hf]
  change Except.bind (Except.map _ (entityForType m ty g)) _ = _
  rw [he]
  rfl

theorem entityForType_eq_ok {ty : TypeId} {id : EntityId} {g' : Graph}
    (h : entityForType m ty g = .ok (id, g')) :
    (g.byType.lookup ty = some id ∧ g' = g) ∨
      ∃ e, Graph.describeEntity m ty g.entities.length = .ok e ∧ id = e.id ∧
        g' = g.build m e := by
  cases hl : g.byType.lookup ty with
  | some known =>
    cases (entityForType_known hl).symm.trans h
    exact .inl ⟨rfl, rfl⟩
  | none =>
    cases hd : Graph.describeEntity m ty g.entities.length with
    | error err =>
      unfold entityForType at h
      rw [GraphM.get_bind, hl] at h
      change Except.bind (Except.bind (Graph.describeEntity m ty g.entities.length) _) _ = _ at h
      rw [hd] at h
      cases h
    | ok e =>
      cases (entityForType_new hl hd).symm.trans h
      exact .inr ⟨e, rfl, rfl, rfl⟩

/-- A name that is answered only since a type was asked for has that type's entity as answer. -/
theorem entityForType_enters {ty : TypeId} {id : EntityId} {g' : Graph} {name : String}
    {answer : Option EntityId} (h : entityForType m ty g = .ok (id, g'))
    (hnone : g.byName.lookup name = none) (hl : g'.byName.lookup name = some answer) :
    answer = some id := by
  rcases entityForType_eq_ok h with ⟨-, rfl⟩ | ⟨e, -, rfl, rfl⟩
  · rw [hnone] at hl
    cases hl
  · rw [Graph.lookup_build, hnone, Option.none_or] at hl
    split at hl
    · exact (Option.some.inj hl).symm
    · cases hl

end

/-- An invariant of consistent graphs that outlasts new entities and new names. A name is entered
once, except that a new entity may have entered it just before. -/
structure Graph.Lasting (m : TypeModel) (Inv : Graph → Prop) : Prop where
  consistent : ∀ {g : Graph}, Inv g → g.Consistent m
  build : ∀ {g : Graph} {e : Entity}, Inv g → m.IsEntityType e.typeId → e.typeId ∉ g.builtTypes →
    describeEntity m e.typeId g.entities.length = .ok e → Inv (g.build m e)
  setName : ∀ {g : Graph} {name : String} {answer : Option EntityId}, Inv g →
    (∀ known, g.byName.lookup name = some known → known = answer) →
    g.Is answer (m.findEntityType? name) → Inv (g.setName name answer)

theorem Graph.Consistent.lasting {m : TypeModel} (hm : m.Accepted) :
    Graph.Lasting m (Graph.Consistent m) where
  consistent := id
  build := fun hg hty hnew hd => hg.build hm hty hnew hd
  setName := fun hg _ h => hg.setName h

namespace Graph.Lasting

variable {m : TypeModel} {Inv : Graph → Prop} {g : Graph} (hl : Lasting m Inv) (hm : m.Accepted)
include hl hm

theorem entityForType_gives (hg : Inv g) {ty : TypeId} (hty : m.IsEntityType ty) :
    Gives (entityForType m ty) g fun id g' =>
      Inv g' ∧ g.Extends g' ∧ g'.builtTypes[id]? = some ty := by
  have hcon := hl.consistent hg
  cases hlook : g.byType.lookup ty with
  | some id => exact ⟨id, g, entityForType_known hlook, hg, .refl g, hcon.byType.mp hlook⟩
  | none =>
    obtain ⟨e, hd⟩ := describeEntity_ok hm hty.mem_ids g.entities.length
    obtain ⟨hid, rfl, -⟩ := describeEntity_fields hd
    have hnew : e.typeId ∉ g.builtTypes := fun h => by
      obtain ⟨id, hid⟩ := List.getElem?_of_mem h
      rw [hcon.byType.mpr hid] at hlook
      cases hlook
    refine ⟨e.id, g.build m e, entityForType_new hlook hd, hl.build hg hty hnew hd,
      extends_build m g e, ?_⟩
    rw [builtTypes_build, hid, ← length_builtTypes]
    exact List.getElem?_concat_length

theorem resolveEntity_gives (hg : Inv g) (name : String) :
    Gives (resolveEntity m name) g fun answer g' =>
      Inv g' ∧ g.Extends g' ∧ g'.byName.lookup name = some answer := by
  cases hlook : g.byName.lookup name with
  | some answer => exact ⟨answer, g, resolveEntity_known hlook, hg, .refl g, hlook⟩
  | none =>
    cases hf : m.findEntityType? name with
    | none =>
      refine ⟨none, _, resolveEntity_missing hlook hf, hl.setName hg ?_ (is_none_iff.mpr hf),
        .refl g, by simp [lookup_setName]⟩
      intro known h
      rw [hlook] at h
      cases h
    | some ty =>
      obtain ⟨id, g', he, hg', hext, hid⟩ :=
        hl.entityForType_gives hm hg (TypeModel.findEntityType?_isEntityType hm hf)
      exact ⟨some id, _, resolveEntity_found hlook hf he,
        hl.setName hg' (fun _ => entityForType_enters he hlook) (is_some_iff.mpr ⟨ty, hf, hid⟩),
        hext, by simp [lookup_setName]⟩

theorem entitiesForTypes_gives (hg : Inv g) {tys : List TypeId}
    (htys : ∀ ty ∈ tys, m.IsEntityType ty) : Gives (entitiesForTypes m tys) g fun ids g' =>
      Inv g' ∧ g.Extends g' ∧ g'.Are ids tys := by
  induction tys generalizing g with
  | nil => exact Gives.pure ⟨hg, .refl g, .nil⟩
  | cons ty rest ih =>
    unfold entitiesForTypes
    refine Gives.bind (hl.entityForType_gives hm hg (htys ty (by simp)))
      fun id g' ⟨hg', h1, hid⟩ => ?_
    refine Gives.bind (ih hg' fun t ht => htys t (by simp [ht])) fun ids g'' ⟨hg'', h2, hids⟩ => ?_
    exact Gives.pure ⟨hg'', h1.trans h2, .cons (h2.getElem? hid) hids⟩

theorem resolveAll_gives (hg : Inv g) : Gives (resolveAll m) g fun ids g' =>
    Inv g' ∧ g.Extends g' ∧ g'.Are ids (m.entityTypes.map (·.1)) :=
  hl.entitiesForTypes_gives hm hg fun _ h => h

end Graph.Lasting

theorem resolveEntity_gives {m : TypeModel} {g : Graph} (hm : m.Accepted) (hg : g.Consistent m)
    (name : String) : Gives (resolveEntity m name) g fun answer g' =>
      g'.Consistent m ∧ g.Extends g' ∧ g'.byName.lookup name = some answer ∧
        ∀ id, answer = some id → id < g'.entities.length := by
  refine ((Graph.Consistent.lasting hm).resolveEntity_gives hm hg name).mono ?_
  rintro answer g' ⟨hg', hext, hl⟩
  refine ⟨hg', hext, hl, ?_⟩
  rintro id rfl
  obtain ⟨e, he, -⟩ := hg'.found hl
  exact (List.getElem?_eq_some_iff.mp he).1

end EntityQuery
