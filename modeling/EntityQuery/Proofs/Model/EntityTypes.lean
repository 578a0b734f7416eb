import Mathlib
import EntityQuery.Graph.Construction
import EntityQuery.Model.Sample
import EntityQuery.Proofs.Model.Hierarchy
/-!
# Entity types and the names that stand for them

A name stands for at most one entity type of a model. The entity's own name comes before the name of
its type, and of several entity types with one entity name the first in the model counts.

Results:
* `findEntityType?_isEntityType`: a name stands for an entity type of the model.
* `findEntityType?_of_first`: an entity name stands for the first type that has it.
* `findEntityType?_entityName`: where entity names differ, each stands for its own type.
-/
namespace EntityQuery

namespace TypeModel

/-- `ty` is one of the entity types of the model. -/
def IsEntityType (m : TypeModel) (ty : TypeId) : Prop := ty ∈ m.entityTypes.map (·.1)

/-- No two entity types of the model have one entity name. -/
def DistinctEntityNames (m : TypeModel) : Prop := (m.entityTypes.map (·.2.entityName)).Nodup

theorem mem_entityTypes {m : TypeModel} {ty : TypeId} {t : TypeInfo} :
    (ty, t) ∈ m.entityTypes ↔ ty ∈ m.ids ∧ m.info? ty = some t ∧ t.isEntity = true := by
  simp only [entityTypes, List.mem_filterMap, Option.map_eq_some_iff, Option.filter_eq_some_iff,
    Prod.mk.injEq]
  constructor
  · rintro ⟨ty', hty, t', ⟨hi, he⟩, rfl, rfl⟩
    exact ⟨hty, hi, he⟩
  · rintro ⟨hty, hi, he⟩
    exact ⟨ty, hty, t, ⟨hi, he⟩, rfl, rfl⟩

theorem entityTypes_unique {m : TypeModel} {ty : TypeId} {t u : TypeInfo}
    (h : (ty, t) ∈ m.entityTypes) (h' : (ty, u) ∈ m.entityTypes) : t = u :=
  Option.some.inj ((mem_entityTypes.mp h).2.1.symm.trans (mem_entityTypes.mp h').2.1)

theorem isEntityType_iff {m : TypeModel} {ty : TypeId} :
    m.IsEntityType ty ↔ ∃ t, (ty, t) ∈ m.entityTypes := by
  simp [IsEntityType]

theorem IsEntityType.mem_ids {m : TypeModel} {ty : TypeId} (h : m.IsEntityType ty) :
    ty ∈ m.ids := by
  obtain ⟨t, ht⟩ := isEntityType_iff.mp h
  exact (mem_entityTypes.mp ht).1

/-- The handles of the entity types are handles of the model, in the same order. -/
theorem entityTypes_sublist (m : TypeModel) : (m.entityTypes.map (·.1)).Sublist m.ids := by
  unfold entityTypes
  induction m.ids with
  | nil => simp
  | cons ty rest ih =>
    rw [List.filterMap_cons]
    split
    · exact ih.cons ty
    · rename_i p hp
      obtain ⟨t, -, rfl⟩ := Option.map_eq_some_iff.mp hp
      exact ih.cons_cons ty

/-! ## The type that a name stands for -/

theorem isEntityType_of_find? {m : TypeModel} {p : TypeId × TypeInfo → Bool} {ty : TypeId}
    (h : (m.entityTypes.find? p).map (·.1) = some ty) : m.IsEntityType ty := by
  obtain ⟨e, he, rfl⟩ := Option.map_eq_some_iff.mp h
  exact List.mem_map_of_mem (List.mem_of_find?_eq_some he)

theorem findEntityType?_isEntityType {m : TypeModel} (hm : m.Accepted) {name : String}
    {ty : TypeId} (h : m.findEntityType? name = some ty) : m.IsEntityType ty := by
  unfold findEntityType? at h
  simp only [Option.orElse_eq_orElse, Option.orElse_eq_or, Option.or_eq_some_iff] at h
  rcases h with h | ⟨-, h | ⟨-, h⟩⟩
  · exact isEntityType_of_find? h
  · obtain ⟨hr, ha⟩ := Option.filter_eq_some_iff.mp h
    obtain ⟨t, ht, he⟩ := (Option.any_eq_true _ _).mp ha
    exact isEntityType_iff.mpr ⟨t, mem_entityTypes.mpr ⟨hm.resolve_mem name ty hr, ht, he⟩⟩
  · exact isEntityType_of_find? h

theorem findEntityType?_of_first {m : TypeModel} {before after : Lineage} {ty : TypeId}
    {t : TypeInfo} (h : m.entityTypes = before ++ (ty, t) :: after)
    (hfirst : ∀ p ∈ before, p.2.entityName ≠ t.entityName) :
    m.findEntityType? t.entityName = some ty := by
  have hf : (m.entityTypes.find? fun p => p.2.entityName == t.entityName) = some (ty, t) := by
    rw [h, List.find?_append, List.find?_eq_none.mpr (by simpa using hfirst)]
    simp
  unfold findEntityType?
  rw [hf]
  rfl

/-- The entity name of an entity type stands for a type that has it. -/
theorem findEntityType?_same_name {m : TypeModel} {ty : TypeId} {t : TypeInfo}
    (h : (ty, t) ∈ m.entityTypes) : ∃ ty' t', (ty', t') ∈ m.entityTypes ∧
      t'.entityName = t.entityName ∧ m.findEntityType? t.entityName = some ty' := by
  have hf : (m.entityTypes.find? fun p => p.2.entityName == t.entityName).isSome = true :=
    List.find?_isSome.mpr ⟨(ty, t), h, by simp⟩
  obtain ⟨p, hp⟩ := Option.isSome_iff_exists.mp hf
  refine ⟨p.1, p.2, List.mem_of_find?_eq_some hp, by simpa using List.find?_some hp, ?_⟩
  unfold findEntityType?
  rw [hp]
  rfl

theorem exists_findEntityType? {m : TypeModel} {ty : TypeId} {t : TypeInfo}
    (h : (ty, t) ∈ m.entityTypes) : ∃ ty', m.findEntityType? t.entityName = some ty' := by
  obtain ⟨ty', -, -, -, h⟩ := findEntityType?_same_name h
  exact ⟨ty', h⟩

theorem findEntityType?_entityName {m : TypeModel} (hd : m.DistinctEntityNames) {ty : TypeId}
    {t : TypeInfo} (h : (ty, t) ∈ m.entityTypes) : m.findEntityType? t.entityName = some ty := by
  obtain ⟨before, after, hs⟩ := List.append_of_mem h
  refine findEntityType?_of_first hs fun p hp heq => ?_
  unfold DistinctEntityNames at hd
  rw [hs, List.map_append, List.map_cons, List.nodup_append] at hd
  exact hd.2.2 _ (List.mem_map_of_mem hp) _ List.mem_cons_self heq

end TypeModel

theorem staff_distinct : staffModel.toModel.DistinctEntityNames := by
  unfold TypeModel.DistinctEntityNames
  decide

end EntityQuery
