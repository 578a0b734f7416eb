import Mathlib
import EntityQuery.Model.Sample
import EntityQuery.Proofs.Graph.History
/-!
# Links between entities

In every graph that grows from a model, by any history, entities are numbered in order, no two are
of one type, and each is linked to all entities of strict subtypes, in increasing order of their
numbers. Two graphs with entities of the same types agree on which types are linked to which, in
whatever order these were built.

Results:
* `Consistent.subtypes_eq_filter`, `Consistent.linkedTypes_eq`: the links of one entity, by numbers
  and by types.
* `runAll_links`: the numbers and the links after any history.
-/
namespace EntityQuery

namespace Graph

/-- The types of the subtypes that an entity is linked to. -/
def linkedTypes (g : Graph) (e : Entity) : List TypeId := e.subtypes.filterMap (g.builtTypes[·]?)

theorem Are.filterMap_eq {g : Graph} {ids : List EntityId} {tys : List TypeId}
    (h : g.Are ids tys) : ids.filterMap (g.builtTypes[·]?) = tys := by
  induction h with
  | nil => rfl
  | cons hid _ ih => rw [List.filterMap_cons_some hid, ih]

section
variable {m : TypeModel} {g : Graph} (hg : g.Consistent m)
include hg

theorem Consistent.linkedTypes_eq {e : Entity} (he : e ∈ g.entities) :
    g.linkedTypes e = m.strictSubtypes g.builtTypes e.typeId := by
  rw [linkedTypes, hg.links e he]
  exact (g.are_subtypesAmong m e.typeId).filterMap_eq

/-- Entities differ if their types do. -/
theorem Consistent.id_eq_iff {e f : Entity} (he : e ∈ g.entities) (hf : f ∈ g.entities) :
    f.id = e.id ↔ f.typeId = e.typeId := by
  obtain ⟨i, hi⟩ := List.getElem?_of_mem he
  obtain ⟨j, hj⟩ := List.getElem?_of_mem hf
  rw [hg.id_eq hi, hg.id_eq hj]
  constructor
  · intro h
    rw [h, hi] at hj
    rw [Option.some.inj hj]
  · intro h
    have hty := builtTypes_getElem? hj
    rw [h] at hty
    exact hg.eq_of_builtTypes hty (builtTypes_getElem? hi)

theorem Consistent.subtypes_eq_filter {e : Entity} (he : e ∈ g.entities) :
    e.subtypes = (g.entities.filter fun f =>
      f.id != e.id && m.isSubtype f.typeId e.typeId).map (·.id) := by
  have hfilter : (g.entities.filter fun f => f.id != e.id && m.isSubtype f.typeId e.typeId) =
      g.entities.filter fun f => f.typeId != e.typeId && m.isSubtype f.typeId e.typeId := by
    refine List.filter_congr fun f hf => ?_
    have hid : (f.id != e.id) = (f.typeId != e.typeId) := by
      rw [Bool.eq_iff_iff, bne_iff_ne, bne_iff_ne, Ne, hg.id_eq_iff he hf]
    rw [hid]
  rw [hfilter, ids_filter_eq hg.id_eq fun ty => ty != e.typeId && m.isSubtype ty e.typeId]
  exact hg.links e he

theorem Consistent.subtypes_increasing {e : Entity} (he : e ∈ g.entities) :
    e.subtypes.Pairwise (· < ·) := by
  rw [hg.subtypes_eq_filter he, List.pairwise_map]
  refine List.Pairwise.filter _ (List.pairwise_iff_getElem.mpr fun i j hi hj hij => ?_)
  rw [hg.id_eq (List.getElem?_eq_getElem hi), hg.id_eq (List.getElem?_eq_getElem hj)]
  exact hij

end

end Graph

/-- The graph after any history: entities are numbered in order and differ in their types, and each
is linked to exactly the others whose types are subtypes of its own. Every history can go on with
any request whose handle is one of the model or the graph. -/
theorem runAll_links {ds : List Declaration} {m : Declared} (hbuild : Declared.build ds = .ok m)
    {fallback : Bool} {qs : List Request} {answers : List Answer} {g : Graph}
    (hrun : Request.runAll m.toModel fallback qs Graph.empty = .ok (answers, g)) :
    (∀ (i : Nat) (e : Entity), g.entities[i]? = some e → e.id = i) ∧
    (g.entities.map (·.typeId)).Nodup ∧
    (∀ q : Request, q.Valid m.toModel g →
      ∃ answer g', q.run m.toModel fallback g = .ok (answer, g')) ∧
    ∀ e ∈ g.entities,
      e.subtypes = (g.entities.filter fun f =>
        f.id != e.id && m.toModel.isSubtype f.typeId e.typeId).map (·.id) ∧
      e.subtypes.Pairwise (· < ·) ∧
      -- any other history that built entities of the same types links the same types
      ∀ {fallback' : Bool} {qs' : List Request} {answers' : List Answer} {g' : Graph},
        Request.runAll m.toModel fallback' qs' Graph.empty = .ok (answers', g') →
        (∀ ty, ty ∈ g.builtTypes ↔ ty ∈ g'.builtTypes) →
        ∀ e' ∈ g'.entities, e'.typeId = e.typeId →
          ∀ ty, ty ∈ g.linkedTypes e ↔ ty ∈ g'.linkedTypes e' := by
  have hm := Declared.build_accepted hbuild
  have hg := runAll_consistent hm (Graph.empty_consistent m.toModel) hrun
  have hgoes : ∀ q : Request, q.Valid m.toModel g →
      ∃ answer g', q.run m.toModel fallback g = .ok (answer, g') := fun q hq => by
    obtain ⟨answer, g', hq', -⟩ :=
      q.run_gives hm (Account.free_closed hm) (Account.free_maintains hm fallback) hg hq
    exact ⟨answer, g', hq'⟩
  refine ⟨fun i e => hg.id_eq, hg.distinct, hgoes, fun e he =>
    ⟨hg.subtypes_eq_filter he, hg.subtypes_increasing he, ?_⟩⟩
  intro fallback' qs' answers' g' hrun' hsame e' he' hty ty
  have hg' := runAll_consistent hm (Graph.empty_consistent m.toModel) hrun'
  rw [hg.linkedTypes_eq he, hg'.linkedTypes_eq he', hty]
  simp only [TypeModel.strictSubtypes, List.mem_filter, hsame]

/-- The supertype is built between its subtypes, and linked to both. -/
theorem runAll_links_shapes : ∃ answers g, Declared.build shapes = .ok shapesModel ∧
    Request.runAll shapesModel.toModel true [.entity "Circle", .entity "Shape", .entity "Square"]
      Graph.empty = .ok (answers, g) ∧
    g.entities.map (·.subtypes) = [[], [0, 2], []] ∧
    ∀ e ∈ g.entities, e.subtypes = (g.entities.filter fun f =>
      f.id != e.id && shapesModel.toModel.isSubtype f.typeId e.typeId).map (·.id) := by
  obtain ⟨answers, g, hrun, hsubs⟩ : ∃ answers g, Request.runAll shapesModel.toModel true
      [.entity "Circle", .entity "Shape", .entity "Square"] Graph.empty = .ok (answers, g) ∧
      g.entities.map (·.subtypes) = [[], [0, 2], []] := ⟨_, _, rfl, rfl⟩
  exact ⟨answers, g, build_shapes, hrun, hsubs, fun e he =>
    ((runAll_links build_shapes hrun).2.2.2 e he).1⟩

end EntityQuery
