import Mathlib
import EntityQuery.Model.Sample
import EntityQuery.Proofs.Graph.History
import EntityQuery.Proofs.Model.QualifiedNames
/-!
# Where associations lead

An association without a target of its own keeps the simple name of its declared type. Looked up in
a fresh graph, this name leads to an entity, but to that of the declared type only if no other
entity type takes the name: by its entity name, by being called so without a package, or by coming
first.

Results:
* `findEntityType?_simpleName`: when the simple name of an entity type stands for the type.
* `declared_target`: what an association with a declared entity type leads to.
* `declared_target_taken`: it need not be the declared type.
-/
namespace EntityQuery

namespace Member

/-- An association of the kind is declared with the type called `name`: as its own type, or as the
type of its elements. -/
def DeclaresTarget (member : Member) (kind : PropertyKind) (name : String) : Prop :=
  (kind = .toOne ∧ member.type.name = name) ∨
    (kind = .toMany ∧ member.type.arguments.getLast?.getD member.type.name = name)

theorem explicitTarget?_eq_none {member : Member} {key : String}
    (h : ∀ a ∈ member.annotations, a.attribute? key = none) (mark : String) :
    member.explicitTarget? mark key = none := by
  unfold explicitTarget?
  cases hf : findAnnotation? member.annotations mark with
  | none => rfl
  | some a =>
    have ha : a.attribute? key = none := h a (List.mem_of_find?_eq_some hf)
    rw [Option.bind_some, ha]

/-- Without a target of its own, an association keeps the simple name of its declared type. -/
theorem DeclaresTarget.targetName_eq {member : Member} {kind : PropertyKind} {name : String}
    (h : member.DeclaresTarget kind name)
    (hplain : ∀ a ∈ member.annotations, a.attribute? "targetEntity" = none) :
    member.targetName kind = Name.simple name := by
  have hnone := explicitTarget?_eq_none hplain
  rcases h with ⟨rfl, rfl⟩ | ⟨rfl, rfl⟩
  · simp [targetName, hnone, TypeRef.simpleName]
  · simp only [targetName, hnone, elementType, TypeRef.simpleName]
    cases member.type.arguments.getLast? <;> rfl

end Member

/-- The entity type `ty` is the one that its simple name stands for. An entity name comes before the
name of a type, and that before a simple name; of several types with one name the first counts. -/
def TypeModel.OwnsSimpleName (m : TypeModel) (ty : TypeId) (t : TypeInfo) : Prop :=
  (t.entityName = t.simpleName ∧
      ∀ x ∈ m.entityTypes, x.2.entityName = t.simpleName → ty ≤ x.1) ∨
    ((∀ x ∈ m.entityTypes, x.2.entityName ≠ t.simpleName) ∧
      (t.name = t.simpleName ∨
        ((∀ x ∈ m.entityTypes, x.2.name ≠ t.simpleName) ∧
          ∀ x ∈ m.entityTypes, x.2.simpleName = t.simpleName → ty ≤ x.1)))

instance (m : TypeModel) (ty : TypeId) (t : TypeInfo) : Decidable (m.OwnsSimpleName ty t) := by
  unfold TypeModel.OwnsSimpleName
  infer_instance

namespace Declared

section
variable {ds : List Declaration} {m : Declared} (hbuild : build ds = .ok m) {ty : TypeId}
  {t : TypeInfo} (ht : (ty, t) ∈ m.toModel.entityTypes)
include hbuild ht

theorem firstEntityType?_eq_iff {p : TypeInfo → Bool} : m.toModel.firstEntityType? p = some ty ↔
    p t = true ∧ ∀ x ∈ m.toModel.entityTypes, p x.2 = true → ty ≤ x.1 := by
  rw [TypeModel.firstEntityType?_eq_some_iff (entityTypes_increasing hbuild)]
  constructor
  · rintro ⟨d, hd, hp, hfirst⟩
    obtain rfl := TypeModel.entityTypes_unique ht hd
    exact ⟨hp, fun x hx => hfirst x.1 x.2 hx⟩
  · rintro ⟨hp, hfirst⟩
    exact ⟨t, ht, hp, fun u d hd => hfirst (u, d) hd⟩

/-- The simple name of an entity type stands for some entity type; for this one just if no other
takes the name. -/
theorem findEntityType?_simpleName : ∃ u, m.toModel.findEntityType? t.simpleName = some u ∧
    (u = ty ↔ m.toModel.OwnsSimpleName ty t) := by
  have hthis : m.toModel.findEntityType? t.simpleName = some ty ↔
      m.toModel.OwnsSimpleName ty t := by
    have hown : m.toModel.firstEntityType? (·.name == t.simpleName) = some ty ↔
        t.name = t.simpleName := by
      rw [firstEntityType?_eq_iff hbuild ht, beq_iff_eq]
      refine and_iff_left_of_imp fun hname x hx hsame => ?_
      exact (eq_of_name hbuild (TypeModel.mem_entityTypes.mp hx).2.1
        (TypeModel.mem_entityTypes.mp ht).2.1 ((beq_iff_eq.mp hsame).trans hname.symm)).ge
    rw [findEntityType?_eq hbuild, Option.or_assoc, Option.or_eq_some_iff, Option.or_eq_some_iff,
      hown, firstEntityType?_eq_iff hbuild ht, firstEntityType?_eq_iff hbuild ht]
    simp only [TypeModel.firstEntityType?_eq_none_iff, TypeModel.OwnsSimpleName, Prod.forall,
      beq_iff_eq, beq_eq_false_iff_ne, true_and]
  have hsome : (m.toModel.findEntityType? t.simpleName).isSome := by
    have hlast : (m.toModel.firstEntityType? (·.simpleName == t.simpleName)).isSome := by
      rw [TypeModel.firstEntityType?, Option.isSome_map, List.find?_isSome]
      exact ⟨(ty, t), ht, beq_self_eq_true _⟩
    rw [findEntityType?_eq hbuild, Option.isSome_or, hlast, Bool.or_true]
  obtain ⟨u, hu⟩ := Option.isSome_iff_exists.mp hsome
  refine ⟨u, hu, ?_⟩
  rw [← hthis, hu, Option.some.injEq]

end

end Declared

/-- An association that names no target and is declared with an entity type has the simple name of
the type for its target. In a fresh graph the name leads to an entity, which is that of the declared
type just if the type owns its simple name. -/
theorem declared_target {ds : List Declaration} {m : Declared} (hbuild : Declared.build ds = .ok m)
    (name : String) {p : PlacedMember} {ty : TypeId} {t : TypeInfo}
    (ht : (ty, t) ∈ m.toModel.entityTypes)
    (hplain : ∀ a ∈ p.member.annotations, a.attribute? "targetEntity" = none)
    (hdeclares : p.member.DeclaresTarget (p.member.propertyKind m.toModel) t.name) :
    (Property.describe m.toModel name p).target = t.simpleName ∧
      ∃ id e g, resolveEntity m.toModel (Property.describe m.toModel name p).target Graph.empty =
          .ok (some id, g) ∧
        g.entities[id]? = some e ∧ (e.typeId = ty ↔ m.toModel.OwnsSimpleName ty t) := by
  have hm := Declared.build_accepted hbuild
  have htarget : (Property.describe m.toModel name p).target = t.simpleName :=
    hdeclares.targetName_eq hplain
  obtain ⟨u, hfind, howns⟩ := Declared.findEntityType?_simpleName hbuild ht
  obtain ⟨id, g, hentity, -, -, hid⟩ :=
    (Graph.Consistent.lasting hm).entityForType_gives hm (Graph.empty_consistent m.toModel)
      (TypeModel.findEntityType?_isEntityType hm hfind)
  obtain ⟨e, he, htype⟩ := Graph.exists_of_builtTypes hid
  rw [htarget]
  exact ⟨rfl, id, e, _, resolveEntity_found rfl hfind hentity, he, htype ▸ howns⟩

/-- Two entity types with one simple name, and a third with an association to each of them. -/
def stock : List Declaration :=
  let toMany (name argument : String) : Member :=
    ⟨name, .field, ⟨"List", [argument]⟩, false, false, [⟨"OneToMany", []⟩]⟩
  [.entity "a.Item" none [], .entity "b.Item" none [],
    .entity "Stock" none [.toOne "first" "a.Item", .toOne "second" "b.Item",
      toMany "others" "a.Item"]]

def stockModel : Declared where
  types := stock.map (·.below none)
  byName := [("Stock", 2), ("b.Item", 1), ("a.Item", 0)]
  bySimpleName := [("Stock", 2), ("Item", 0)]

theorem build_stock : Declared.build stock = .ok stockModel := rfl

/-- The member of the third type at an index. -/
def stockMember (index : Nat) : PlacedMember :=
  ⟨⟨2, index⟩, (stock[2].members[index]?).getD (.plain "" "")⟩

/-- The elements of the collection are items of the first type. -/
theorem declared_target_others : ∃ id e g,
    stockModel.toModel.findProperty 2 "others" .field =
      .ok (some (Property.describe stockModel.toModel "others" (stockMember 2))) ∧
    resolveEntity stockModel.toModel
        (Property.describe stockModel.toModel "others" (stockMember 2)).target Graph.empty =
      .ok (some id, g) ∧ g.entities[id]? = some e ∧ e.typeId = 0 := by
  have ht : (0, (Declaration.entity "a.Item" none []).below none) ∈
      stockModel.toModel.entityTypes := by decide +kernel
  obtain ⟨-, id, e, g, hresolve, he, howns⟩ := declared_target build_stock "others"
    (p := stockMember 2) ht (by decide +kernel) (.inr ⟨rfl, rfl⟩)
  exact ⟨id, e, g, rfl, hresolve, he, howns.mpr (by decide +kernel)⟩

/-- An association need not lead to its declared type: that of the second item leads to the first. -/
theorem declared_target_taken :
    ¬ ∀ (ds : List Declaration) (m : Declared) (owner : TypeId) (access : Access) (name : String)
      (p : PlacedMember) (ty : TypeId) (t : TypeInfo), Declared.build ds = .ok m →
      m.toModel.findProperty owner name access =
        .ok (some (Property.describe m.toModel name p)) →
      (ty, t) ∈ m.toModel.entityTypes →
      (∀ a ∈ p.member.annotations, a.attribute? "targetEntity" = none) →
      p.member.DeclaresTarget (p.member.propertyKind m.toModel) t.name →
      ∃ id e g, resolveEntity m.toModel (Property.describe m.toModel name p).target Graph.empty =
        .ok (some id, g) ∧ g.entities[id]? = some e ∧ e.typeId = ty := by
  intro h
  have ht : (1, (Declaration.entity "b.Item" none []).below none) ∈
      stockModel.toModel.entityTypes := by decide +kernel
  obtain ⟨id, e, g, hresolve, he, htype⟩ := h stock stockModel 2 .field "second" (stockMember 1) 1 _
    build_stock rfl ht (by decide +kernel) (.inl ⟨rfl, rfl⟩)
  obtain ⟨e', g', hfirst, he', htype'⟩ : ∃ e' g', resolveEntity stockModel.toModel
      (Property.describe stockModel.toModel "second" (stockMember 1)).target Graph.empty =
      .ok (some 0, g') ∧ g'.entities[0]? = some e' ∧ e'.typeId = 0 := ⟨_, _, rfl, rfl, rfl⟩
  cases hfirst.symm.trans hresolve
  cases he'.symm.trans he
  cases htype'.symm.trans htype

end EntityQuery
