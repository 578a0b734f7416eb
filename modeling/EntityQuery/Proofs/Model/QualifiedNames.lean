import Mathlib
import EntityQuery.Model.Declared
import EntityQuery.Proofs.Model.EntityTypes
/-!
# Names in models from declarations

The two indexes of a model from declarations are exact: a qualified name leads to the one type that
has it, and a simple name to the first. What a name stands for can so be said without them.

Results:
* `lookup_byName`, `lookup_bySimpleName`: what the indexes hold.
* `firstEntityType?_eq_some_iff`: the first entity type with some property is the one with the
  least handle.
* `findEntityType?_eq`: a name stands for the first entity type with that entity name, else for the
  one with that qualified name, else for the first with that simple name.
-/
namespace EntityQuery

namespace TypeModel

/-- The first entity type that satisfies `p`. -/
def firstEntityType? (m : TypeModel) (p : TypeInfo → Bool) : Option TypeId :=
  (m.entityTypes.find? fun (_, t) => p t).map (·.1)

section
variable {m : TypeModel} {p : TypeInfo → Bool}

theorem firstEntityType?_eq_none_iff :
    m.firstEntityType? p = none ↔ ∀ u d, (u, d) ∈ m.entityTypes → p d = false := by
  simp [firstEntityType?]

theorem firstEntityType?_eq_some_iff (hm : (m.entityTypes.map (·.1)).Pairwise (· < ·)) {ty : Nat} :
    m.firstEntityType? p = some ty ↔ ∃ t, (ty, t) ∈ m.entityTypes ∧ p t = true ∧
      ∀ u d, (u, d) ∈ m.entityTypes → p d = true → ty ≤ u := by
  have hleast : ∀ {ty : Nat} {t : TypeInfo},
      (m.entityTypes.find? fun (_, t) => p t) = some (ty, t) →
      (ty, t) ∈ m.entityTypes ∧ p t = true ∧
        ∀ u d, (u, d) ∈ m.entityTypes → p d = true → ty ≤ u := by
    intro ty t hfind
    obtain ⟨hp, before, after, hsplit, hbefore⟩ := List.find?_eq_some_iff_append.mp hfind
    rw [hsplit, List.map_append, List.map_cons, List.pairwise_append, List.pairwise_cons] at hm
    refine ⟨by simp [hsplit], hp, fun u d hd hpd => ?_⟩
    rw [hsplit, List.mem_append, List.mem_cons] at hd
    rcases hd with hd | hd | hd
    · simpa [hpd] using hbefore _ hd
    · exact Nat.le_of_eq (congrArg Prod.fst hd).symm
    · exact Nat.le_of_lt (hm.2.1.1 u (List.mem_map_of_mem hd))
  constructor
  · intro h
    obtain ⟨⟨u, t⟩, hfind, rfl⟩ := Option.map_eq_some_iff.mp h
    exact ⟨t, hleast hfind⟩
  · rintro ⟨t, ht, hp, hfirst⟩
    have hsome : (m.entityTypes.find? fun (_, t) => p t).isSome :=
      List.find?_isSome.mpr ⟨(ty, t), ht, hp⟩
    obtain ⟨⟨u, d⟩, hfind⟩ := Option.isSome_iff_exists.mp hsome
    obtain ⟨hd, hpd, hleu⟩ := hleast hfind
    have hu : u = ty := Nat.le_antisymm (hleu ty t ht hp) (hfirst u d hd hpd)
    rw [firstEntityType?, hfind, Option.map_some, hu]

end

end TypeModel

namespace Declared

section
variable {ds : List Declaration} {m : Declared} (hbuild : build ds = .ok m)
include hbuild

/-- A type has the name of its declaration. -/
theorem exists_info?_iff (ty : Nat) (P : String → Prop) :
    (∃ t, m.toModel.info? ty = some t ∧ P t.name) ↔ ∃ d, ds[ty]? = some d ∧ P d.name := by
  obtain ⟨byName, -, rfl, -⟩ := build_eq_ok hbuild
  simp [toModel, resolveSuperclass]

theorem lookup_byName {name : String} {ty : Nat} :
    m.byName.lookup name = some ty ↔ ∃ t, m.toModel.info? ty = some t ∧ t.name = name := by
  rw [exists_info?_iff hbuild ty (· = name)]
  obtain ⟨byName, hnames, rfl, -⟩ := build_eq_ok hbuild
  rw [lookup_indexNames hnames]
  constructor
  · rintro (h | ⟨i, d, hd, hname, rfl⟩)
    · cases h
    · exact ⟨d, (Nat.zero_add i).symm ▸ hd, hname⟩
  · rintro ⟨d, hd, hname⟩
    exact .inr ⟨ty, d, hd, hname, (Nat.zero_add ty).symm⟩

/-- Two types with one qualified name are the same. -/
theorem eq_of_name {u ty : Nat} {d t : TypeInfo} (hd : m.toModel.info? u = some d)
    (ht : m.toModel.info? ty = some t) (hname : d.name = t.name) : u = ty := by
  have hu := (lookup_byName hbuild).mpr ⟨d, hd, hname⟩
  have hty := (lookup_byName hbuild).mpr ⟨t, ht, rfl⟩
  exact Option.some.inj (hu.symm.trans hty)

theorem lookup_bySimpleName {name : String} {ty : Nat} :
    m.bySimpleName.lookup name = some ty ↔
      (∃ t, m.toModel.info? ty = some t ∧ t.simpleName = name) ∧
        ∀ u < ty, ¬ ∃ d, m.toModel.info? u = some d ∧ d.simpleName = name := by
  have hinfo := fun u => exists_info?_iff hbuild u (Name.simple · = name)
  simp only [TypeInfo.simpleName, hinfo]
  obtain ⟨byName, hnames, rfl, -⟩ := build_eq_ok hbuild
  rw [lookup_indexSimpleNames, List.lookup_nil, Option.none_or]
  simp only [Nat.zero_add, Option.map_id']
  rw [List.findIdx?_eq_some_iff_getElem]
  constructor
  · rintro ⟨hlt, hname, hbefore⟩
    refine ⟨⟨ds[ty], List.getElem?_eq_getElem hlt, beq_iff_eq.mp hname⟩, ?_⟩
    rintro u hu ⟨d, hd, hsame⟩
    obtain ⟨_, rfl⟩ := List.getElem?_eq_some_iff.mp hd
    exact hbefore u hu (beq_iff_eq.mpr hsame)
  · rintro ⟨⟨d, hd, hname⟩, hbefore⟩
    obtain ⟨hlt, rfl⟩ := List.getElem?_eq_some_iff.mp hd
    refine ⟨hlt, beq_iff_eq.mpr hname, fun u hu hsame => hbefore u hu ?_⟩
    exact ⟨ds[u], List.getElem?_eq_getElem (hu.trans hlt), beq_iff_eq.mp hsame⟩

theorem entityTypes_increasing : (m.toModel.entityTypes.map (·.1)).Pairwise (· < ·) := by
  have hids : m.toModel.ids.Pairwise (· < ·) := by
    obtain ⟨byName, -, rfl, -⟩ := build_eq_ok hbuild
    exact List.pairwise_lt_range
  exact hids.sublist m.toModel.entityTypes_sublist

/-- The entity types with a qualified name: at most the one that the index has. -/
theorem firstEntityType?_name (name : String) :
    m.toModel.firstEntityType? (·.name == name) =
      (m.byName.lookup name).filter fun ty => (m.toModel.info? ty).any (·.isEntity) := by
  ext ty
  rw [TypeModel.firstEntityType?_eq_some_iff (entityTypes_increasing hbuild),
    Option.filter_eq_some_iff, lookup_byName hbuild]
  constructor
  · rintro ⟨t, ht, hname, -⟩
    obtain ⟨-, hinfo, hentity⟩ := TypeModel.mem_entityTypes.mp ht
    exact ⟨⟨t, hinfo, beq_iff_eq.mp hname⟩, by rw [hinfo, Option.any_some, hentity]⟩
  · rintro ⟨⟨t, hinfo, hname⟩, hentity⟩
    rw [hinfo, Option.any_some] at hentity
    have hty : ty ∈ m.toModel.ids := ((build_accepted hbuild).mem_ids ty).mpr ⟨t, hinfo⟩
    refine ⟨t, TypeModel.mem_entityTypes.mpr ⟨hty, hinfo, hentity⟩, beq_iff_eq.mpr hname, ?_⟩
    intro u d hd hsame
    have hu := (TypeModel.mem_entityTypes.mp hd).2.1
    exact (eq_of_name hbuild hu hinfo ((beq_iff_eq.mp hsame).trans hname.symm)).ge

/-- The index of simple names has no other entity type than the first with the name. -/
theorem firstEntityType?_simpleName {name : String} {ty : Nat}
    (hl : m.bySimpleName.lookup name = some ty)
    (he : (m.toModel.info? ty).any (·.isEntity) = true) :
    m.toModel.firstEntityType? (·.simpleName == name) = some ty := by
  obtain ⟨⟨t, ht, hname⟩, hbefore⟩ := (lookup_bySimpleName hbuild).mp hl
  have hty : ty ∈ m.toModel.ids := ((build_accepted hbuild).mem_ids ty).mpr ⟨t, ht⟩
  rw [ht, Option.any_some] at he
  refine (TypeModel.firstEntityType?_eq_some_iff (entityTypes_increasing hbuild)).mpr
    ⟨t, TypeModel.mem_entityTypes.mpr ⟨hty, ht, he⟩, beq_iff_eq.mpr hname, fun u d hd hsame => ?_⟩
  by_contra hlt
  exact hbefore u (by omega)
    ⟨d, (TypeModel.mem_entityTypes.mp hd).2.1, beq_iff_eq.mp hsame⟩

/-- What a name stands for, said of the entity types alone. -/
theorem findEntityType?_eq (name : String) : m.toModel.findEntityType? name =
    ((m.toModel.firstEntityType? (·.entityName == name)).or
      (m.toModel.firstEntityType? (·.name == name))).or
      (m.toModel.firstEntityType? (·.simpleName == name)) := by
  have hfind : m.toModel.findEntityType? name =
      (m.toModel.firstEntityType? (·.entityName == name)).or
        (((m.byName.lookup name).or (m.bySimpleName.lookup name)).filter
          (fun ty => (m.toModel.info? ty).any (·.isEntity)) |>.or
            (m.toModel.firstEntityType? (·.simpleName == name))) := by
    simp only [TypeModel.findEntityType?, resolve?_eq, Option.orElse_eq_orElse,
      Option.orElse_eq_or]
    rfl
  rw [hfind, Option.or_assoc, firstEntityType?_name hbuild]
  congr 1
  cases m.byName.lookup name with
  | some ty => rfl
  | none =>
    rw [Option.none_or, Option.filter_none, Option.none_or]
    cases hs : m.bySimpleName.lookup name with
    | none => rfl
    | some ty =>
      cases he : (m.toModel.info? ty).any (·.isEntity) with
      | false => simp [Option.filter, he]
      | true => simp [Option.filter, he, firstEntityType?_simpleName hbuild hs he]

end

end Declared

end EntityQuery
