import Mathlib
import EntityQuery.Mapping.Property
import EntityQuery.Model.Declared
import EntityQuery.Proofs.Model.Chains
/-!
# Accepted models and their hierarchies

`TypeModel.Accepted` is what the library may assume of a model that was built: every handle it gives
out is one of its own, and no chain of superclasses is endless. `Declared.build` gives such models.

Results:
* `Accepted.grounded`: chains of superclasses end, so subtyping is an order.
* `lineage_ok`: the hierarchy of a handle of the model can be read.
* `build_accepted`: a model built from declarations is accepted.
-/
namespace EntityQuery

namespace TypeModel

/-- A model whose handles lead to handles of the model and whose superclass chains end. -/
structure Accepted (m : TypeModel) : Prop where
  nodup : m.ids.Nodup
  mem_ids : ∀ ty, ty ∈ m.ids ↔ ∃ t, m.info? ty = some t
  superclass_mem : ∀ ty sup, m.superclass? ty = some sup → sup ∈ m.ids
  resolve_mem : ∀ name ty, m.resolve? name = some ty → ty ∈ m.ids
  ends : ∀ ty ∈ m.ids, m.isEndless ty = false

theorem Accepted.grounded {m : TypeModel} (hm : m.Accepted) : m.Grounded := by
  have hown : ∀ ty sup, m.Link ty sup → ty ∈ m.ids := fun ty sup hlink => by
    obtain ⟨t, ht, -⟩ := Option.bind_eq_some_iff.mp hlink
    exact (hm.mem_ids ty).mpr ⟨t, ht⟩
  refine ⟨hown, fun ty h => ?_⟩
  have hends := hm.ends ty (mem_ids_of_neverEnds hown h)
  rw [(isEndless_iff hown ty).mpr h] at hends
  cases hends

theorem superclassWalk_subset_ids {m : TypeModel} (hm : m.Accepted) {n : Nat} {ty sup : TypeId}
    (h : sup ∈ m.superclassWalk n ty) : sup ∈ m.ids := by
  obtain ⟨s, -, hs⟩ := Relation.TransGen.tail'_iff.mp (above_of_mem_walk h)
  exact hm.superclass_mem s sup hs

/-! ## Reading a hierarchy -/

theorem infos_ok_of_known {m : TypeModel} (tys : List TypeId)
    (h : ∀ ty ∈ tys, ∃ t, m.info? ty = some t) : ∃ chain, m.infos tys = .ok chain := by
  induction tys with
  | nil => exact ⟨[], rfl⟩
  | cons ty rest ih =>
    obtain ⟨t, ht⟩ := h ty List.mem_cons_self
    obtain ⟨chain, hc⟩ := ih fun ty' h' => h ty' (List.mem_cons_of_mem _ h')
    rw [infos, info_eq_ok_iff.mpr ht, Except.ok_bind, hc, Except.ok_bind]
    exact ⟨_, rfl⟩

/-- The hierarchy of a type can be read if something is known of the type and of every supertype. -/
theorem lineage_ok_of_known {m : TypeModel} {ty : TypeId}
    (h : ∀ sup, m.isSubtype ty sup = true → ∃ t, m.info? sup = some t) :
    ∃ chain, m.lineage ty = .ok chain := by
  have hknown : ∀ sup ∈ ty :: m.ancestors ty, ∃ t, m.info? sup = some t := fun sup hsup =>
    h sup (List.contains_iff_mem.mpr hsup)
  obtain ⟨t, ht⟩ := hknown ty List.mem_cons_self
  obtain ⟨chain, hc⟩ := infos_ok_of_known (m.ancestors ty) fun sup hsup =>
    hknown sup (List.mem_cons_of_mem _ hsup)
  rw [lineage, info_eq_ok_iff.mpr ht, Except.ok_bind, hc, Except.ok_bind]
  exact ⟨_, rfl⟩

section
variable {m : TypeModel} (hm : m.Accepted)
include hm

theorem Accepted.info_ok {ty : TypeId} (hty : ty ∈ m.ids) :
    ∃ t, m.info? ty = some t ∧ m.info ty = .ok t := by
  obtain ⟨t, ht⟩ := (hm.mem_ids ty).mp hty
  exact ⟨t, ht, info_eq_ok_iff.mpr ht⟩

theorem Accepted.lineage_ok {ty : TypeId} (hty : ty ∈ m.ids) :
    ∃ chain, m.lineage ty = .ok chain := by
  refine lineage_ok_of_known fun sup hsup => (hm.mem_ids sup).mp ?_
  rcases List.mem_cons.mp (List.contains_iff_mem.mp hsup) with rfl | habove
  · exact hty
  · exact superclassWalk_subset_ids hm habove

theorem Accepted.findProperty_ok {ty : TypeId} (hty : ty ∈ m.ids) (name : String)
    (access : Access) : ∃ p, m.findProperty ty name access = .ok p := by
  obtain ⟨chain, hc⟩ := hm.lineage_ok hty
  exact ⟨_, by simp [findProperty, hc, Except.map]; rfl⟩

theorem Accepted.describeProperties_ok {ty : TypeId} (hty : ty ∈ m.ids) (access : Access) :
    ∃ ps, m.describeProperties ty access = .ok ps := by
  obtain ⟨chain, hc⟩ := hm.lineage_ok hty
  exact ⟨_, by simp [describeProperties, hc, Except.map]; rfl⟩

end

end TypeModel

/-! ## Models from declarations -/

namespace Declared

/-- The index of qualified names has the names of the declarations, each with its number. -/
theorem lookup_indexNames {ds : List Declaration} {next : Nat} {index result : NameIndex}
    (h : indexNames ds next index = .ok result) (name : String) (ty : Nat) :
    result.lookup name = some ty ↔
      index.lookup name = some ty ∨ ∃ i d, ds[i]? = some d ∧ d.name = name ∧ ty = next + i := by
  induction ds generalizing next index with
  | nil =>
    simp only [indexNames, Except.ok.injEq] at h
    simp [h]
  | cons d ds ih =>
    simp only [indexNames] at h
    split at h
    · cases h
    · rename_i hfree
      rw [ih h, List.lookup_cons]
      constructor
      · rintro (hhead | ⟨i, e, he, hname, rfl⟩)
        · split at hhead
          · rename_i heq
            exact .inr ⟨0, d, rfl, (beq_iff_eq.mp heq).symm, (Option.some.inj hhead).symm⟩
          · exact .inl hhead
        · exact .inr ⟨i + 1, e, he, hname, by omega⟩
      · rintro (hold | ⟨i, e, he, hname, hty⟩)
        · have hne : name ≠ d.name := by
            rintro rfl
            simp [hold] at hfree
          exact .inl (by simpa [beq_false_of_ne hne] using hold)
        · cases i with
          | zero =>
            obtain rfl : d = e := Option.some.inj he
            exact .inl (by simp [hname, hty])
          | succ i => exact .inr ⟨i, e, he, hname, by omega⟩

/-- The index of simple names has each with the number of the first declaration that has it. -/
theorem lookup_indexSimpleNames (ds : List Declaration) (next : Nat) (index : NameIndex)
    (name : String) : (indexSimpleNames ds next index).lookup name =
      (index.lookup name).or ((ds.findIdx? fun d => Name.simple d.name == name).map (next + ·)) := by
  induction ds generalizing next index with
  | nil => simp [indexSimpleNames]
  | cons d ds ih =>
    have hnew : (index.insertNew (Name.simple d.name) next).lookup name =
        (index.lookup name).or (if Name.simple d.name = name then some next else none) := by
      unfold NameIndex.insertNew
      by_cases hn : Name.simple d.name = name
      · subst hn
        cases hl : index.lookup (Name.simple d.name) <;> simp [hl]
      · have hn' : name ≠ Name.simple d.name := fun h => hn h.symm
        simp only [if_neg hn, Option.or_none]
        split
        · rfl
        · rw [List.lookup_cons, beq_false_of_ne hn']
    rw [indexSimpleNames, ih, hnew, Option.or_assoc, List.findIdx?_cons]
    congr 1
    by_cases hn : Name.simple d.name = name
    · simp [hn]
    · simp only [hn, if_false, beq_false_of_ne hn, Bool.false_eq_true, Option.none_or,
        Option.map_map]
      congr 1
      funext i
      simp only [Function.comp_apply]
      omega

/-- A name found in the two indexes of a list of declarations is one of its types. -/
theorem resolveIn_lt {ds : List Declaration} {byName : NameIndex}
    (h : indexNames ds 0 [] = .ok byName) {name : String} {ty : TypeId}
    (hr : resolveIn byName (indexSimpleNames ds 0 []) name = some ty) : ty < ds.length := by
  simp only [resolveIn, Option.orElse_eq_orElse, Option.orElse_eq_or,
    Option.or_eq_some_iff, lookup_indexNames h, lookup_indexSimpleNames] at hr
  rcases hr with hr | ⟨-, hr | ⟨-, hr⟩⟩
  · obtain ⟨i, d, hi, -, rfl⟩ := hr.resolve_left (by simp)
    simpa using (List.getElem?_eq_some_iff.mp hi).1
  · cases hr
  · obtain ⟨i, hi, rfl⟩ := Option.map_eq_some_iff.mp hr
    simpa using (List.findIdx?_eq_some_iff_getElem.mp hi).1

/-- What `build` has made when it succeeds. -/
theorem build_eq_ok {ds : List Declaration} {m : Declared} (h : build ds = .ok m) :
    ∃ byName, indexNames ds 0 [] = .ok byName ∧
      m = ⟨ds.map (resolveSuperclass byName (indexSimpleNames ds 0 [])), byName,
        indexSimpleNames ds 0 []⟩ ∧
      m.toModel.checkAcyclic = .ok () := by
  obtain ⟨byName, hnames, h⟩ := Except.exists_of_bind_eq_ok h
  obtain ⟨⟨⟩, hacyclic, h⟩ := Except.exists_of_bind_eq_ok h
  cases h
  exact ⟨byName, hnames, rfl, hacyclic⟩

theorem build_accepted {ds : List Declaration} {m : Declared} (h : build ds = .ok m) :
    m.toModel.Accepted := by
  obtain ⟨byName, hn, rfl, hc⟩ := build_eq_ok h
  constructor
  case nodup => exact List.nodup_range
  case mem_ids =>
    intro ty
    simp only [toModel, List.length_map, List.mem_range]
    rw [← Option.isSome_iff_exists, isSome_getElem?, List.length_map]
  case superclass_mem =>
    intro ty sup hs
    simp only [TypeModel.superclass?, toModel, List.getElem?_map, Option.bind_eq_some_iff,
      Option.map_eq_some_iff] at hs
    obtain ⟨t, ⟨d, -, rfl⟩, hs⟩ := hs
    obtain ⟨name, -, hr⟩ := Option.bind_eq_some_iff.mp hs
    simpa [toModel] using resolveIn_lt hn hr
  case resolve_mem =>
    intro name ty hr
    simpa [toModel] using resolveIn_lt hn hr
  case ends =>
    intro ty hty
    unfold TypeModel.checkAcyclic at hc
    split at hc
    · rename_i hf
      simpa using List.find?_eq_none.mp hf ty hty
    · cases hc

end Declared

end EntityQuery
