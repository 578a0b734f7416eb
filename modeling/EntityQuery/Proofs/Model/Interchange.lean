import Mathlib
import EntityQuery.Proofs.Graph.History
import EntityQuery.Proofs.Model.Validation
/-!
# Declarations as a table

A model from declarations and the table that lists the same types are one and the same model. The
one keeps an index of names, in which the first type with a simple name stands; the other looks
through its rows, for the full name first and then for the simple one, and halves them to find a
handle. Whatever is asked, of the types or of a graph that grows from them, the answers are equal.

Results:
* `findRow?_ofDeclarations`: the rows are searched as the declarations are.
* `toModel_ofDeclarations`: the two are equal as models.
* `interchangeable`: so the table is accepted too, and all answers are equal.
-/
namespace EntityQuery

/-- The table of declarations, numbered in order, with the given superclasses. -/
def Table.ofDeclarations (ds : List Declaration) (superclass : TypeId → Option TypeId) : Table :=
  ⟨ds.zipIdx.map fun (d, i) => (i, ⟨d.name, superclass i, d.annotations, d.members⟩)⟩

namespace Table

variable (ds : List Declaration) (superclass : TypeId → Option TypeId)

theorem ids_ofDeclarations :
    (ofDeclarations ds superclass).toModel.ids = List.range ds.length := by
  simp only [toModel, ofDeclarations, List.map_map, Function.comp_def]
  rw [List.zipIdx_map_snd, List.range_eq_range']

theorem sorted_ofDeclarations : (ofDeclarations ds superclass).Sorted := by
  have h := ids_ofDeclarations ds superclass
  unfold Sorted
  rw [show (ofDeclarations ds superclass).rows.map (·.1) = List.range ds.length from h]
  exact List.pairwise_lt_range

theorem info?_ofDeclarations (ty : TypeId) : (ofDeclarations ds superclass).toModel.info? ty =
    (ds[ty]?).map fun d => ⟨d.name, superclass ty, d.annotations, d.members⟩ := by
  ext info
  change search (ofDeclarations ds superclass).rows ty = some info ↔ _
  rw [search_eq_some_iff (sorted_ofDeclarations ds superclass), Option.map_eq_some_iff]
  constructor
  · intro h
    obtain ⟨⟨d, i⟩, hmem, hrow⟩ := List.mem_map.mp h
    cases hrow
    exact ⟨d, List.mk_mem_zipIdx_iff_getElem?.mp hmem, rfl⟩
  · rintro ⟨d, hd, rfl⟩
    exact List.mem_map.mpr ⟨(d, ty), List.mk_mem_zipIdx_iff_getElem?.mpr hd, rfl⟩

/-- A search that looks at names only finds the same among the rows and the declarations. -/
theorem findRow?_ofDeclarations (p : String → Bool) :
    (ofDeclarations ds superclass).findRow? (fun t => p t.name) = ds.findIdx? fun d => p d.name := by
  rw [findRow?, ofDeclarations, List.find?_map, Option.map_map,
    List.findIdx?_eq_fst_find?_zipIdx]
  rfl

theorem resolve?_ofDeclarations (name : String) :
    (ofDeclarations ds superclass).toModel.resolve? name = Declaration.named? ds name := by
  change ((ofDeclarations ds superclass).findRow? (fun t => t.name == name) <|>
    (ofDeclarations ds superclass).findRow? fun t => Name.simple t.name == name) = _
  rw [findRow?_ofDeclarations ds superclass (· == name),
    findRow?_ofDeclarations ds superclass (Name.simple · == name), Option.orElse_eq_orElse,
    Option.orElse_eq_or, Declaration.named?]

end Table

open Table

attribute [ext] TypeModel

/-- The table of the declarations is the model that they make. -/
theorem toModel_ofDeclarations {ds : List Declaration} {m : Declared}
    (hbuild : Declared.build ds = .ok m) :
    (ofDeclarations ds m.toModel.superclass?).toModel = m.toModel := by
  obtain ⟨byName, hnames, rfl, -⟩ := Declared.build_eq_ok hbuild
  change (ofDeclarations ds (Declared.unchecked ds byName).toModel.superclass?).toModel =
    (Declared.unchecked ds byName).toModel
  apply TypeModel.ext
  case ids =>
    rw [ids_ofDeclarations]
    simp [Declared.unchecked, Declared.toModel]
  case info? =>
    funext ty
    rw [info?_ofDeclarations, TypeModel.superclass?, Declared.info?_unchecked]
    cases ds[ty]? <;> rfl
  case resolve? =>
    funext name
    rw [resolve?_ofDeclarations]
    exact (Declared.resolveIn_eq hnames name).symm

/-- A model from declarations and the table of the same types, with the superclasses found for them,
answer alike: the table is accepted, both say the same of every handle, element and name, and every
history of lookups goes the same way in a graph over either. -/
theorem interchangeable {ds : List Declaration} {m : Declared}
    (hbuild : Declared.build ds = .ok m) :
    let t := Table.ofDeclarations ds m.toModel.superclass?
    t.checked = .ok t ∧
    t.toModel.ids = m.toModel.ids ∧
    (∀ ty, t.toModel.typeName ty = m.toModel.typeName ty) ∧
    (∀ ty, t.toModel.members ty = m.toModel.members ty) ∧
    (∀ ty, t.toModel.superclass? ty = m.toModel.superclass? ty) ∧
    (∀ e name, t.toModel.annotation? e name = m.toModel.annotation? e name) ∧
    (∀ name, t.toModel.resolve? name = m.toModel.resolve? name) ∧
    (∀ sub sup, t.toModel.isSubtype sub sup = m.toModel.isSubtype sub sup) ∧
    t.toModel.entityNames = m.toModel.entityNames ∧
    ∀ fallback qs g,
      Request.runAll t.toModel fallback qs g = Request.runAll m.toModel fallback qs g := by
  intro t
  have hmodel : t.toModel = m.toModel := toModel_ofDeclarations hbuild
  obtain ⟨-, -, -, hacyclic⟩ := Declared.build_eq_ok hbuild
  have hchecked : t.checked = .ok t := by
    rw [checked_eq_ok_iff, hmodel]
    exact ⟨hacyclic, rfl⟩
  rw [hmodel]
  exact ⟨hchecked, rfl, fun _ => rfl, fun _ => rfl, fun _ => rfl, fun _ _ => rfl, fun _ => rfl,
    fun _ _ => rfl, rfl, fun _ _ _ => rfl⟩

/-- Three types with one simple name, which is the full name of the second. The first is marked as
an entity twice, the third has a superclass that is not declared, and the last has one called by the
name that all three have. -/
def parts : List Declaration := [
  ⟨"a.Item", none, [⟨"Entity", [("name", "First")]⟩, ⟨"Entity", [("name", "Second")]⟩], []⟩,
  ⟨"Item", some "b.Item", [], []⟩,
  ⟨"b.Item", some "Base", [], []⟩,
  ⟨"c.Part", some "Item", [⟨"Entity", []⟩], []⟩]

def partsModel : Declared where
  types := (parts.zip [none, some 2, none, some 1]).map fun (d, superclass) =>
    ⟨d.name, superclass, d.annotations, d.members⟩
  byName := [("c.Part", 3), ("b.Item", 2), ("Item", 1), ("a.Item", 0)]
  bySimpleName := [("Part", 3), ("Item", 0)]

theorem build_parts : Declared.build parts = .ok partsModel := rfl

theorem interchangeable_parts :
    let t := Table.ofDeclarations parts partsModel.toModel.superclass?
    Declared.build parts = .ok partsModel ∧ t.checked = .ok t ∧
      t.toModel.resolve? "Item" = some 1 ∧ t.toModel.superclass? 3 = some 1 ∧
      t.toModel.isSubtype 3 2 = true ∧
      t.toModel.annotation? (.type 0) "Entity" = .ok (some ⟨"Entity", [("name", "First")]⟩) := by
  obtain ⟨hchecked, -, -, -, hsuperclass, hmark, hresolve, hsubtype, -⟩ :=
    interchangeable build_parts
  exact ⟨build_parts, hchecked, (hresolve "Item").trans rfl, (hsuperclass 3).trans rfl,
    (hsubtype 3 2).trans rfl, (hmark (.type 0) "Entity").trans rfl⟩

end EntityQuery
