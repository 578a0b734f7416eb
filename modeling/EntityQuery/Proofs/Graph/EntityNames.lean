import Mathlib
import EntityQuery.Model.Sample
import EntityQuery.Proofs.Graph.Growth
/-!
# The names of all entities

A model lists the names of its entity types without building them. Every listed name can be asked
for: what it is answered with has that name, also where the name is that of another type as well,
and whatever was asked before.

Results:
* `entityNames_increasing`, `mem_entityNames`: the list is sorted and has the names of the entity
  types, each once.
* `Consistent.name_of_lookup`: the entity that answers an entity name has that name.
* `listed_name_resolves`: the list, and the answer to each name in it after any history.
-/
namespace EntityQuery

namespace TypeModel

theorem mem_insertName {name n : String} {names : List String} :
    n ∈ insertName name names ↔ n = name ∨ n ∈ names := by
  induction names with
  | nil => simp [insertName]
  | cons first rest ih =>
    unfold insertName
    split
    · rename_i heq
      simp [heq]
    split
    · rw [List.mem_cons]
    · rw [List.mem_cons, ih, List.mem_cons, or_left_comm]

theorem insertName_increasing (name : String) {names : List String}
    (h : names.Pairwise (· < ·)) : (insertName name names).Pairwise (· < ·) := by
  induction names with
  | nil => simp [insertName]
  | cons first rest ih =>
    obtain ⟨hfirst, hrest⟩ := List.pairwise_cons.mp h
    unfold insertName
    split
    · exact h
    rename_i hne
    split
    · rename_i hlt
      refine List.pairwise_cons.mpr ⟨fun n hn => ?_, h⟩
      rcases List.mem_cons.mp hn with rfl | hn
      · exact hlt
      · exact lt_trans hlt (hfirst n hn)
    · rename_i hnot
      refine List.pairwise_cons.mpr ⟨fun n hn => ?_, ih hrest⟩
      rcases mem_insertName.mp hn with rfl | hn
      · exact lt_of_le_of_ne (not_lt.mp hnot) (Ne.symm hne)
      · exact hfirst n hn

theorem entityNames_increasing (m : TypeModel) : m.entityNames.Pairwise (· < ·) := by
  unfold entityNames
  induction m.entityTypes with
  | nil => exact .nil
  | cons p rest ih => exact insertName_increasing p.2.entityName ih

theorem mem_entityNames {m : TypeModel} {n : String} :
    n ∈ m.entityNames ↔ ∃ ty t, (ty, t) ∈ m.entityTypes ∧ t.entityName = n := by
  unfold entityNames
  induction m.entityTypes with
  | nil => simp
  | cons p rest ih =>
    rw [List.foldr_cons, mem_insertName, ih]
    simp only [List.mem_cons]
    constructor
    · rintro (rfl | ⟨ty, t, ht, hname⟩)
      · exact ⟨p.1, p.2, .inl rfl, rfl⟩
      · exact ⟨ty, t, .inr ht, hname⟩
    · rintro ⟨ty, t, rfl | ht, hname⟩
      · exact .inl hname.symm
      · exact .inr ⟨ty, t, ht, hname⟩

end TypeModel

/-- The names of a model from declarations are those of its entity types. -/
theorem Declared.mem_entityNames_iff (m : Declared) (n : String) :
    n ∈ m.toModel.entityNames ↔ ∃ t ∈ m.types, t.isEntity = true ∧ t.entityName = n := by
  rw [TypeModel.mem_entityNames]
  constructor
  · rintro ⟨ty, t, ht, hname⟩
    obtain ⟨-, hinfo, hentity⟩ := TypeModel.mem_entityTypes.mp ht
    exact ⟨t, List.mem_of_getElem? hinfo, hentity, hname⟩
  · rintro ⟨t, ht, hentity, hname⟩
    obtain ⟨ty, hty⟩ := List.getElem?_of_mem ht
    have hlt : ty < m.types.length := (List.getElem?_eq_some_iff.mp hty).1
    exact ⟨ty, t, TypeModel.mem_entityTypes.mpr ⟨List.mem_range.mpr hlt, hty, hentity⟩, hname⟩

/-- What answers an entity name is an entity of that name: if it is not the first that took the
name, it is of the type that the name stands for, and entity names come first there. -/
theorem Graph.Consistent.name_of_lookup {m : TypeModel} {g : Graph} (hg : g.Consistent m)
    {n : String} (hn : n ∈ m.entityNames) {answer : Option EntityId}
    (hl : g.byName.lookup n = some answer) :
    ∃ id e, answer = some id ∧ g.entities[id]? = some e ∧ e.name = n := by
  obtain ⟨ty, t, ht, rfl⟩ := TypeModel.mem_entityNames.mp hn
  obtain ⟨ty', t', ht', hsame, hfind⟩ := TypeModel.findEntityType?_same_name ht
  cases answer with
  | none => cases (hg.missing hl).symm.trans hfind
  | some id =>
    obtain ⟨e, he, hname⟩ := hg.found hl
    refine ⟨id, e, rfl, he, ?_⟩
    rcases hname with hname | hstands
    · exact hname
    · obtain ⟨u, hu, hown⟩ := hg.exists_entityType (List.mem_of_getElem? he)
      obtain rfl : ty' = e.typeId := Option.some.inj (hfind.symm.trans hstands)
      rw [hown, TypeModel.entityTypes_unique hu ht', hsame]

/-- The listed names are in increasing order and are exactly the names of the entity types. In every
graph that a history leaves, each of them is answered with an entity that has it for a name. -/
theorem listed_name_resolves {ds : List Declaration} {m : Declared}
    (hbuild : Declared.build ds = .ok m) {fallback : Bool} {g : Graph}
    (hreach : Graph.empty.LeadsTo m.toModel fallback g) :
    m.toModel.entityNames.Pairwise (· < ·) ∧
    (∀ n, n ∈ m.toModel.entityNames ↔ ∃ t ∈ m.types, t.isEntity = true ∧ t.entityName = n) ∧
    ∀ n ∈ m.toModel.entityNames, ∃ id e g', resolveEntity m.toModel n g = .ok (some id, g') ∧
      g'.entities[id]? = some e ∧ e.name = n := by
  have hm := Declared.build_accepted hbuild
  have hg := hreach.consistent hm (Graph.empty_consistent m.toModel)
  refine ⟨m.toModel.entityNames_increasing, m.mem_entityNames_iff, fun n hn => ?_⟩
  obtain ⟨answer, g', hrun, hg', -, hl, -⟩ := resolveEntity_gives hm hg n
  obtain ⟨id, e, rfl, he, hname⟩ := hg'.name_of_lookup hn hl
  exact ⟨id, e, g', hrun, he, hname⟩

/-- Three entity types. The name of the first is the qualified name of the second and the simple
name of the third. -/
def papers : List Declaration :=
  [("shop.Order", "Invoice"), ("Invoice", "Receipt"), ("old.Invoice", "Bill")].map
    fun (name, entityName) => ⟨name, none, [⟨"Entity", [("name", entityName)]⟩], []⟩

def papersModel : Declared where
  types := papers.map (·.below none)
  byName := [("old.Invoice", 2), ("Invoice", 1), ("shop.Order", 0)]
  bySimpleName := [("Invoice", 1), ("Order", 0)]

theorem build_papers : Declared.build papers = .ok papersModel := rfl

/-- After the other two types were looked up, one by its qualified name, the name of the first still
leads to an entity that is called so. -/
theorem listed_name_resolves_papers : ∃ g, Declared.build papers = .ok papersModel ∧
    Graph.empty.LeadsTo papersModel.toModel true g ∧ g.entities.length = 2 ∧
    "Invoice" ∈ papersModel.toModel.entityNames ∧
    ∃ id e g', resolveEntity papersModel.toModel "Invoice" g = .ok (some id, g') ∧
      g'.entities[id]? = some e ∧ e.name = "Invoice" := by
  obtain ⟨as, g, hrun, hlength⟩ : ∃ as g, Request.runAll papersModel.toModel true
      [.entity "old.Invoice", .entity "Receipt"] Graph.empty = .ok (as, g) ∧
      g.entities.length = 2 := ⟨_, _, rfl, rfl⟩
  have hreach : Graph.empty.LeadsTo papersModel.toModel true g := ⟨_, as, hrun⟩
  obtain ⟨-, -, hresolves⟩ := listed_name_resolves build_papers hreach
  have hlisted : "Invoice" ∈ papersModel.toModel.entityNames := by decide
  exact ⟨g, build_papers, hreach, hlength, hlisted, hresolves "Invoice" hlisted⟩

end EntityQuery
