import Mathlib
import EntityQuery.Proofs.Graph.Growth
/-!
# The name of an entity

A model may give one entity name to several types. The first of them that is built takes the name
and keeps it: by its own name every entity leads to the first entity of that name, and so to itself
just if no earlier one has it.

Results:
* `FirstNamed.build`, `FirstNamed.setName`: names stay with the first entity that has them.
* `own_name_leads_to_first`: where the name of an entity leads after any history.
* `own_name_taken`: it need not lead back to the entity.
-/
namespace EntityQuery

namespace Graph

/-- The names of the entities, in order of construction. -/
def names (g : Graph) : List String := g.entities.map (·.name)

theorem names_getElem? {g : Graph} {id : EntityId} {e : Entity} (h : g.entities[id]? = some e) :
    g.names[id]? = some e.name := by
  simp [names, h]

/-- No entity of a name comes before the first one. -/
theorem idxOf_names_le {g : Graph} {id : EntityId} {e : Entity} (h : g.entities[id]? = some e) :
    g.names.idxOf e.name ≤ id := by
  by_contra hlt
  obtain ⟨hid, hname⟩ := List.getElem?_eq_some_iff.mp (names_getElem? h)
  have hne := List.not_of_lt_findIdx (Nat.lt_of_not_le hlt)
  rw [hname, beq_self_eq_true] at hne
  cases hne

theorem exists_first_named {g : Graph} {name : String} (h : name ∈ g.names) :
    ∃ e, g.entities[g.names.idxOf name]? = some e ∧ e.name = name := by
  simpa [names] using List.getElem?_idxOf h

theorem names_build (m : TypeModel) (g : Graph) (e : Entity) :
    (g.build m e).names = g.names ++ [e.name] :=
  map_build m g e (·.name) fun _ _ => rfl

theorem names_setPathType (g : Graph) (id : EntityId) (path : Path) (a : Option PropertyType) :
    (g.setPathType id path a).names = g.names :=
  map_setPathType g id path a (·.name) fun _ _ => rfl

/-- Names of entities are answered with the first entity that has them. -/
def FirstNamed (g : Graph) : Prop :=
  ∀ name ∈ g.names, g.byName.lookup name = some (some (g.names.idxOf name))

/-- The name of an entity type is not answered before an entity has it. -/
theorem Consistent.lookup_eq_none {m : TypeModel} {g : Graph} (hg : g.Consistent m) {ty : TypeId}
    {t : TypeInfo} (ht : (ty, t) ∈ m.entityTypes) (hnew : t.entityName ∉ g.names) :
    g.byName.lookup t.entityName = none := by
  obtain ⟨ty', t', ht', hsame, hfind⟩ := TypeModel.findEntityType?_same_name ht
  cases hl : g.byName.lookup t.entityName with
  | none => rfl
  | some answer =>
    cases answer with
    | none =>
      rw [hg.missing hl] at hfind
      cases hfind
    | some id =>
      -- the entity that answers has the name itself, or is of a type that does
      refine absurd ?_ hnew
      obtain ⟨f, hf, hname | hname⟩ := hg.found hl
      · exact hname ▸ List.mem_map_of_mem (List.mem_of_getElem? hf)
      · obtain ⟨u, hu, hfname⟩ := hg.exists_entityType (List.mem_of_getElem? hf)
        obtain rfl : ty' = f.typeId := Option.some.inj (hfind.symm.trans hname)
        obtain rfl := TypeModel.entityTypes_unique ht' hu
        rw [← hsame, ← hfname]
        exact List.mem_map_of_mem (List.mem_of_getElem? hf)

namespace FirstNamed

variable {m : TypeModel} {g : Graph}

theorem build (h : g.FirstNamed) (hg : g.Consistent m) {e : Entity}
    (hty : m.IsEntityType e.typeId)
    (hd : describeEntity m e.typeId g.entities.length = .ok e) : (g.build m e).FirstNamed := by
  obtain ⟨hid, -⟩ := describeEntity_fields hd
  obtain ⟨t, ht, hname⟩ := describeEntity_name hd hty
  intro name hmem
  rw [lookup_build, names_build, List.idxOf_append]
  by_cases hold : name ∈ g.names
  · rw [h name hold, if_pos hold]
    rfl
  · rw [names_build, List.mem_append, List.mem_singleton] at hmem
    obtain rfl := hmem.resolve_left hold
    rw [hname] at hold ⊢
    rw [hg.lookup_eq_none ht hold, if_neg hold, hid]
    simp [names]

theorem setName (h : g.FirstNamed) {name : String} {answer : Option EntityId}
    (hknown : ∀ known, g.byName.lookup name = some known → known = answer) :
    (g.setName name answer).FirstNamed := by
  intro n hn
  rw [lookup_setName]
  split
  · rename_i heq
    subst heq
    rw [← hknown _ (h n hn)]
    rfl
  · exact h n hn

theorem lasting (hm : m.Accepted) :
    Lasting m fun g => g.Consistent m ∧ g.FirstNamed where
  consistent := And.left
  build := fun hg hty hnew hd => ⟨hg.1.build hm hty hnew hd, hg.2.build hg.1 hty hd⟩
  setName := fun hg hknown h => ⟨hg.1.setName h, hg.2.setName hknown⟩

theorem setPathType (h : g.FirstNamed) (id : EntityId) (path : Path) (a : Option PropertyType) :
    (g.setPathType id path a).FirstNamed := by
  unfold FirstNamed
  rw [names_setPathType]
  exact h

/-- After any history names stay with the first entity that has them. -/
theorem of_leadsTo (hm : m.Accepted) {fallback : Bool}
    (h : Graph.empty.LeadsTo m fallback g) : g.FirstNamed := by
  have hk : (Account.free m).Maintains m fallback fun g => g.Consistent m ∧ g.FirstNamed :=
    (lasting hm).maintains hm fallback
      (fun hg _ he _ _ hl _ ht => hg.1.answers _ he (ht ▸ hl))
      (fun hg _ ha => ⟨hg.1.setPathType ha, hg.2.setPathType _ _ _⟩)
      (fun hg hc => ⟨hg.1.setCollection hc, hg.2⟩) fun hg hc => ⟨hg.1.setComponent hc, hg.2⟩
  refine (h.inv hk hm (Account.free_closed hm) ⟨empty_consistent m, ?_⟩).2
  simp [FirstNamed, names, Graph.empty]

end FirstNamed

end Graph

/-- The name of an entity is answered, without a change to the graph, with the first entity that has
it; that is the entity itself just if no earlier one has its name. -/
theorem own_name_leads_to_first {ds : List Declaration} {m : Declared}
    (hbuild : Declared.build ds = .ok m) {fallback : Bool} {g : Graph}
    (hreach : Graph.empty.LeadsTo m.toModel fallback g) {id : EntityId} {e : Entity}
    (he : g.entities[id]? = some e) :
    ∃ j f, resolveEntity m.toModel e.name g = .ok (some j, g) ∧
      g.entities[j]? = some f ∧ f.name = e.name ∧
      (∀ i d, g.entities[i]? = some d → d.name = e.name → j ≤ i) ∧
      (j = id ↔ ∀ i d, i < id → g.entities[i]? = some d → d.name ≠ e.name) := by
  have hm := Declared.build_accepted hbuild
  have hfirst := Graph.FirstNamed.of_leadsTo hm hreach
  have hmem : e.name ∈ g.names := List.mem_map_of_mem (List.mem_of_getElem? he)
  obtain ⟨f, hf, hname⟩ := Graph.exists_first_named hmem
  have hle : ∀ i d, g.entities[i]? = some d → d.name = e.name → g.names.idxOf e.name ≤ i :=
    fun i d hd hsame => hsame ▸ Graph.idxOf_names_le hd
  refine ⟨_, f, resolveEntity_known (hfirst _ hmem), hf, hname, hle, fun hj i d hlt hd hsame => ?_,
    fun hnone => ?_⟩
  · exact absurd hlt (Nat.not_lt_of_le (hj ▸ hle i d hd hsame))
  · by_contra hne
    have hlt := Nat.lt_of_le_of_ne (hle id e he rfl) hne
    exact hnone _ f hlt hf hname

/-- Two entity types in different packages, with one simple name. -/
def items : List Declaration :=
  ["a.Item", "b.Item"].map fun name => ⟨name, none, [⟨"Entity", []⟩], []⟩

def itemsModel : Declared where
  types := ["a.Item", "b.Item"].map fun name => ⟨name, none, [⟨"Entity", []⟩], []⟩
  byName := [("b.Item", 1), ("a.Item", 0)]
  bySimpleName := [("Item", 0)]

theorem build_items : Declared.build items = .ok itemsModel := rfl

/-- The second item is found by the name of its type; its own name leads to the first. -/
theorem own_name_leads_to_first_items : ∃ g e, Declared.build items = .ok itemsModel ∧
    Graph.empty.LeadsTo itemsModel.toModel true g ∧ g.entities[1]? = some e ∧
    ∃ j f, resolveEntity itemsModel.toModel e.name g = .ok (some j, g) ∧
      g.entities[j]? = some f ∧ f.name = e.name ∧ (j = 1 ↔ ∀ i d, i < 1 →
        g.entities[i]? = some d → d.name ≠ e.name) := by
  obtain ⟨as, g, hrun, e, he⟩ : ∃ as g, Request.runAll itemsModel.toModel true
      [.entity "a.Item", .entity "b.Item"] Graph.empty = .ok (as, g) ∧
      ∃ e, g.entities[1]? = some e := ⟨_, _, rfl, _, rfl⟩
  obtain ⟨j, f, hj, hf, hname, -, hself⟩ :=
    own_name_leads_to_first build_items ⟨_, as, hrun⟩ he
  exact ⟨g, e, build_items, ⟨_, as, hrun⟩, he, j, f, hj, hf, hname, hself⟩

/-- An entity's own name need not lead back to it. -/
theorem own_name_taken : ¬ ∀ (ds : List Declaration) (m : Declared) (fallback : Bool) (g : Graph)
    (id : EntityId) (e : Entity), Declared.build ds = .ok m →
      Graph.empty.LeadsTo m.toModel fallback g → g.entities[id]? = some e →
      ∃ g', resolveEntity m.toModel e.name g = .ok (some id, g') := by
  intro h
  obtain ⟨as, g, hrun, e, he, hfirst⟩ : ∃ as g, Request.runAll itemsModel.toModel true
      [.entity "a.Item", .entity "b.Item"] Graph.empty = .ok (as, g) ∧
      ∃ e, g.entities[1]? = some e ∧
        resolveEntity itemsModel.toModel e.name g = .ok (some 0, g) :=
    ⟨_, _, rfl, _, rfl, rfl⟩
  obtain ⟨g', hself⟩ := h items itemsModel true g 1 e build_items ⟨_, as, hrun⟩ he
  cases hfirst.symm.trans hself

end EntityQuery
