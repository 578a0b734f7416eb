import Mathlib
import EntityQuery.Graph.Lookup
import EntityQuery.Proofs.Graph.Complete
import EntityQuery.Proofs.Graph.Growth
/-!
# Graphs without fallback

A path that may fall back to subtypes depends on which of them are built. Without fallback, and
where no two entity types have one name, nothing depends on that: whatever a graph was asked before,
its tables hold what the model alone says, and every question is answered as on the empty graph.

Results:
* `Plain.build`: a new entity brings in its name, which stands for its type and no other.
* `Plain.maintains`: lookups keep the tables to the answers of the model.
* `answers_without_fallback`: every question has the same answer on all graphs that grew from the
  model.
-/
namespace EntityQuery

namespace Graph

/-- The tables hold what the model says where no path falls back to subtypes. -/
def Plain (m : TypeModel) (g : Graph) : Prop := g.Faithful m false g.builtTypes

theorem empty_plain (m : TypeModel) : Graph.empty.Plain m where
  consistent := empty_consistent m
  types := rfl
  canonical := fun _ _ h => by simp [Graph.empty] at h
  answers := by simp [Graph.empty]
  roles := fun h => by simp [Graph.empty] at h

namespace Plain

variable {m : TypeModel} {g : Graph}

theorem build (hg : g.Plain m) (hm : m.Accepted) (hnames : m.DistinctEntityNames) {e : Entity}
    (hty : m.IsEntityType e.typeId) (hnew : e.typeId ∉ g.builtTypes)
    (hd : describeEntity m e.typeId g.entities.length = .ok e) : (g.build m e).Plain m := by
  obtain ⟨hid, -, -, hp, -⟩ := describeEntity_fields hd
  obtain ⟨t, ht, hname⟩ := describeEntity_name hd hty
  refine ⟨hg.consistent.build hm hty hnew hd, rfl, hg.canonical.build hid fun _ => ?_,
    hg.allKept.build hp, fun hl => ?_⟩
  · rw [hname]
    exact TypeModel.findEntityType?_entityName hnames ht
  · rw [(build_tables m g e).2.1] at hl
    exact hg.roles hl

theorem lasting (hm : m.Accepted) (hnames : m.DistinctEntityNames) : Lasting m (Plain m) where
  consistent := fun hg => hg.consistent
  build := fun hg hty hnew hd => hg.build hm hnames hty hnew hd
  setName := fun hg _ h => Faithful.setName hg h

theorem setPathType (hg : g.Plain m) {id : EntityId} {ty : TypeId} {path : Path}
    {a : Option PropertyType} (hid : g.builtTypes[id]? = some ty)
    (ha : m.entityAnswer (fun _ => []) path ty = .ok a) (hin : ∀ t, a = some t → t.InModel m) :
    (g.setPathType id path a).Plain m := by
  unfold Plain
  rw [builtTypes_setPathType]
  exact Faithful.setPathType hg hid ha hin

theorem maintains (hm : m.Accepted) (hnames : m.DistinctEntityNames) :
    (Account.ofModel m fun _ => []).Maintains m false (Plain m) where
  consistent := fun hg => hg.consistent
  resolve := fun name hg => ((lasting hm hnames).resolveEntity_gives hm hg name).mono
    fun _ _ ⟨h1, h2, hl⟩ => ⟨h1, h2, _, rfl, h1.canonical _ _ hl⟩
  resolveAll := (lasting hm hnames).resolveAll_gives hm
  links := fun _ _ => rfl
  kept := fun hg he hl => ⟨hg.answers _ he hl, fun _ ht => hg.consistent.answers _ he (ht ▸ hl)⟩
  keep := fun hg hid ha => hg.setPathType hid ha.1 ha.2
  keptCollection := fun hg hl => hg.roles hl
  keepCollection := fun hg hin hc => Faithful.setCollection hg hin hc
  keepComponent := fun hg hc => { hg with consistent := hg.consistent.setComponent hc }

end Plain

end Graph

/-- The lookup succeeds on both graphs, with one answer. -/
def SameAnswer {α : Type} (x : GraphM α) (g g' : Graph) : Prop :=
  ∃ a g₁ g₁', x g = .ok (a, g₁) ∧ x g' = .ok (a, g₁')

/-- Graphs on which a lookup has the answer `v`, whatever they hold, agree on it. -/
theorem SameAnswer.of_inv {α : Type} {x : GraphM α} {Inv : Graph → Prop} {v : Except MissingId α}
    (h : ∀ {g : Graph}, Inv g → Gives x g fun a _ => v = .ok a) {g g' : Graph} (hg : Inv g)
    (hg' : Inv g') : SameAnswer x g g' := by
  obtain ⟨a, g₁, hrun, rfl⟩ := h hg
  obtain ⟨b, g₁', hrun', hb⟩ := h hg'
  obtain rfl := Except.ok.inj hb
  exact ⟨a, g₁, g₁', hrun, hrun'⟩

theorem entityByName_type {m : TypeModel} {name : String} {g : Graph} {ty? : Option TypeId}
    (h : Gives (resolveEntity m name) g fun id? g' => g'.Is id? ty?) :
    Gives (entityByName m name) g fun e? _ => e?.map (·.typeId) = ty? := by
  refine Gives.bind h fun id? g' hid => ?_
  cases id? with
  | none => exact Gives.pure (Graph.is_none_iff.mp hid).symm
  | some id =>
    obtain ⟨ty, rfl, hty⟩ := Graph.is_some_iff.mp hid
    obtain ⟨e, he, rfl⟩ := Graph.exists_of_builtTypes hty
    exact Gives.get_bind (Gives.lift_bind (a := e) (by rw [Graph.entity, he]) (Gives.pure rfl))

/-- Without fallback the history of a graph does not show in its answers: a name stands for an
entity of the same type, or for none, as on the empty graph, and properties, collections and their
elements have the same types. -/
theorem answers_without_fallback {ds : List Declaration} {m : Declared}
    (hbuild : Declared.build ds = .ok m) (hnames : m.toModel.DistinctEntityNames) {g : Graph}
    (hreach : Graph.empty.LeadsTo m.toModel false g) :
    (∀ name, ∃ ty?, Gives (resolveEntity m.toModel name) g (fun id? g' => g'.Is id? ty?) ∧
      Gives (resolveEntity m.toModel name) Graph.empty fun id? g' => g'.Is id? ty?) ∧
    (∀ name, SameAnswer ((·.map (·.typeId)) <$> (lookupIn m.toModel false).entity name)
      g Graph.empty) ∧
    (∀ entity path, SameAnswer ((lookupIn m.toModel false).propertyType entity path)
      g Graph.empty) ∧
    (∀ role, SameAnswer ((lookupIn m.toModel false).collection role) g Graph.empty) ∧
    ∀ role path, SameAnswer ((lookupIn m.toModel false).elementType role path) g Graph.empty := by
  have hm := Declared.build_accepted hbuild
  have hk := Graph.Plain.maintains hm hnames
  have hc := Account.ofModel_closed hm fun _ => []
  have hempty := Graph.empty_plain m.toModel
  have hg : g.Plain m.toModel := hreach.inv hk hm hc hempty
  have hname : ∀ {g : Graph}, g.Plain m.toModel → ∀ name,
      Gives (resolveEntity m.toModel name) g fun id? g' =>
        g'.Is id? (m.toModel.findEntityType? name) := by
    intro g hg name
    refine (hk.resolve name hg).mono ?_
    rintro id? g' ⟨-, -, _, rfl, h⟩
    exact h
  refine ⟨fun name => ⟨_, hname hg name, hname hempty name⟩, fun name => ?_, fun entity path => ?_,
    fun role => ?_, fun role path => ?_⟩
  · exact .of_inv (v := .ok (m.toModel.findEntityType? name)) (fun hg =>
      Gives.map ((entityByName_type (hname hg name)).mono fun _ _ h => by rw [h])) hg hempty
  · exact .of_inv (fun hg => (hk.namedType_gives hm hc entity _ hg).mono fun _ _ h =>
      Account.namedAnswer_eq h.2.2) hg hempty
  · exact .of_inv (fun hg => (hk.resolveCollection_gives hm hc role hg).mono fun _ _ h => h.2.2.1)
      hg hempty
  · exact .of_inv (fun hg => (hk.collectionElementType_gives hm hc role _ hg).mono fun _ _ h =>
      Account.elementAnswer_eq h.2.2) hg hempty

/-- An employee who was built before has a number, but the boss of an employee has none. -/
theorem answers_without_fallback_staff : staffModel.toModel.DistinctEntityNames ∧
    ∃ g, Graph.empty.LeadsTo staffModel.toModel false g ∧
      g.entities.map (·.name) = ["Employee", "Person"] ∧
      g.kept 0 ["number"] = some (some (.basic (.ofName "String"))) ∧
      SameAnswer ((lookupIn staffModel.toModel false).propertyType "Employee" "boss.number")
        g Graph.empty ∧
      SameAnswer ((lookupIn staffModel.toModel false).elementType "Person.reports" "boss.name")
        g Graph.empty := by
  have hnames : staffModel.toModel.DistinctEntityNames := by
    show List.Nodup _
    decide +kernel
  obtain ⟨as, g, hrun, hbuilt, hkept⟩ : ∃ as g, Request.runAll staffModel.toModel false
      [.entity "Employee", .propertyType 0 "number", .entity "Person"] Graph.empty = .ok (as, g) ∧
      g.entities.map (·.name) = ["Employee", "Person"] ∧
      g.kept 0 ["number"] = some (some (.basic (.ofName "String"))) := ⟨_, _, rfl, rfl, rfl⟩
  obtain ⟨-, -, types, -, elements⟩ := answers_without_fallback build_staff hnames ⟨_, as, hrun⟩
  exact ⟨hnames, g, ⟨_, as, hrun⟩, hbuilt, hkept, types _ _, elements _ _⟩

end EntityQuery
