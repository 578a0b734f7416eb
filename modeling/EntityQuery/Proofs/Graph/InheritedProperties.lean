import Mathlib
import EntityQuery.Proofs.Graph.Routes
import EntityQuery.Proofs.Graph.SingleProperties
import EntityQuery.Proofs.Mapping.Inheritance
/-!
# Inherited properties of entities

An entity answers to a property that its type inherits as the entity of the supertype does, whatever
was looked up before and in between. Only a collection says whose it is: the owner and the role have
the name of the entity that was asked.

Results:
* `typeOf_ownedBy`: what a property leads to does not depend on the owner otherwise.
* `ownType_inherited`: the same property on a type and on its subtype.
* `inherited_property`: the answers of two entities, after any history.
-/
namespace EntityQuery

namespace Collection

/-- The same collection under `path` of another entity. -/
def ownedBy (owner path : String) (c : Collection) : Collection :=
  { c with owner, role := owner ++ "." ++ path }

end Collection

namespace PropertyType

/-- The same type for the property `path` of another entity. -/
def ownedBy (owner path : String) : PropertyType → PropertyType
  | .toMany c => .toMany (c.ownedBy owner path)
  | .elementCollection c => .elementCollection (c.ownedBy owner path)
  | .basic b => .basic b
  | .entity name => .entity name
  | .component c => .component c

end PropertyType

namespace TypeModel

variable {m : TypeModel}

theorem typeOf_ownedBy {owner path : String} {p : Property} {access : Access}
    {a : Option PropertyType} (h : m.typeOf owner path p access = .ok a) (other : String) :
    m.typeOf other path p access = .ok (a.map (·.ownedBy other path)) := by
  unfold typeOf at h ⊢
  cases hkind : p.kind with
  | basic | toOne | toMany =>
    rw [hkind] at h
    cases h
    rfl
  | embedded =>
    rw [hkind] at h
    dsimp only at h ⊢
    split at h
    · cases h
      rfl
    · obtain ⟨c, hc, h⟩ := Except.exists_of_map_eq_ok h
      cases h
      rw [hc]
      rfl
  | elementCollection =>
    rw [hkind] at h
    dsimp only at h ⊢
    split at h
    · obtain ⟨c, hc, h⟩ := Except.exists_of_map_eq_ok h
      cases h
      rw [hc]
      rfl
    · cases h
      rfl

/-- The access of an entity is the default of its hierarchy. -/
theorem entityHead_access {ty : TypeId} {name : String} {access : Access} {chain : Lineage}
    (hhead : m.entityHead ty = .ok (name, access)) (hchain : m.lineage ty = .ok chain) :
    access = chain.defaultAccess := by
  obtain ⟨t, -, hhead⟩ := Except.exists_of_bind_eq_ok hhead
  obtain ⟨chain', hchain', hhead⟩ := Except.exists_of_bind_eq_ok hhead
  cases hhead
  cases hchain'.symm.trans hchain
  rfl

/-- A collection that the property of an entity leads to is the entity's own. -/
theorem ownType_collection {ty : TypeId} {name n : String} {access : Access}
    (hhead : m.entityHead ty = .ok (name, access)) {a : Option PropertyType}
    (h : m.ownType ty n = .ok a) {c : Collection} (hc : a.bind (·.collection?) = some c) :
    c.owner = name ∧ c.role = name ++ "." ++ n := by
  obtain ⟨t, rfl, htc⟩ := Option.bind_eq_some_iff.mp hc
  rw [ownType, hhead, Except.ok_bind] at h
  obtain ⟨p?, -, h⟩ := Except.exists_of_bind_eq_ok h
  cases p? with
  | none => cases h
  | some p =>
    obtain ⟨howner, hrole, -⟩ := typeOf_collection h htc
    exact ⟨howner, hrole⟩

/-- The property of a subtype leads where that of the supertype does. -/
theorem ownType_inherited {sub sup : TypeId} {name other n : String} {own inherited : Access}
    (hsub : m.entityHead sub = .ok (name, own)) (hsup : m.entityHead sup = .ok (other, inherited))
    (haccess : own = inherited)
    (hsame : m.findProperty sub n own = m.findProperty sup n inherited)
    {a : Option PropertyType} (h : m.ownType sup n = .ok a) :
    m.ownType sub n = .ok (a.map (·.ownedBy name n)) := by
  rw [ownType, hsup, Except.ok_bind] at h
  rw [ownType, hsub, Except.ok_bind]
  dsimp only at h ⊢
  rw [hsame]
  obtain ⟨p?, hp, h⟩ := Except.exists_of_bind_eq_ok h
  rw [hp, Except.ok_bind]
  cases p? with
  | none =>
    cases h
    rfl
  | some p =>
    subst haccess
    exact typeOf_ownedBy h name

end TypeModel

section
variable {m : TypeModel} {g : Graph}

/-- An entity answers to a single segment with the type of its own property. -/
theorem exactPropertyType_single_gives (hm : m.Accepted) (fallback : Bool) (hg : g.SaysOwn m)
    {id : EntityId} {ty : TypeId} (hid : g.builtTypes[id]? = some ty) {n : String}
    {a : Option PropertyType} (h : m.ownType ty n = .ok a) :
    ∃ g', exactPropertyType m fallback id [n] g = .ok (a, g') := by
  obtain ⟨b, g', hrun, -, -, -, hown⟩ := (Account.single_maintains hm fallback).exactPropertyType_gives
    hm (Account.single_closed hm) [n] hg hid
  obtain rfl : b = a := Except.ok.inj ((hown n rfl).symm.trans h)
  exact ⟨g', hrun⟩

end

/-- An entity answers to an inherited property as the entity of the supertype does. Here `e` is
built, with an identifier in its hierarchy, and `s` for a subtype, with no type before that of `e`
that yields the property. In every later graph both give one answer, up to the owner and the role of
a collection. -/
theorem inherited_property {ds : List Declaration} {m : Declared}
    (hbuild : Declared.build ds = .ok m) {fallback : Bool} {g : Graph}
    (hreach : Graph.empty.LeadsTo m.toModel fallback g) {id sub : EntityId} {e s : Entity}
    (he : g.entities[id]? = some e) (hs : g.entities[sub]? = some s)
    (hsub : m.toModel.isSubtype s.typeId e.typeId = true)
    (hid : m.toModel.HasIdentifier e.typeId) {n : String} (hn : '.' ∉ n.toList)
    (hbelow : ¬ m.toModel.DeclaredBelow s.typeId e.typeId n) :
    ∃ a, (∀ c, a.bind (·.collection?) = some c → c.owner = e.name ∧ c.role = e.name ++ "." ++ n) ∧
      ∀ g', g.LeadsTo m.toModel fallback g' →
        (∃ g₁, exactPropertyType m.toModel fallback id (Path.ofString n) g' = .ok (a, g₁)) ∧
        ∃ g₂, exactPropertyType m.toModel fallback sub (Path.ofString n) g' =
          .ok (a.map (·.ownedBy s.name n), g₂) := by
  have hm := Declared.build_accepted hbuild
  have hg := hreach.saysOwn hm
  have hety := hg.1.mem_ids (List.mem_of_getElem? he)
  have hehead := hg.1.entityHead_eq he
  have hshead := hg.1.entityHead_eq hs
  -- the type of an entity is persistent
  obtain ⟨t, ht, -⟩ := hg.1.exists_entityType (List.mem_of_getElem? he)
  obtain ⟨-, hinfo, hentity⟩ := TypeModel.mem_entityTypes.mp ht
  have hpersistent : t.isPersistent = true := by simp [TypeInfo.isPersistent, hentity]
  obtain ⟨below, above, hlower, hupper, haccess, hsame⟩ := hm.grounded.findProperty_inherited hsub
    (TypeModel.info_eq_ok_iff.mpr hinfo) hpersistent hid hbelow
  rw [← TypeModel.entityHead_access hshead hlower, ← TypeModel.entityHead_access hehead hupper]
    at hsame haccess
  obtain ⟨a, ha, -⟩ := TypeModel.ownType_ok hm hety n
  have hinherited := TypeModel.ownType_inherited hshead hehead haccess hsame ha
  refine ⟨a, fun c => TypeModel.ownType_collection hehead ha, fun g' hlater => ?_⟩
  rw [Path.ofString_single hn]
  have hg' := (hreach.trans hlater).saysOwn hm
  have hbuilt := hlater.keeps.types
  exact ⟨exactPropertyType_single_gives hm fallback hg'
      (hbuilt.getElem? (Graph.builtTypes_getElem? he)) ha,
    exactPropertyType_single_gives hm fallback hg'
      (hbuilt.getElem? (Graph.builtTypes_getElem? hs)) hinherited⟩

/-- Employees below persons that are read through accessors. A type between them is not persistent.
The employees' own members are read as fields, so none of the two other `getReports` counts, and the
second identifier does not decide the access. -/
def employees : List Declaration :=
  let accessor (name type : String) (arguments : List String) (marks : List String) : Member :=
    ⟨name, .method 0, ⟨type, arguments⟩, false, false, marks.map (⟨·, []⟩)⟩
  [⟨"Person", none, [⟨"Entity", []⟩],
      [accessor "getId" "long" [] ["Id"], accessor "getReports" "List" ["Person"] ["OneToMany"]]⟩,
    ⟨"Worker", some "Person", [], [accessor "getReports" "String" [] []]⟩,
    ⟨"Employee", some "Worker", [⟨"Entity", []⟩, ⟨"Access", [("value", "FIELD")]⟩],
      [⟨"badge", .field, ⟨"int", []⟩, false, false, [⟨"Id", []⟩]⟩,
        accessor "getReports" "String" [] []]⟩]

def employeesModel : Declared where
  types := (employees.zip [none, some 0, some 1]).map fun (d, superclass) => d.below superclass
  byName := [("Employee", 2), ("Worker", 1), ("Person", 0)]
  bySimpleName := [("Employee", 2), ("Worker", 1), ("Person", 0)]

theorem build_employees : Declared.build employees = .ok employeesModel := rfl

/-- The reports of a person are a collection of persons, and so are those of an employee. -/
theorem inherited_property_reports : ∃ g e s c g₁ g₂,
    Graph.empty.LeadsTo employeesModel.toModel true g ∧
    g.entities[1]? = some e ∧ g.entities[0]? = some s ∧
    employeesModel.toModel.isSubtype s.typeId e.typeId = true ∧
    employeesModel.toModel.HasIdentifier e.typeId ∧
    ¬ employeesModel.toModel.DeclaredBelow s.typeId e.typeId "reports" ∧
    exactPropertyType employeesModel.toModel true 1 (Path.ofString "reports") g =
      .ok (some (.toMany c), g₁) ∧
    c.role = "Person.reports" ∧ c.element = .entity "Person" ∧
    exactPropertyType employeesModel.toModel true 0 (Path.ofString "reports") g =
      .ok (some (.toMany { c with owner := "Employee", role := "Employee.reports" }), g₂) := by
  obtain ⟨as, g, hrun, e, he, hty, s, hs, hsty, hname, c, g₁, hfound, helement, hrole⟩ :
      ∃ as g, Request.runAll employeesModel.toModel true [.entity "Employee", .entity "Person"]
        Graph.empty = .ok (as, g) ∧ ∃ e, g.entities[1]? = some e ∧ e.typeId = 0 ∧
        ∃ s, g.entities[0]? = some s ∧ s.typeId = 2 ∧ s.name = "Employee" ∧ ∃ c g₁,
          exactPropertyType employeesModel.toModel true 1 (Path.ofString "reports") g =
            .ok (some (.toMany c), g₁) ∧ c.element = .entity "Person" ∧ c.role = "Person.reports" :=
    ⟨_, _, rfl, _, rfl, rfl, _, rfl, rfl, rfl, _, _, rfl, rfl, rfl⟩
  have hid : employeesModel.toModel.HasIdentifier 0 := ⟨_, rfl, by decide⟩
  obtain ⟨chain, hchain, hfront⟩ : ∃ chain, employeesModel.toModel.lineage 2 = .ok chain ∧
      ¬ Lineage.Declares (chain.takeWhile (·.1 != 0)) chain.defaultAccess "reports" :=
    ⟨_, rfl, by decide⟩
  have hbelow : ¬ employeesModel.toModel.DeclaredBelow 2 0 "reports" := by
    rintro ⟨chain', hchain', hdeclares⟩
    cases hchain.symm.trans hchain'
    exact hfront hdeclares
  have hsub : employeesModel.toModel.isSubtype 2 0 = true := rfl
  rw [← hty, ← hsty] at hsub hbelow
  rw [← hty] at hid
  obtain ⟨a, -, hanswers⟩ := inherited_property build_employees ⟨_, as, hrun⟩ he hs hsub hid
    (show '.' ∉ "reports".toList by decide) hbelow
  obtain ⟨⟨g', ha⟩, g₂, hb⟩ := hanswers g ⟨[], [], rfl⟩
  cases hfound.symm.trans ha
  rw [hname] at hb
  exact ⟨g, e, s, c, g₁, g₂, ⟨_, as, hrun⟩, he, hs, hsub, hid, hbelow, hfound, hrole, helement, hb⟩

end EntityQuery
