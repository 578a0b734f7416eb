import Mathlib
import EntityQuery.Proofs.InsertionOrder
import EntityQuery.Proofs.Mapping.Properties
import EntityQuery.Proofs.Model.Forest
/-!
# The list of properties

Each property of a type is listed once, in the place of its first declaration when the hierarchy is
walked from the root down, with a member that some type of the hierarchy declares for it. Nothing is
missing: the search, which goes the other way, finds a property just if it is listed.

Results:
* `names_properties`: the names in the list are those that are declared, each once.
* `mem_properties`: where a listed property comes from.
* `describeProperties_lists`: what the list of properties of a type has, and in which order.
-/
namespace EntityQuery

/-! ## Members that stand for properties -/

namespace Member

/-- The member is neither static nor transient, by modifier or annotation, and has the property name
under the access. -/
structure StandsFor (member : Member) (access : Access) (name : String) : Prop where
  notStatic : member.isStatic = false
  notTransient : member.isTransient = false
  notMarked : member.has "Transient" = false
  named : member.propertyName access = some name

theorem isPersistent_of_propertyName {member : Member} {access : Access} {name : String}
    (h : member.propertyName access = some name) : member.isPersistent = true := by
  unfold propertyName at h
  split at h <;> split at h
  · rename_i hfield
    exact (Bool.and_eq_true_iff.mp hfield).1
  · cases h
  · rename_i haccessor
    exact (Bool.and_eq_true_iff.mp haccessor).1
  · cases h

theorem standsFor_iff {member : Member} {access : Access} {name : String} :
    member.StandsFor access name ↔ member.propertyName access = some name := by
  refine ⟨StandsFor.named, fun h => ?_⟩
  have hpersistent := isPersistent_of_propertyName h
  simp only [isPersistent, Bool.and_eq_true, Bool.not_eq_true'] at hpersistent
  exact ⟨hpersistent.1.1, hpersistent.1.2, hpersistent.2, h⟩

end Member

/-! ## The list of a lineage -/

namespace Lineage

/-- The names of the properties that the types of a lineage declare, from the root down. A name
stands there once for every declaration. -/
def declaredNames (chain : Lineage) (default : Access) : List String :=
  chain.reverse.flatMap fun x => x.2.members.filterMap (·.propertyName (x.2.accessFor default))

theorem map_declaredProperties (default : Access) (ty : TypeId) (t : TypeInfo) :
    (declaredProperties default ty t).map (·.1) =
      t.members.filterMap (·.propertyName (t.accessFor default)) := by
  conv_rhs => rw [← t.map_placedMembers ty]
  rw [declaredProperties, List.map_filterMap, List.filterMap_map]
  congr 1
  funext p
  rw [Option.map_map]
  exact Option.map_id'

variable (types : TypeModel) (chain : Lineage) (default : Access)

theorem names_properties : (chain.properties types default).map (·.name) =
    (OrderedSet.ofList (chain.declaredNames default)).toList := by
  have hpairs : (chain.reverse.flatMap fun x => declaredProperties default x.1 x.2).map (·.1) =
      chain.declaredNames default := by
    rw [List.map_flatMap, declaredNames]
    congr 1
    funext x
    exact map_declaredProperties default x.1 x.2
  rw [← hpairs, ← Keyed.keys_ofPairs, properties, List.map_map]
  rfl

/-- A name is listed just if the search finds a property that is called so. -/
theorem mem_names_iff (name : String) : name ∈ (chain.properties types default).map (·.name) ↔
    ∃ p, chain.findProperty? types name default = some p := by
  have hsame : ((chain.properties types default).find? (·.name == name)).isSome =
      (chain.findProperty? types name default).isSome := by
    rw [find?_properties, findProperty?, Option.isSome_map, Option.isSome_map, isSome_lastMember?]
  rw [← Option.isSome_iff_exists, ← hsame, List.find?_isSome, List.mem_map]
  simp only [beq_iff_eq]

/-- A listed property describes a member that some type of the lineage declares for it. -/
theorem mem_properties {p : Property} (hp : p ∈ chain.properties types default) :
    ∃ x ∈ chain, ∃ member, p.member.owner = x.1 ∧ x.2.members[p.member.index]? = some member ∧
      member.StandsFor (x.2.accessFor default) p.name ∧
      p = .describe types p.name ⟨p.member, member⟩ := by
  obtain ⟨⟨name, placed⟩, hentry, rfl⟩ := List.mem_map.mp hp
  obtain ⟨⟨ty, t⟩, hx, hdeclared⟩ := List.mem_flatMap.mp (Keyed.mem_of_mem_ofPairs hentry)
  obtain ⟨placed', hplaced, hname⟩ := List.mem_filterMap.mp hdeclared
  obtain ⟨name', hname, heq⟩ := Option.map_eq_some_iff.mp hname
  cases heq
  obtain ⟨howner, hmember⟩ := TypeInfo.mem_placedMembers.mp hplaced
  exact ⟨(ty, t), List.mem_reverse.mp hx, placed.member, howner, hmember,
    Member.standsFor_iff.mpr hname, rfl⟩

end Lineage

/-! ## The list of a type -/

namespace TypeModel

/-- An accepted model with a type and all of its supertypes: a model from declarations with any of
its types, or that of a table that passed its check, where no row is missing on the way up. -/
inductive HasHierarchy : TypeModel → TypeId → Prop
  | declared {ds : List Declaration} {m : Declared} (h : Declared.build ds = .ok m) {ty : TypeId}
    (hty : ty ∈ m.toModel.ids) : HasHierarchy m.toModel ty
  | table {t checked : Table} (h : t.checked = .ok checked) {ty : TypeId}
    (hsup : ∀ sup, checked.toModel.isSubtype ty sup = true →
      ∃ info, checked.toModel.info? sup = some info) : HasHierarchy checked.toModel ty

variable {m : TypeModel} {ty : TypeId}

theorem HasHierarchy.lineage_ok (h : m.HasHierarchy ty) : ∃ chain, m.lineage ty = .ok chain := by
  cases h with
  | declared hbuild hty => exact (Declared.build_accepted hbuild).lineage_ok hty
  | table _ hsup => exact lineage_ok_of_known hsup

/-- The list of the properties of a type has different names, which are those that the search finds,
in the order of their first declaration from the root down. Every listed property is that of a member
which stands for it and is declared on a type of the hierarchy. -/
theorem describeProperties_lists (h : m.HasHierarchy ty) (default : Access) :
    ∃ chain listed, m.lineage ty = .ok chain ∧ m.persistentChain ty = .ok (chain.map (·.1)) ∧
      m.describeProperties ty default = .ok listed ∧
      (listed.map (·.name)).Nodup ∧
      (∀ name, name ∈ listed.map (·.name) ↔
        ∃ p, m.findProperty ty name default = .ok (some p)) ∧
      (listed.map (·.name)).Pairwise (fun a b =>
        (chain.declaredNames default).idxOf a < (chain.declaredNames default).idxOf b) ∧
      ∀ p ∈ listed, ∃ x ∈ chain, ∃ member,
        p.member.owner = x.1 ∧ x.2.members[p.member.index]? = some member ∧
        member.StandsFor (x.2.accessFor default) p.name ∧
        p = .describe m p.name ⟨p.member, member⟩ := by
  obtain ⟨chain, hchain⟩ := h.lineage_ok
  have hnames := chain.names_properties m default
  refine ⟨chain, chain.properties m default, hchain, ?_, ?_, ?_, fun name => ?_, ?_,
    fun p hp => ?_⟩
  · rw [persistentChain, hchain]
    rfl
  · rw [describeProperties, hchain]
    rfl
  · rw [hnames]
    exact OrderedSet.nodup _
  · have hfind : m.findProperty ty name default = .ok (chain.findProperty? m name default) := by
      rw [findProperty, hchain]
      rfl
    rw [chain.mem_names_iff m default name, hfind]
    simp only [Except.ok.injEq]
  · rw [hnames]
    exact OrderedSet.ofList_ordered _
  · exact chain.mem_properties m default hp

end TypeModel

/-- A mapped superclass read from its fields, a type that takes no part in persistence, and below it
an entity read through its accessors, which has the name again. -/
def vehicles : List Declaration :=
  let field (name type : String) (isStatic : Bool) (annotations : List Annotation) : Member :=
    ⟨name, .field, ⟨type, []⟩, isStatic, false, annotations⟩
  let accessor (name type : String) : Member := ⟨name, .method 0, ⟨type, []⟩, false, false, []⟩
  [⟨"Vehicle", none, [⟨"MappedSuperclass", []⟩], [field "id" "long" false [⟨"Id", []⟩],
      field "name" "String" false [], field "count" "int" true [],
      field "label" "String" false [⟨"Transient", []⟩]]⟩,
    ⟨"Rented", some "Vehicle", [], [field "rent" "int" false []]⟩,
    ⟨"Car", some "Rented", [⟨"Entity", []⟩, ⟨"Access", [("value", "PROPERTY")]⟩],
      [accessor "getDoors" "int", accessor "getName" "String", field "wheels" "int" false []]⟩]

def vehiclesModel : Declared where
  types := (vehicles.zip [none, some 0, some 1]).map fun (d, superclass) =>
    ⟨d.name, superclass, d.annotations, d.members⟩
  byName := [("Car", 2), ("Rented", 1), ("Vehicle", 0)]
  bySimpleName := [("Car", 2), ("Rented", 1), ("Vehicle", 0)]

theorem build_vehicles : Declared.build vehicles = .ok vehiclesModel := rfl

/-- The name keeps its place and gets the accessor of the entity. -/
theorem describeProperties_lists_vehicles :
    vehiclesModel.toModel.HasHierarchy 2 ∧ ∃ chain listed,
      vehiclesModel.toModel.lineage 2 = .ok chain ∧
      chain.declaredNames .field = ["id", "name", "doors", "name"] ∧
      vehiclesModel.toModel.describeProperties 2 .field = .ok listed ∧
      listed.map (·.name) = ["id", "name", "doors"] ∧
      ∀ p ∈ listed, ∃ x ∈ chain, ∃ member,
        p.member.owner = x.1 ∧ x.2.members[p.member.index]? = some member ∧
        member.StandsFor (x.2.accessFor .field) p.name := by
  have h : vehiclesModel.toModel.HasHierarchy 2 := .declared build_vehicles (by decide +kernel)
  obtain ⟨chain, listed, hchain, -, hlisted, -, -, -, hfrom⟩ :=
    TypeModel.describeProperties_lists h .field
  have hdeclared : (vehiclesModel.toModel.lineage 2).map (·.declaredNames .field) =
      .ok ["id", "name", "doors", "name"] := by decide +kernel
  have hnames : (vehiclesModel.toModel.describeProperties 2 .field).map (·.map (·.name)) =
      .ok ["id", "name", "doors"] := by decide +kernel
  rw [hchain] at hdeclared
  rw [hlisted] at hnames
  refine ⟨h, chain, listed, hchain, Except.ok.inj hdeclared, hlisted, Except.ok.inj hnames,
    fun p hp => ?_⟩
  obtain ⟨x, hx, member, howner, hmember, hstands, -⟩ := hfrom p hp
  exact ⟨x, hx, member, howner, hmember, hstands⟩

end EntityQuery
