import Mathlib
import EntityQuery.Proofs.Graph.Resolution
/-!
# Graphs that answer alike

A graph may hold entities that another does not hold, and still answer every path as the other does:
if nobody is linked to the additional ones, and nothing is kept on them. Where entity names differ,
a lookup on two such graphs gives the same answer and leaves two such graphs, whatever it builds on
the way. A type that is built on one graph only keeps them alike if it is below no other entity
type, or if paths do not fall back.

Results:
* `resolveEntity_grows`: what resolving a name adds.
* `Alike.grow`, `Alike.grow_left`: the same type added on both graphs, and one on the first.
* `exactPropertyType_alike`, `namedType_alike`: lookups on graphs that answer alike.
-/
namespace EntityQuery

namespace TypeModel

/-- The types with one more, unless it is there. -/
def withType (tys : List TypeId) : Option TypeId → List TypeId
  | none => tys
  | some ty => if ty ∈ tys then tys else tys ++ [ty]

theorem withType_of_mem {tys : List TypeId} {ty : TypeId} (h : ty ∈ tys) :
    withType tys (some ty) = tys :=
  if_pos h

theorem withType_of_not_mem {tys : List TypeId} {ty : TypeId} (h : ty ∉ tys) :
    withType tys (some ty) = tys ++ [ty] :=
  if_neg h

theorem mem_withType {tys : List TypeId} {ty? : Option TypeId} {s : TypeId} :
    s ∈ withType tys ty? ↔ s ∈ tys ∨ ty? = some s := by
  cases ty? with
  | none => simp [withType]
  | some ty =>
    by_cases hty : ty ∈ tys
    · rw [withType_of_mem hty]
      exact ⟨.inl, fun h => h.elim id fun hs => Option.some.inj hs ▸ hty⟩
    · simp [withType_of_not_mem hty, eq_comm]

theorem withType_withType (tys : List TypeId) (ty? : Option TypeId) :
    withType (withType tys ty?) ty? = withType tys ty? := by
  cases ty? with
  | none => rfl
  | some ty => exact withType_of_mem (mem_withType.mpr (.inr rfl))

/-- The type is below no other entity type. -/
def IsTop (m : TypeModel) (ty : TypeId) : Prop :=
  ∀ s, m.IsEntityType s → s ≠ ty → m.isSubtype ty s = false

theorem subtypesAsked_concat (m : TypeModel) (fallback : Bool) (tys : List TypeId)
    (ty s : TypeId) : m.subtypesAsked fallback (tys ++ [ty]) s = m.subtypesAsked fallback tys s ++
      if fallback && (ty != s && m.isSubtype ty s) then [ty] else [] := by
  cases fallback with
  | false => rfl
  | true =>
    simp only [subtypesAsked, strictSubtypes, if_true, List.filter_append, List.filter_cons,
      List.filter_nil, Bool.true_and]

/-- Whoever is asked is there. -/
theorem mem_of_mem_subtypesAsked {m : TypeModel} {fallback : Bool} {tys : List TypeId}
    {s ty : TypeId} (h : s ∈ m.subtypesAsked fallback tys ty) : s ∈ tys := by
  cases fallback with
  | false => cases h
  | true => exact (List.mem_filter.mp h).1

end TypeModel

namespace Graph

/-! ## Answers by types -/

/-- The answer kept for a path on the entity of a type. -/
def keptOn (g : Graph) (ty : TypeId) (path : Path) : Option (Option PropertyType) :=
  (g.byType.lookup ty).bind (g.kept · path)

section
variable {m : TypeModel} {g g' : Graph} (hg : g.Consistent m) {id : EntityId} {ty : TypeId}
include hg

theorem Consistent.keptOn_eq (hid : g.builtTypes[id]? = some ty) (path : Path) :
    g.keptOn ty path = g.kept id path := by
  rw [keptOn, hg.byType.mpr hid]
  rfl

theorem Consistent.keptOn_eq_none (hty : ty ∉ g.builtTypes) (path : Path) :
    g.keptOn ty path = none := by
  cases hl : g.byType.lookup ty with
  | none => rw [keptOn, hl]; rfl
  | some id => exact absurd (List.mem_of_getElem? (hg.byType.mp hl)) hty

/-- New entities bring no answers. -/
theorem Consistent.keptOn_extends (hg' : g'.Consistent m) (hext : g.Extends g')
    (hsame : g.SameAnswers 0 g') (ty : TypeId) (path : Path) :
    g'.keptOn ty path = g.keptOn ty path := by
  by_cases hty : ty ∈ g.builtTypes
  · obtain ⟨id, hid⟩ := List.getElem?_of_mem hty
    rw [hg.keptOn_eq hid, hg'.keptOn_eq (hext.getElem? hid)]
    exact hsame id path (Nat.zero_le _)
  · rw [hg.keptOn_eq_none hty]
    by_cases hty' : ty ∈ g'.builtTypes
    · obtain ⟨id, hid⟩ := List.getElem?_of_mem hty'
      rw [hg'.keptOn_eq hid, hsame id path (Nat.zero_le _)]
      cases he : g.entities[id]? with
      | none => rw [kept, he]; rfl
      | some e =>
        -- an old number has an old type
        cases (hext.getElem? (builtTypes_getElem? he)).symm.trans hid
        exact absurd (List.mem_of_getElem? (builtTypes_getElem? he)) hty
    · exact hg'.keptOn_eq_none hty' path

theorem Consistent.keptOn_setPathType (hid : g.builtTypes[id]? = some ty) (path p : Path)
    (a : Option PropertyType) (s : TypeId) : (g.setPathType id path a).keptOn s p =
      if s = ty ∧ p = path then some a else g.keptOn s p := by
  unfold keptOn
  rw [show (g.setPathType id path a).byType = g.byType from rfl]
  cases hl : g.byType.lookup s with
  | none =>
    have hne : s ≠ ty := by
      rintro rfl
      rw [hg.byType.mpr hid] at hl
      cases hl
    simp [hne]
  | some i =>
    have hi := hg.byType.mp hl
    have hlt : i < g.entities.length := by
      rw [← length_builtTypes]
      exact (List.getElem?_eq_some_iff.mp hi).1
    have hsame : id = i ↔ s = ty := by
      constructor
      · rintro rfl
        exact Option.some.inj (hi.symm.trans hid)
      · rintro rfl
        exact hg.eq_of_builtTypes hid hi
    simp only [Option.bind_some, kept_setPathType, hsame, hlt, and_true]

end

/-! ## What is added -/

/-- An entity of the type was added, unless it was there. -/
structure Grows (m : TypeModel) (g g' : Graph) (ty? : Option TypeId) : Prop where
  consistent : g'.Consistent m
  types : g'.builtTypes = TypeModel.withType g.builtTypes ty?
  kept : ∀ ty path, g'.keptOn ty path = g.keptOn ty path

theorem Grows.again {m : TypeModel} {g g₁ g' : Graph} {ty? : Option TypeId}
    (h : g.Grows m g₁ ty?) (h' : g₁.Grows m g' ty?) : g.Grows m g' ty? where
  consistent := h'.consistent
  types := by rw [h'.types, h.types, TypeModel.withType_withType]
  kept := fun ty path => (h'.kept ty path).trans (h.kept ty path)

end Graph

section
variable {m : TypeModel} {g g' : Graph}

theorem entityForType_types (hg : g.Consistent m) {ty : TypeId} {id : EntityId}
    (hrun : entityForType m ty g = .ok (id, g')) :
    g'.builtTypes = TypeModel.withType g.builtTypes (some ty) := by
  by_cases hty : ty ∈ g.builtTypes
  · obtain ⟨i, hi⟩ := List.getElem?_of_mem hty
    cases (entityForType_known (hg.byType.mpr hi)).symm.trans hrun
    exact (TypeModel.withType_of_mem hty).symm
  · rcases entityForType_eq_ok hrun with ⟨hl, -⟩ | ⟨e, hd, -, rfl⟩
    · exact absurd (List.mem_of_getElem? (hg.byType.mp hl)) hty
    · rw [TypeModel.withType_of_not_mem hty, Graph.builtTypes_build,
        (Graph.describeEntity_fields hd).2.1]

/-- Resolving a name adds the type that the name stands for. -/
theorem resolveEntity_grows (hm : m.Accepted) (hnames : m.DistinctEntityNames)
    (hg : g.Consistent m) {name : String} {answer : Option EntityId}
    (hrun : resolveEntity m name g = .ok (answer, g')) :
    g.Grows m g' (m.findEntityType? name) := by
  have hg' := (resolveEntity_traces hm true name hrun).consistent hg
  have hext := (resolveEntity_keeps m name hrun).types
  refine ⟨hg', ?_, hg.keptOn_extends hg' hext (resolveEntity_sameAnswers m name hrun)⟩
  rcases resolveEntity_eq_ok hrun with ⟨hl, rfl⟩ | ⟨-, g₁, rfl, ⟨hf, -, rfl⟩ | ⟨ty, id, hf, -, he⟩⟩
  · have his := hg.is_of_lookup hnames hl
    generalize m.findEntityType? name = ty? at his
    cases his with
    | none => rfl
    | some hid => exact (TypeModel.withType_of_mem (List.mem_of_getElem? hid)).symm
  · rw [hf]
    rfl
  · rw [hf, ← entityForType_types hg he]
    rfl

end

/-! ## Graphs that answer alike -/

/-- On both graphs the same is asked of entities and kept of paths. The first may hold more. -/
structure Graph.Alike (m : TypeModel) (fallback : Bool) (g h : Graph) : Prop where
  consistent : g.Consistent m
  consistent' : h.Consistent m
  types : h.builtTypes ⊆ g.builtTypes
  asked : ∀ {ty : TypeId}, m.IsEntityType ty →
    m.subtypesAsked fallback g.builtTypes ty = m.subtypesAsked fallback h.builtTypes ty
  kept : ∀ ty path, g.keptOn ty path = h.keptOn ty path

namespace Graph.Alike

variable {m : TypeModel} {fallback : Bool} {g h g' h' : Graph} {ty? : Option TypeId}

theorem refl (hg : g.Consistent m) : g.Alike m fallback g :=
  ⟨hg, hg, List.Subset.refl _, fun _ => rfl, fun _ _ => rfl⟩

/-- The same type is added on both graphs. A type that is there on the first only is linked to
nobody. -/
theorem grow (ha : g.Alike m fallback h) (hg : g.Grows m g' ty?) (hh : h.Grows m h' ty?) :
    g'.Alike m fallback h' where
  consistent := hg.consistent
  consistent' := hh.consistent
  types := by
    intro s hs
    rw [hh.types, TypeModel.mem_withType] at hs
    rw [hg.types, TypeModel.mem_withType]
    exact hs.imp_left fun hs => ha.types hs
  asked := by
    intro s hs
    rw [hg.types, hh.types]
    cases ty? with
    | none => exact ha.asked hs
    | some ty =>
      by_cases hty' : ty ∈ h.builtTypes
      · rw [TypeModel.withType_of_mem hty', TypeModel.withType_of_mem (ha.types hty')]
        exact ha.asked hs
      · rw [TypeModel.withType_of_not_mem hty', m.subtypesAsked_concat]
        by_cases hty : ty ∈ g.builtTypes
        · rw [TypeModel.withType_of_mem hty, ha.asked hs, if_neg, List.append_nil]
          intro hlinked
          have hmem : ty ∈ m.subtypesAsked fallback g.builtTypes s := by
            simp only [Bool.and_eq_true] at hlinked
            rw [hlinked.1]
            exact List.mem_filter.mpr ⟨hty, Bool.and_eq_true_iff.mpr hlinked.2⟩
          rw [ha.asked hs] at hmem
          exact hty' (TypeModel.mem_of_mem_subtypesAsked hmem)
        · rw [TypeModel.withType_of_not_mem hty, m.subtypesAsked_concat, ha.asked hs]
  kept := fun ty path => by rw [hg.kept, hh.kept, ha.kept]

/-- A type is added on the first graph that is there on the second, or that nobody asks. -/
theorem grow_left (ha : g.Alike m fallback h) (hg : g.Grows m g' ty?)
    (hty : ∀ ty, ty? = some ty → ty ∈ h.builtTypes ∨ (fallback = true → m.IsTop ty)) :
    g'.Alike m fallback h where
  consistent := hg.consistent
  consistent' := ha.consistent'
  types := by
    intro s hs
    rw [hg.types, TypeModel.mem_withType]
    exact .inl (ha.types hs)
  asked := by
    intro s hs
    rw [hg.types, ← ha.asked hs]
    cases ty? with
    | none => rfl
    | some ty =>
      by_cases hmem : ty ∈ g.builtTypes
      · rw [TypeModel.withType_of_mem hmem]
      · rw [TypeModel.withType_of_not_mem hmem, m.subtypesAsked_concat, if_neg, List.append_nil]
        intro hlinked
        simp only [Bool.and_eq_true, bne_iff_ne] at hlinked
        rcases hty ty rfl with hbuilt | htop
        · exact hmem (ha.types hbuilt)
        · rw [htop hlinked.1 s hs hlinked.2.1.symm] at hlinked
          cases hlinked.2.2
  kept := fun ty path => (hg.kept ty path).trans (ha.kept ty path)

/-- The same answer is kept on both graphs. -/
theorem setPathType (ha : g.Alike m fallback h) {i j : EntityId} {ty : TypeId} {path : Path}
    {a : Option PropertyType} (hi : g.builtTypes[i]? = some ty) (hj : h.builtTypes[j]? = some ty)
    (hg : (g.setPathType i path a).Consistent m) (hh : (h.setPathType j path a).Consistent m) :
    (g.setPathType i path a).Alike m fallback (h.setPathType j path a) where
  consistent := hg
  consistent' := hh
  types := by
    rw [builtTypes_setPathType, builtTypes_setPathType]
    exact ha.types
  asked := fun hs => by
    rw [builtTypes_setPathType, builtTypes_setPathType]
    exact ha.asked hs
  kept := fun s p => by
    rw [ha.consistent.keptOn_setPathType hi, ha.consistent'.keptOn_setPathType hj, ha.kept]

end Graph.Alike

/-! ## Lookups on graphs that answer alike -/

/-- Both graphs have the same entities. -/
def Graph.SameEntities (g g' : Graph) : Prop := g'.entities = g.entities ∧ g'.byType = g.byType

instance : IsPreorder Graph Graph.SameEntities where
  refl _ := ⟨rfl, rfl⟩
  trans _ _ _ h h' := ⟨h'.1.trans h.1, h'.2.trans h.2⟩

theorem pathType_traces {m : TypeModel} (hm : m.Accepted) (fallback : Bool) (path : Path)
    (owner above : String) (ty : TypeId) (access : Access) :
    Moves (Graph.Traces m fallback) (pathType m fallback path owner above ty access) :=
  (traces_covers hm fallback).pathType path owner above ty access

/-- A walk that the type alone decides adds no entity and no answer. -/
theorem TypeModel.Settles.grows {m : TypeModel} (hm : m.Accepted) {fallback : Bool}
    {g g' : Graph} (hg : g.Consistent m) {e : Entity} {id : EntityId}
    (he : g.entities[id]? = some e) {path : Path} {a b : Option PropertyType}
    (hsettles : m.Settles e.typeId path a)
    (hrun : pathType m fallback path e.name "" e.typeId e.access g = .ok (b, g')) :
    g.Grows m g' none := by
  have hg' := (pathType_traces hm fallback path _ _ _ _ hrun).consistent hg
  have hsame : g.SameEntities g' := by
    obtain ⟨name, own, hhead, hend⟩ := hsettles
    cases hhead.symm.trans (hg.entityHead_eq he)
    rw [pathType_eq_walk] at hrun
    rcases hend with ⟨hstop, -⟩ | ⟨p, full, access, hstop, -⟩ <;>
      rw [hstop, liftM_ok_bind] at hrun
    · exact Moves.pure none hrun
    · exact typeOfProperty_moves (componentFor_moves (fun _ _ _ _ => ⟨rfl, rfl⟩) m) _ _ p _ hrun
  refine ⟨hg', congrArg (List.map _) hsame.1, fun ty p => ?_⟩
  unfold Graph.keptOn Graph.kept
  rw [hsame.1, hsame.2]

section
variable {m : TypeModel} (hm : m.Accepted) (hnames : m.DistinctEntityNames) {fallback : Bool}
  {g h g' h' : Graph}

include hm hnames in
/-- Names that stand for the same type are resolved alike. -/
theorem Graph.Alike.resolveEntity (ha : g.Alike m fallback h) {name name' : String}
    (hsame : m.findEntityType? name = m.findEntityType? name') {answer answer' : Option EntityId}
    (hg : EntityQuery.resolveEntity m name g = .ok (answer, g'))
    (hh : EntityQuery.resolveEntity m name' h = .ok (answer', h')) : g'.Alike m fallback h' :=
  ha.grow (resolveEntity_grows hm hnames ha.consistent hg)
    (hsame ▸ resolveEntity_grows hm hnames ha.consistent' hh)

section
variable {path : Path}
  (hexact : ∀ {g h g' h' : Graph} {i j : EntityId} {ty : TypeId} {a b : Option PropertyType},
    g.Alike m fallback h → g.builtTypes[i]? = some ty → h.builtTypes[j]? = some ty →
    exactPropertyType m fallback i path g = .ok (a, g') →
    exactPropertyType m fallback j path h = .ok (b, h') → a = b ∧ g'.Alike m fallback h')
  (ha : g.Alike m fallback h) {a b : Option PropertyType}
include hexact ha

theorem firstAnswer_alike {tys : List TypeId} {is js : List EntityId} (his : g.Are is tys)
    (hjs : h.Are js tys) (hg : firstAnswer (exactPropertyType m fallback · path) is g = .ok (a, g'))
    (hh : firstAnswer (exactPropertyType m fallback · path) js h = .ok (b, h')) :
    a = b ∧ g'.Alike m fallback h' := by
  induction tys generalizing is js g h with
  | nil =>
    cases his
    cases hjs
    cases hg
    cases hh
    exact ⟨rfl, ha⟩
  | cons ty tys ih =>
    obtain ⟨i, is, hi, his', rfl⟩ := List.forall₂_cons_right_iff.mp his
    obtain ⟨j, js, hj, hjs', rfl⟩ := List.forall₂_cons_right_iff.mp hjs
    obtain ⟨own, g₁, hown, hg⟩ := GraphM.bind_eq_ok hg
    obtain ⟨own', h₁, hown', hh⟩ := GraphM.bind_eq_ok hh
    obtain ⟨rfl, ha₁⟩ := hexact ha hi hj hown hown'
    cases own with
    | some t =>
      cases hg
      cases hh
      exact ⟨rfl, ha₁⟩
    | none =>
      exact ih ha₁ (Graph.Are.extends his' (exactPropertyType_keeps m fallback i path hown).types)
        (Graph.Are.extends hjs' (exactPropertyType_keeps m fallback j path hown').types) hg hh

/-- The subtypes that are asked have the same types in the same order. -/
theorem propertyType_alike {i j : EntityId} {ty : TypeId} (hi : g.builtTypes[i]? = some ty)
    (hj : h.builtTypes[j]? = some ty) (hg : propertyType m fallback i path g = .ok (a, g'))
    (hh : propertyType m fallback j path h = .ok (b, h')) : a = b ∧ g'.Alike m fallback h' := by
  obtain ⟨own, g₁, hown, hrest⟩ := withSubtypes_eq_ok hg
  obtain ⟨own', h₁, hown', hrest'⟩ := withSubtypes_eq_ok hh
  obtain ⟨rfl, ha₁⟩ := hexact ha hi hj hown hown'
  rcases hrest with ⟨rfl, rfl, hdone⟩ | ⟨rfl, rfl, hfirst⟩ <;>
    rcases hrest' with ⟨rfl, rfl, hdone'⟩ | ⟨hnone, hfallback, hfirst'⟩
  · exact ⟨rfl, ha₁⟩
  · simp [hnone, hfallback] at hdone
  · simp at hdone'
  · have hi₁ := (exactPropertyType_keeps m true i path hown).types.getElem? hi
    have hj₁ := (exactPropertyType_keeps m true j path hown').types.getElem? hj
    have hentity := ha₁.consistent.entityType ty (List.mem_of_getElem? hi₁)
    rw [ha₁.consistent.subtypesOf_eq hi₁] at hfirst
    rw [ha₁.consistent'.subtypesOf_eq hj₁] at hfirst'
    have hasked : m.strictSubtypes g₁.builtTypes ty = m.strictSubtypes h₁.builtTypes ty :=
      ha₁.asked hentity
    exact firstAnswer_alike hexact ha₁ (hasked ▸ g₁.are_subtypesAmong m ty)
      (h₁.are_subtypesAmong m ty) hfirst hfirst'

include hm hnames in
theorem namedType_alike_of {name : String} (hg : namedType m fallback name path g = .ok (a, g'))
    (hh : namedType m fallback name path h = .ok (b, h')) : a = b ∧ g'.Alike m fallback h' := by
  obtain ⟨i?, g₁, hname, hg⟩ := GraphM.bind_eq_ok hg
  obtain ⟨j?, h₁, hname', hh⟩ := GraphM.bind_eq_ok hh
  have ha₁ := ha.resolveEntity hm hnames rfl hname hname'
  have his := ha₁.consistent.is_of_lookup hnames (resolveEntity_entered hname)
  have hjs := ha₁.consistent'.is_of_lookup hnames (resolveEntity_entered hname')
  generalize m.findEntityType? name = ty? at his hjs
  cases his with
  | none =>
    cases hjs
    cases hg
    cases hh
    exact ⟨rfl, ha₁⟩
  | some hi =>
    cases hjs with
    | some hj => exact propertyType_alike hexact ha₁ hi hj hg hh

end

include hm in
/-- A path is walked alike from entities of one type, if what is left of it behind an association is
answered alike. -/
theorem pathType_alike (ha : g.Alike m fallback h) {i j : EntityId} {e f : Entity} {path : Path}
    {a b : Option PropertyType}
    (hshorter : ∀ {rest : Path}, rest.length < path.length → ∀ {name : String} {g' h' : Graph}
      {a b : Option PropertyType}, namedType m fallback name rest g = .ok (a, g') →
      namedType m fallback name rest h = .ok (b, h') → a = b ∧ g'.Alike m fallback h')
    (he : g.entities[i]? = some e) (hf : h.entities[j]? = some f) (hty : f.typeId = e.typeId)
    (hg : pathType m fallback path e.name "" e.typeId e.access g = .ok (a, g'))
    (hh : pathType m fallback path f.name "" f.typeId f.access h = .ok (b, h')) :
    a = b ∧ g'.Alike m fallback h' := by
  have hend := pathType_eq_ok hm ha.consistent he hg
  have hend' := pathType_eq_ok hm ha.consistent' hf hh
  rw [hty] at hend'
  rcases hend with hs | ⟨target, rest, honward, hnamed⟩ <;>
    rcases hend' with hs' | ⟨target', rest', honward', hnamed'⟩
  · exact ⟨hs.unique hs', ha.grow (hs.grows hm ha.consistent he hg)
      (TypeModel.Settles.grows hm ha.consistent' hf (hty ▸ hs') hh)⟩
  · exact absurd honward' hs.not_onward
  · exact absurd honward hs'.not_onward
  · obtain ⟨rfl, rfl⟩ := honward.unique honward'
    exact hshorter honward.length_lt.2 hnamed hnamed'

include hm hnames

/-- By induction on the length of the path: what is kept is the same, and what is left of the path
behind an association is answered alike. -/
theorem exactPropertyType_alike (ha : g.Alike m fallback h) {i j : EntityId} {ty : TypeId}
    {path : Path} {a b : Option PropertyType} (hi : g.builtTypes[i]? = some ty)
    (hj : h.builtTypes[j]? = some ty)
    (hg : exactPropertyType m fallback i path g = .ok (a, g'))
    (hh : exactPropertyType m fallback j path h = .ok (b, h')) :
    a = b ∧ g'.Alike m fallback h' := by
  induction hn : path.length using Nat.strong_induction_on
    generalizing path g h g' h' i j ty a b with
  | _ n ih =>
    subst hn
    have hkept := ha.kept ty path
    rw [ha.consistent.keptOn_eq hi, ha.consistent'.keptOn_eq hj] at hkept
    rcases exactly_eq_ok hg with ⟨hk, rfl⟩ | ⟨hk, e, g₁, he, hw, rfl⟩ <;>
      rcases exactly_eq_ok hh with ⟨hk', rfl⟩ | ⟨hk', f, h₁, hf, hw', rfl⟩ <;>
      rw [hk, hk'] at hkept
    · exact ⟨Option.some.inj hkept, ha⟩
    · cases hkept
    · cases hkept
    · obtain ⟨_, he', rfl⟩ := Graph.exists_of_builtTypes hi
      cases he.symm.trans he'
      obtain ⟨_, hf', hty⟩ := Graph.exists_of_builtTypes hj
      cases hf.symm.trans hf'
      obtain ⟨rfl, ha₁⟩ := pathType_alike hm ha
        (fun hlt => namedType_alike_of hm hnames (fun ha hi hj hg hh =>
          ih _ hlt ha hi hj hg hh rfl) ha) he hf hty hw hw'
      have hg' := ((traces_covers hm fallback).exactPropertyType i path hg).consistent ha.consistent
      have hh' := ((traces_covers hm fallback).exactPropertyType j path hh).consistent
        ha.consistent'
      have hi₁ := (pathType_keeps m fallback path _ _ _ _ hw).types.getElem? hi
      have hj₁ := (pathType_keeps m fallback path _ _ _ _ hw').types.getElem? hj
      refine ⟨rfl, ?_⟩
      by_cases hkeep : (a.isSome || decide (path.length ≤ 1)) = true
      · rw [if_pos hkeep] at hg' hh'
        rw [if_pos hkeep, if_pos hkeep]
        exact ha₁.setPathType hi₁ hj₁ hg' hh'
      · rw [if_neg hkeep, if_neg hkeep]
        exact ha₁

theorem namedType_alike (ha : g.Alike m fallback h) {name : String} {path : Path}
    {a b : Option PropertyType} (hg : namedType m fallback name path g = .ok (a, g'))
    (hh : namedType m fallback name path h = .ok (b, h')) : a = b ∧ g'.Alike m fallback h' :=
  namedType_alike_of hm hnames
    (fun ha hi hj hg hh => exactPropertyType_alike hm hnames ha hi hj hg hh) ha hg hh

end

end EntityQuery
