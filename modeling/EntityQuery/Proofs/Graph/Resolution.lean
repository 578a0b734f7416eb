import Mathlib
import EntityQuery.Proofs.Graph.Routes
/-!
# Paths by the types that are known

Where entity names differ, a name stands for the same type in every graph. At an association what
the target stands for can be asked, or a known subtype of it; a path resolves if it has a route that
asks nobody else. Whether a graph with fallback finds a type for a path lies between two such
statements: what resolves by the types that are built is found, and what is found resolves by the
types that are built then.

Results:
* `Consistent.is_of_lookup`: a name stands for its type.
* `Resolves.mono`: more known types, more paths.
* `namedType_isSome`, `namedType_resolves`: lookups against resolution.
-/
namespace EntityQuery

namespace TypeModel

/-- An entity of the type `s` can be asked for what is called `name`: it is that, or a known
subtype of it. -/
def Offers (m : TypeModel) (known : TypeId → Prop) (name : String) (s : TypeId) : Prop :=
  ∃ ty, m.findEntityType? name = some ty ∧
    (s = ty ∨ known s ∧ s ≠ ty ∧ m.isSubtype s ty = true)

/-- The path on what is called `name` has a route that crosses known subtypes only. -/
def Resolves (m : TypeModel) (known : TypeId → Prop) (name : String) (path : Path) : Prop :=
  ∃ s t, m.Offers known name s ∧ m.Route (m.Offers known) s path t

variable {m : TypeModel} {known known' : TypeId → Prop}

theorem Offers.mono (h : ∀ s, known s → known' s) {name : String} {s : TypeId}
    (hs : m.Offers known name s) : m.Offers known' name s := by
  obtain ⟨ty, hty, rfl | ⟨hknown, hne, hsub⟩⟩ := hs
  · exact ⟨s, hty, .inl rfl⟩
  · exact ⟨ty, hty, .inr ⟨h s hknown, hne, hsub⟩⟩

theorem Resolves.mono (h : ∀ s, known s → known' s) {name : String} {path : Path}
    (hpath : m.Resolves known name path) : m.Resolves known' name path := by
  obtain ⟨s, t, hs, hroute⟩ := hpath
  exact ⟨s, t, hs.mono h, hroute.mono fun _ _ => Offers.mono h⟩

/-- Only what a name stands for matters. -/
theorem resolves_congr {name name' : String}
    (h : m.findEntityType? name = m.findEntityType? name') (path : Path) :
    m.Resolves known name path ↔ m.Resolves known name' path := by
  unfold Resolves Offers
  rw [h]

end TypeModel

namespace Graph

/-! ## What a name stands for -/

section
variable {m : TypeModel} {g : Graph} (hg : g.Consistent m) (hnames : m.DistinctEntityNames)
include hg hnames

/-- Where entity names differ, the name of an entity stands for its type. -/
theorem Consistent.findEntityType?_name {e : Entity} (he : e ∈ g.entities) :
    m.findEntityType? e.name = some e.typeId := by
  obtain ⟨t, ht, hname⟩ := hg.exists_entityType he
  rw [hname]
  exact TypeModel.findEntityType?_entityName hnames ht

/-- What a name was answered with is what it stands for. -/
theorem Consistent.is_of_lookup {name : String} {answer : Option EntityId}
    (hl : g.byName.lookup name = some answer) : g.Is answer (m.findEntityType? name) := by
  cases answer with
  | none => exact is_none_iff.mpr (hg.missing hl)
  | some id =>
    obtain ⟨e, he, hname⟩ := hg.found hl
    refine is_some_iff.mpr ⟨e.typeId, ?_, builtTypes_getElem? he⟩
    rcases hname with rfl | hfind
    · exact hg.findEntityType?_name hnames (List.mem_of_getElem? he)
    · exact hfind

/-- A name has an answer just if it stands for a type. -/
theorem Consistent.isSome_of_lookup {name : String} {answer : Option EntityId}
    (hl : g.byName.lookup name = some answer) :
    answer.isSome = (m.findEntityType? name).isSome := by
  have his := hg.is_of_lookup hnames hl
  generalize m.findEntityType? name = ty? at his
  cases his <;> rfl

/-- With fallback, subtypes that are built may be asked; without it, none. -/
theorem Asks.offers {fallback : Bool} {target : String} {s : TypeId}
    (h : g.Asks m fallback target s) :
    m.Offers (fun s => fallback = true ∧ s ∈ g.builtTypes) target s := by
  obtain ⟨id, ty, hname, hid, hs⟩ := h
  obtain ⟨ty', hty, hid'⟩ := is_some_iff.mp (hg.is_of_lookup hnames hname)
  cases hid.symm.trans hid'
  refine ⟨ty, hty, ?_⟩
  rcases List.mem_cons.mp hs with rfl | hs
  · exact .inl rfl
  · cases fallback with
    | false => cases hs
    | true =>
      obtain ⟨hbuilt, hsub⟩ := List.mem_filter.mp hs
      exact .inr ⟨⟨rfl, hbuilt⟩, by simpa using hsub⟩

/-- With fallback, all that a resolved name offers among the types built is asked. -/
theorem Consistent.asks_of_offers {known : TypeId → Prop} (hknown : ∀ s, known s → s ∈ g.builtTypes)
    {target : String} {s : TypeId} {answer : Option EntityId}
    (hl : g.byName.lookup target = some answer) (hs : m.Offers known target s) :
    g.Asks m true target s := by
  obtain ⟨ty, hty, hs⟩ := hs
  have his := hg.is_of_lookup hnames hl
  rw [hty] at his
  cases his with
  | some hid =>
    refine ⟨_, ty, hl, hid, ?_⟩
    rcases hs with rfl | ⟨hbuilt, hne, hsub⟩
    · exact List.mem_cons_self
    · exact List.mem_cons_of_mem _ (List.mem_filter.mpr ⟨hknown s hbuilt, by simp [hne, hsub]⟩)

end

/-! ## Lookups against resolution -/

section
variable {m : TypeModel} (hm : m.Accepted) (hnames : m.DistinctEntityNames) {g : Graph}
  (hg : g.Consistent m) {name : String} {path : Path}
include hm hnames hg

/-- What is found resolves by the types that are built then, and without fallback by no others than
those that are named. -/
theorem namedType_resolves {fallback : Bool} (hr : g.Recalls m fallback) {t : PropertyType}
    {g' : Graph} (hrun : namedType m fallback name path g = .ok (some t, g')) :
    m.Resolves (fun s => fallback = true ∧ s ∈ g'.builtTypes) name path := by
  have htraces := (traces_covers hm fallback).namedType name path hrun
  have hg' := htraces.consistent hg
  obtain ⟨id?, k, hname, hrun⟩ := GraphM.bind_eq_ok hrun
  cases id? with
  | none => cases hrun
  | some id =>
    have hlater : k.Keeps g' := (keeps_covers m fallback).propertyType id path hrun
    have hl := hlater.names (resolveEntity_entered hname)
    obtain ⟨ty, hty, hid⟩ := is_some_iff.mp (hg'.is_of_lookup hnames hl)
    have hroute : ∀ {i : EntityId} {s : TypeId}, g'.builtTypes[i]? = some s →
        g'.kept i path = some (some t) →
          m.Route (m.Offers fun s => fallback = true ∧ s ∈ g'.builtTypes) s path t :=
      fun hi hk => ((htraces.recalls hg hr).route hm hg' hi hk).mono
        fun _ _ hasks => hasks.offers hg' hnames
    obtain ⟨i, rfl | ⟨hfallback, hi⟩, hk⟩ := propertyType_found hrun
    · exact ⟨ty, t, ⟨ty, hty, .inl rfl⟩, hroute hid hk⟩
    · obtain ⟨s, hs, hmem⟩ := (hg'.mem_subtypesOf hid).mp hi
      obtain ⟨hbuilt, hsub⟩ := List.mem_filter.mp hmem
      exact ⟨s, t, ⟨ty, hty, .inr ⟨⟨hfallback, hbuilt⟩, by simpa using hsub⟩⟩, hroute hs hk⟩

/-- What resolves by the types that are built is found, whatever is asked before. -/
theorem namedType_isSome (hr : g.Recalls m true) {known : TypeId → Prop}
    (hknown : ∀ s, known s → s ∈ g.builtTypes) (hresolves : m.Resolves known name path)
    {k k' : Graph} {a : Option PropertyType} (hk : g.Traces m true k)
    (hrun : namedType m true name path k = .ok (a, k')) : a.isSome = true := by
  obtain ⟨s, t, hoffer, hroute⟩ := hresolves
  have hasks : ∀ {k k' : Graph} {target : String} {s : TypeId} {answer : Option EntityId},
      g.Traces m true k → m.Offers known target s → resolveEntity m target k = .ok (answer, k') →
        k'.Asks m true target s := by
    intro k k' target s answer hk hs hname
    have hk' := hk.trans (resolveEntity_traces hm true target hname)
    exact (hk'.consistent hg).asks_of_offers hnames
      (fun s hs => hk'.keeps.types.subset (hknown s hs)) (resolveEntity_entered hname) hs
  obtain ⟨id?, k₁, hname, hrun⟩ := GraphM.bind_eq_ok hrun
  obtain ⟨id, ty, hl, hid, hmem⟩ := hasks hk hoffer hname
  cases (resolveEntity_entered hname).symm.trans hl
  exact propertyType_isSome_of_asked hm hg (hk.trans (resolveEntity_traces hm true name hname)) hid
    hmem (fun hk hi hrun => hroute.isSome hm hg hr hasks hk hi hrun) hrun

end

end Graph

end EntityQuery
