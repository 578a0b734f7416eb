import Mathlib
import EntityQuery.Proofs.Graph.Complete
import EntityQuery.Proofs.Graph.Routes
/-!
# Twin graphs

Two graphs with the same entities and names may keep different answers. A lookup of a path on one of
them may be answered at once, where on the other entities are built first; but it is answered on
both or on neither, and where it is answered on neither, the same entities are built on both.

Results:
* `Twin.resolveEntity`: a name stands for the same entity on twins, which stay twins.
* `exactPropertyType_matches`: a path is answered on both twins or on neither.
* `twin_forgotten`: a graph and the same graph without its answers are twins.
-/
namespace EntityQuery

namespace Graph

/-- Graphs with the same entities and names. What either keeps was found by a walk; what `h` keeps
are failures. -/
structure Twin (m : TypeModel) (fallback : Bool) (g h : Graph) : Prop where
  consistent : g.Consistent m
  consistent' : h.Consistent m
  recalls : g.Recalls m fallback
  recalls' : h.Recalls m fallback
  types : h.builtTypes = g.builtTypes
  names : ∀ name, h.byName.lookup name = g.byName.lookup name
  failures : ∀ (id : EntityId) (path : Path) (t : PropertyType), h.kept id path ≠ some (some t)

/-- The outcomes of a lookup on twins. Where there is an answer, more may have been built for it on
the second graph than on the first. -/
structure Matches (m : TypeModel) (fallback : Bool) (a b : Option PropertyType) (g h : Graph) :
    Prop where
  isSome : a.isSome = b.isSome
  within : g.Within h
  twin : b = none → g.Twin m fallback h

variable {m : TypeModel} {fallback : Bool} {g h g' h' : Graph}

theorem Twin.within (ht : g.Twin m fallback h) : g.Within h where
  types := by
    unfold Extends
    rw [ht.types]
  names := fun hl => (ht.names _).trans hl

theorem Twin.getElem? (ht : g.Twin m fallback h) {id : EntityId} {ty : TypeId}
    (hid : g.builtTypes[id]? = some ty) : h.builtTypes[id]? = some ty := by
  rw [ht.types, hid]

theorem Twin.subtypesOf_eq (ht : g.Twin m fallback h) {id : EntityId} {ty : TypeId}
    (hid : g.builtTypes[id]? = some ty) : h.subtypesOf id = g.subtypesOf id := by
  rw [ht.consistent'.subtypesOf_eq (ht.getElem? hid), ht.consistent.subtypesOf_eq hid, ht.types]

theorem Twin.after (ht : g.Twin m fallback h) (hg : g.Traces m fallback g')
    (hh : h.Traces m fallback h') (htypes : h'.builtTypes = g'.builtTypes)
    (hnames : ∀ name, h'.byName.lookup name = g'.byName.lookup name)
    (hfailures : ∀ (id : EntityId) (path : Path) (t : PropertyType),
      h'.kept id path ≠ some (some t)) : g'.Twin m fallback h' where
  consistent := hg.consistent ht.consistent
  consistent' := hh.consistent ht.consistent'
  recalls := hg.recalls ht.consistent ht.recalls
  recalls' := hh.recalls ht.consistent' ht.recalls'
  types := htypes
  names := hnames
  failures := hfailures

/-! ## Names -/

theorem Twin.entityForType (ht : g.Twin m fallback h) {ty : TypeId} {i j : EntityId}
    (hg : EntityQuery.entityForType m ty g = .ok (i, g'))
    (hh : EntityQuery.entityForType m ty h = .ok (j, h')) :
    j = i ∧ h'.builtTypes = g'.builtTypes ∧
      ∀ name, h'.byName.lookup name = g'.byName.lookup name := by
  have hlookup : h.byType.lookup ty = g.byType.lookup ty :=
    Option.ext fun id => by rw [ht.consistent'.byType, ht.consistent.byType, ht.types]
  have hlen : h.entities.length = g.entities.length := by
    rw [← length_builtTypes, ht.types, length_builtTypes]
  cases hl : g.byType.lookup ty with
  | some id =>
    cases (entityForType_known hl).symm.trans hg
    cases (entityForType_known (hlookup.trans hl)).symm.trans hh
    exact ⟨rfl, ht.types, ht.names⟩
  | none =>
    rcases entityForType_eq_ok hg with ⟨hknown, -⟩ | ⟨e, hd, rfl, rfl⟩
    · rw [hl] at hknown
      cases hknown
    · cases (entityForType_new (hlookup.trans hl) (hlen ▸ hd)).symm.trans hh
      refine ⟨rfl, by rw [builtTypes_build, builtTypes_build, ht.types], fun name => ?_⟩
      rw [lookup_build, lookup_build, ht.names]

theorem Twin.resolveEntity (ht : g.Twin m fallback h) (hm : m.Accepted) {name : String}
    {answer answer' : Option EntityId} (hg : EntityQuery.resolveEntity m name g = .ok (answer, g'))
    (hh : EntityQuery.resolveEntity m name h = .ok (answer', h')) :
    answer' = answer ∧ g'.Twin m fallback h' := by
  have hafter := ht.after (resolveEntity_traces hm fallback name hg)
    (resolveEntity_traces hm fallback name hh)
  have hfailures : ∀ (id : EntityId) (path : Path) (t : PropertyType),
      h'.kept id path ≠ some (some t) := fun id path t => by
    rw [resolveEntity_sameAnswers m name hh id path (Nat.zero_le _)]
    exact ht.failures id path t
  have hnames := ht.names name
  rcases resolveEntity_eq_ok hg with ⟨hl, rfl⟩ | ⟨hl, g₁, rfl, hrest⟩ <;>
    rcases resolveEntity_eq_ok hh with ⟨hl', rfl⟩ | ⟨hl', h₁, rfl, hrest'⟩ <;>
    rw [hl, hl'] at hnames
  · exact ⟨Option.some.inj hnames, ht⟩
  · cases hnames
  · cases hnames
  · rcases hrest with ⟨hf, rfl, rfl⟩ | ⟨ty, i, hf, rfl, he⟩ <;>
      rcases hrest' with ⟨hf', rfl, rfl⟩ | ⟨ty', j, hf', rfl, he'⟩ <;>
      cases hf.symm.trans hf'
    · refine ⟨rfl, hafter ht.types (fun n => ?_) hfailures⟩
      rw [lookup_setName, lookup_setName, ht.names]
    · obtain ⟨rfl, htypes, hnames'⟩ := ht.entityForType he he'
      refine ⟨rfl, hafter htypes (fun n => ?_) hfailures⟩
      rw [lookup_setName, lookup_setName, hnames']

end Graph

/-! ## Paths that the type alone decides -/

/-- Both graphs have the same entities and names. -/
def Graph.SameNames (g g' : Graph) : Prop := g'.builtTypes = g.builtTypes ∧ g'.byName = g.byName

instance : IsPreorder Graph Graph.SameNames where
  refl _ := ⟨rfl, rfl⟩
  trans _ _ _ h h' := ⟨h'.1.trans h.1, h'.2.trans h.2⟩

section
variable {m : TypeModel} {fallback : Bool} {g g' : Graph} {id : EntityId} {ty : TypeId}
  {path : Path} {a b : Option PropertyType}

theorem TypeModel.Settles.sameNames (hsettles : m.Settles ty path a) (hg : g.Consistent m)
    (hid : g.builtTypes[id]? = some ty)
    (hrun : exactPropertyType m fallback id path g = .ok (b, g')) : g.SameNames g' := by
  rcases exactly_eq_ok hrun with ⟨-, rfl⟩ | ⟨-, e, g₁, he, hw, rfl⟩
  · exact refl_of Graph.SameNames g'
  · obtain ⟨f, hf, rfl⟩ := Graph.exists_of_builtTypes hid
    cases he.symm.trans hf
    have hwalk : g.SameNames g₁ := by
      obtain ⟨name, own, hhead, hend⟩ := hsettles
      cases hhead.symm.trans (hg.entityHead_eq he)
      rw [pathType_eq_walk] at hw
      rcases hend with ⟨hstop, -⟩ | ⟨p, full, access, hstop, -⟩ <;>
        rw [hstop, liftM_ok_bind] at hw
      · exact Moves.pure none hw
      · exact typeOfProperty_moves (componentFor_moves (fun _ _ _ _ => ⟨rfl, rfl⟩) m) _ _ p _ hw
    split
    · exact ⟨(Graph.builtTypes_setPathType _ _ _ _).trans hwalk.1, hwalk.2⟩
    · exact hwalk

/-- A path that cannot be found is found nowhere, and only that is entered. -/
theorem TypeModel.Settles.failures (hsettles : m.Settles ty path none) (hg : g.Consistent m)
    (hid : g.builtTypes[id]? = some ty) (hkept : ∀ t, g.kept id path ≠ some (some t))
    (hrun : exactPropertyType m fallback id path g = .ok (b, g')) :
    b = none ∧ ∀ (i : EntityId) (p : Path) (t : PropertyType), g'.kept i p = some (some t) →
      g.kept i p = some (some t) := by
  rcases exactly_eq_ok hrun with ⟨hk, rfl⟩ | ⟨-, e, g₁, he, hw, rfl⟩
  · cases b with
    | none => exact ⟨rfl, fun _ _ _ h => h⟩
    | some t => exact absurd hk (hkept t)
  · obtain ⟨f, hf, rfl⟩ := Graph.exists_of_builtTypes hid
    cases he.symm.trans hf
    cases (hsettles.pathType_none (hg.entityHead_eq he)).symm.trans hw
    refine ⟨rfl, fun i p t h => ?_⟩
    split at h
    · rw [Graph.kept_setPathType] at h
      split at h
      · cases h
      · exact h
    · exact h

end

/-! ## Lookups on twins -/

section
variable {m : TypeModel} (hm : m.Accepted) {fallback : Bool} {path : Path}
  (hexact : ∀ {g h g' h' : Graph} {id : EntityId} {a b : Option PropertyType},
    g.Twin m fallback h → exactPropertyType m fallback id path g = .ok (a, g') →
    exactPropertyType m fallback id path h = .ok (b, h') → g'.Matches m fallback a b h')
  {g h g' h' : Graph} {a b : Option PropertyType} (ht : g.Twin m fallback h)
include hexact ht

theorem firstAnswer_matches {ids : List EntityId}
    (hg : firstAnswer (exactPropertyType m fallback · path) ids g = .ok (a, g'))
    (hh : firstAnswer (exactPropertyType m fallback · path) ids h = .ok (b, h')) :
    Graph.Matches m fallback a b g' h' := by
  induction ids generalizing g h with
  | nil =>
    cases hg
    cases hh
    exact ⟨rfl, ht.within, fun _ => ht⟩
  | cons id ids ih =>
    obtain ⟨own, g₁, hown, hg⟩ := GraphM.bind_eq_ok hg
    obtain ⟨own', h₁, hown', hh⟩ := GraphM.bind_eq_ok hh
    have hmatch := hexact ht hown hown'
    cases own with
    | some t =>
      cases own' with
      | none => cases hmatch.isSome
      | some t' =>
        cases hg
        cases hh
        exact hmatch
    | none =>
      cases own' with
      | some t' => cases hmatch.isSome
      | none => exact ih (hmatch.twin rfl) hg hh

/-- The subtypes asked are the same: where the entity itself has no answer, the graphs are still
twins when the links are read. -/
theorem propertyType_matches {id : EntityId}
    (hg : propertyType m fallback id path g = .ok (a, g'))
    (hh : propertyType m fallback id path h = .ok (b, h')) : g'.Matches m fallback a b h' := by
  obtain ⟨own, g₁, hown, hrest⟩ := withSubtypes_eq_ok hg
  obtain ⟨own', h₁, hown', hrest'⟩ := withSubtypes_eq_ok hh
  have hmatch := hexact ht hown hown'
  have hisSome := hmatch.isSome
  rcases hrest with ⟨rfl, rfl, hdone⟩ | ⟨rfl, hfallback, hfirst⟩ <;>
    rcases hrest' with ⟨rfl, rfl, hdone'⟩ | ⟨rfl, hfallback', hfirst'⟩
  · exact hmatch
  · rw [hisSome, hfallback'] at hdone
    simp at hdone
  · rw [← hisSome, hfallback] at hdone'
    simp at hdone'
  · obtain ⟨ty, hty⟩ := exactPropertyType_valid hown
    have hext := (exactPropertyType_keeps m fallback id path hown).types
    have ht₁ := hmatch.twin rfl
    rw [ht₁.subtypesOf_eq (hext.getElem? hty)] at hfirst'
    exact firstAnswer_matches hexact ht₁ hfirst hfirst'

include hm in
theorem namedType_matches {name : String}
    (hg : namedType m fallback name path g = .ok (a, g'))
    (hh : namedType m fallback name path h = .ok (b, h')) : g'.Matches m fallback a b h' := by
  obtain ⟨id?, g₁, hname, hg⟩ := GraphM.bind_eq_ok hg
  obtain ⟨id?', h₁, hname', hh⟩ := GraphM.bind_eq_ok hh
  obtain ⟨rfl, ht₁⟩ := ht.resolveEntity hm hname hname'
  cases id?' with
  | none =>
    cases hg
    cases hh
    exact ⟨rfl, ht₁.within, fun _ => ht₁⟩
  | some id => exact propertyType_matches hexact ht₁ hg hh

end

section
variable {m : TypeModel} (hm : m.Accepted) {fallback : Bool} {g h g' h' : Graph} {id : EntityId}
  {ty : TypeId} {path : Path} {a b : Option PropertyType} (ht : g.Twin m fallback h)
  (hid : g.builtTypes[id]? = some ty)
  (hg : exactPropertyType m fallback id path g = .ok (a, g'))
  (hh : exactPropertyType m fallback id path h = .ok (b, h'))
include hm ht hid hg hh

/-- A path that the type alone decides is found on both graphs or on neither. -/
theorem TypeModel.Settles.matches_of (ha : m.Settles ty path a) (hb : m.Settles ty path b) :
    g'.Matches m fallback a b h' := by
  obtain rfl := ha.unique hb
  obtain ⟨htypes, hnames⟩ := ha.sameNames ht.consistent hid hg
  obtain ⟨htypes', hnames'⟩ := hb.sameNames ht.consistent' (ht.getElem? hid) hh
  have hsame : h'.builtTypes = g'.builtTypes := by rw [htypes', ht.types, htypes]
  have hlookup : ∀ name, h'.byName.lookup name = g'.byName.lookup name := fun name => by
    rw [hnames', ht.names, hnames]
  refine ⟨rfl, ⟨?_, fun hl => (hlookup _).trans hl⟩, fun hnone => ?_⟩
  · unfold Graph.Extends
    rw [hsame]
  · subst hnone
    have hfailures := (hb.failures ht.consistent' (ht.getElem? hid) (ht.failures id path) hh).2
    exact ht.after ((traces_covers hm fallback).exactPropertyType id path hg)
      ((traces_covers hm fallback).exactPropertyType id path hh) hsame hlookup
      fun i p t hk => ht.failures i p t (hfailures i p t hk)

/-- What was found on the first graph before lies on a route, so it is found on the second. -/
theorem Graph.Twin.matches_of_route {t : PropertyType} (ha : a = some t) (hg' : g' = g)
    (hroute : m.Route (g.Asks m fallback) ty path t) : g'.Matches m fallback a b h' := by
  have hkeeps := exactPropertyType_keeps m fallback id path hh
  have hsome : b.isSome = true := by
    refine hroute.isSome hm ht.consistent' ht.recalls' (fun hk hasks hname => ?_)
      (.refl h) (ht.getElem? hid) hh
    exact hasks.within
      (ht.within.trans (hk.keeps.trans (resolveEntity_keeps m _ hname)).within)
  subst hg'
  refine ⟨by rw [ha, hsome]; rfl, ht.within.trans hkeeps.within, fun hnone => ?_⟩
  rw [hnone] at hsome
  cases hsome

end

/-- A path is answered on both of two twins or on neither. By induction on its length: the answers
that others give to the rest of the path match. -/
theorem exactPropertyType_matches {m : TypeModel} (hm : m.Accepted) {fallback : Bool} {path : Path}
    {g h g' h' : Graph} {id : EntityId} {a b : Option PropertyType} (ht : g.Twin m fallback h)
    (hg : exactPropertyType m fallback id path g = .ok (a, g'))
    (hh : exactPropertyType m fallback id path h = .ok (b, h')) :
    g'.Matches m fallback a b h' := by
  induction hn : path.length using Nat.strong_induction_on
    generalizing path g h g' h' id a b with
  | _ n ih =>
    subst hn
    obtain ⟨ty, hid⟩ := exactPropertyType_valid hg
    have hid' := ht.getElem? hid
    -- a failure that either keeps is decided by the type
    have hdead : m.Settles ty path none → g'.Matches m fallback a b h' := by
      intro hnone
      have hkept : ∀ t, g.kept id path ≠ some (some t) := fun t hk =>
        (ht.recalls.route hm ht.consistent hid hk).not_settles_none hnone
      obtain ⟨rfl, -⟩ := hnone.failures ht.consistent hid hkept hg
      obtain ⟨rfl, -⟩ := hnone.failures ht.consistent' hid' (ht.failures id path) hh
      exact hnone.matches_of hm ht hid hg hh hnone
    rcases exactly_eq_ok hg with ⟨hk, hg'⟩ | ⟨-, e, g₁, he, hw, hg'⟩
    · cases a with
      | none => exact hdead (ht.recalls.settles_none hm hid hk)
      | some t =>
        exact ht.matches_of_route hm hid hg hh rfl hg'
          (ht.recalls.route hm ht.consistent hid hk)
    · rcases exactly_eq_ok hh with ⟨hk, -⟩ | ⟨-, f, h₁, hf, hw', hh'⟩
      · cases b with
        | none => exact hdead (ht.recalls'.settles_none hm hid' hk)
        | some t => exact absurd hk (ht.failures id path t)
      · obtain ⟨_, he', rfl⟩ := Graph.exists_of_builtTypes hid
        cases he.symm.trans he'
        obtain ⟨_, hf', hty⟩ := Graph.exists_of_builtTypes hid'
        cases hf.symm.trans hf'
        have hend := pathType_eq_ok hm ht.consistent he hw
        have hend' := pathType_eq_ok hm ht.consistent' hf hw'
        rw [hty] at hend'
        rcases hend with ha | ⟨target, rest, honward, hnamed⟩ <;>
          rcases hend' with hb | ⟨target', rest', honward', hnamed'⟩
        · exact ha.matches_of hm ht hid hg hh hb
        · exact absurd honward' ha.not_onward
        · exact absurd honward hb.not_onward
        · obtain ⟨rfl, rfl⟩ := honward.unique honward'
          obtain ⟨hpos, hlt⟩ := honward.length_lt
          have hmatch := namedType_matches hm
            (fun ht hg hh => ih rest.length hlt ht hg hh rfl) ht hnamed hnamed'
          have hlong : ¬ path.length ≤ 1 := by omega
          cases a with
          | none =>
            cases b with
            | some _ => cases hmatch.isSome
            | none =>
              rw [hg', hh', if_neg (by simpa using hlong), if_neg (by simpa using hlong)]
              exact hmatch
          | some t =>
            cases b with
            | none => cases hmatch.isSome
            | some t' =>
              rw [hg', hh', if_pos (by simp), if_pos (by simp)]
              exact ⟨rfl, hmatch.within.setPathType .., fun hnone => by cases hnone⟩

/-! ## Graphs that forget -/

/-- The entities and links of a graph, with no answers to paths and no collections. -/
def Graph.forgotten (g : Graph) : Graph :=
  { g with entities := g.entities.map Entity.skeleton, collections := [] }

namespace Graph

theorem forgotten_getElem? {g : Graph} {id : EntityId} {e : Entity}
    (h : g.forgotten.entities[id]? = some e) :
    ∃ old, g.entities[id]? = some old ∧ e = old.skeleton := by
  rw [forgotten, List.getElem?_map, Option.map_eq_some_iff] at h
  obtain ⟨old, hold, rfl⟩ := h
  exact ⟨old, hold, rfl⟩

theorem builtTypes_forgotten (g : Graph) : g.forgotten.builtTypes = g.builtTypes := by
  rw [builtTypes, forgotten, List.map_map]
  rfl

theorem kept_forgotten (g : Graph) (id : EntityId) (path : Path) :
    g.forgotten.kept id path = none := by
  cases hid : g.forgotten.entities[id]? with
  | none =>
    rw [kept, hid]
    rfl
  | some e =>
    obtain ⟨old, -, rfl⟩ := forgotten_getElem? hid
    rw [kept_eq hid]
    rfl

theorem forgotten_consistent {m : TypeModel} {g : Graph} (hg : g.Consistent m) :
    g.forgotten.Consistent m := by
  have hmem : ∀ e ∈ g.forgotten.entities, ∃ old ∈ g.entities, e = old.skeleton := by
    intro e he
    obtain ⟨i, hi⟩ := List.getElem?_of_mem he
    obtain ⟨old, hold, rfl⟩ := forgotten_getElem? hi
    exact ⟨old, List.mem_of_getElem? hold, rfl⟩
  have htypes := builtTypes_forgotten g
  refine { hg with id_eq := ?_, described := ?_, entityType := htypes ▸ hg.entityType,
                   distinct := htypes ▸ hg.distinct, byType := htypes ▸ hg.byType, links := ?_,
                   found := ?_, named := ?_, answers := ?_, collections := ?_ }
  · intro id e he
    obtain ⟨old, hold, rfl⟩ := forgotten_getElem? he
    exact (hg.id_eq hold :)
  · intro e he
    obtain ⟨old, hold, rfl⟩ := hmem e he
    exact (hg.described old hold :)
  · intro e he
    obtain ⟨old, hold, rfl⟩ := hmem e he
    rw [htypes]
    exact (hg.links old hold :)
  · intro name id hl
    obtain ⟨e, he, h⟩ := hg.found hl
    exact ⟨e.skeleton, by rw [forgotten, List.getElem?_map, he]; rfl, h⟩
  · intro e he
    obtain ⟨old, hold, rfl⟩ := hmem e he
    exact (hg.named old hold :)
  · intro e he path t hl
    obtain ⟨old, -, rfl⟩ := hmem e he
    cases hl
  · intro role c hl
    cases hl

theorem twin_forgotten {m : TypeModel} {fallback : Bool} {g : Graph} (hg : g.Consistent m)
    (hr : g.Recalls m fallback) : g.Twin m fallback g.forgotten where
  consistent := hg
  consistent' := forgotten_consistent hg
  recalls := hr
  recalls' := recalls_of_unasked m fallback (kept_forgotten g)
  types := builtTypes_forgotten g
  names := fun _ => rfl
  failures := fun id path t h => by
    rw [kept_forgotten] at h
    cases h

end Graph

end EntityQuery
