import Mathlib
import EntityQuery.Proofs.Graph.Origins
import EntityQuery.Proofs.Graph.Retention
/-!
# Routes of a path

A path crosses associations, and at each of them the target is asked for the rest of the path, or
one of its subtypes is. A route is one way to choose who is asked so that the path ends at a
property. Which of the routes a lookup takes depends on what was built and asked before it; whether
there is one does not.

Results:
* `Recalls.route`, `exactPropertyType_route`: what is found, or was found once, lies on a route.
* `Route.isSome`: where there is a route, something is found.
* `Route.unique`: where nobody can be chosen, there is one route.
-/
namespace EntityQuery

namespace TypeModel

/-- The walk of the path on an entity of the type comes to an association, with the rest of the path
still to go. -/
def Onward (m : TypeModel) (ty : TypeId) (path : Path) (target : String) (rest : Path) : Prop :=
  ∃ name own, m.entityHead ty = .ok (name, own) ∧
    m.walk path "" ty own = .ok (.onward target rest)

/-- The walk of the path ends at a property of the entity itself, or nowhere: the answer is one of
the type alone. -/
def Settles (m : TypeModel) (ty : TypeId) (path : Path) (a : Option PropertyType) : Prop :=
  ∃ name own, m.entityHead ty = .ok (name, own) ∧
    ((m.walk path "" ty own = .ok .nowhere ∧ a = none) ∨
      ∃ p full access, m.walk path "" ty own = .ok (.found p full access) ∧
        m.typeOf name full p access = .ok a)

/-- A route of the path from an entity of the type to a property; `asks target s` says that an
entity of the type `s` may be asked where an association has that target. -/
inductive Route (m : TypeModel) (asks : String → TypeId → Prop) :
    TypeId → Path → PropertyType → Prop
  | property {ty : TypeId} {path : Path} {t : PropertyType} (h : m.Settles ty path (some t)) :
    Route m asks ty path t
  | association {ty s : TypeId} {path rest : Path} {target : String} {t : PropertyType}
    (h : m.Onward ty path target rest) (hs : asks target s) (route : Route m asks s rest t) :
    Route m asks ty path t

variable {m : TypeModel}

theorem Onward.unique {ty : TypeId} {path rest rest' : Path} {target target' : String}
    (h : m.Onward ty path target rest) (h' : m.Onward ty path target' rest') :
    target = target' ∧ rest = rest' := by
  obtain ⟨name, own, hhead, hwalk⟩ := h
  obtain ⟨name', own', hhead', hwalk'⟩ := h'
  cases hhead.symm.trans hhead'
  cases hwalk.symm.trans hwalk'
  exact ⟨rfl, rfl⟩

theorem Onward.length_lt {ty : TypeId} {path rest : Path} {target : String}
    (h : m.Onward ty path target rest) : 0 < rest.length ∧ rest.length < path.length := by
  obtain ⟨name, own, -, hwalk⟩ := h
  obtain ⟨hne, -, hlt⟩ := walk_onward hwalk
  exact ⟨List.length_pos_iff.mpr hne, hlt⟩

theorem Settles.unique {ty : TypeId} {path : Path} {a b : Option PropertyType}
    (ha : m.Settles ty path a) (hb : m.Settles ty path b) : a = b := by
  obtain ⟨name, own, hhead, ha⟩ := ha
  obtain ⟨name', own', hhead', hb⟩ := hb
  cases hhead.symm.trans hhead'
  rcases ha with ⟨hwalk, rfl⟩ | ⟨p, full, access, hwalk, ha⟩ <;>
    rcases hb with ⟨hwalk', rfl⟩ | ⟨p', full', access', hwalk', hb⟩ <;>
    cases hwalk.symm.trans hwalk'
  · rfl
  · exact Except.ok.inj (ha.symm.trans hb)

theorem Settles.not_onward {ty : TypeId} {path rest : Path} {target : String}
    {a : Option PropertyType} (h : m.Settles ty path a) : ¬ m.Onward ty path target rest := by
  rintro ⟨name, own, hhead, hwalk⟩
  obtain ⟨name', own', hhead', ⟨hwalk', -⟩ | ⟨p, full, access, hwalk', -⟩⟩ := h <;>
    cases hhead.symm.trans hhead' <;> cases hwalk.symm.trans hwalk'

theorem Route.mono {asks asks' : String → TypeId → Prop}
    (hasks : ∀ target s, asks target s → asks' target s) {ty : TypeId} {path : Path}
    {t : PropertyType} (h : m.Route asks ty path t) : m.Route asks' ty path t := by
  induction h with
  | property h => exact .property h
  | association h hs _ ih => exact .association h (hasks _ _ hs) ih

theorem Route.not_settles_none {asks : String → TypeId → Prop} {ty : TypeId} {path : Path}
    {t : PropertyType} (h : m.Route asks ty path t) : ¬ m.Settles ty path none := by
  intro hnone
  cases h with
  | property h => cases h.unique hnone
  | association h _ _ => exact hnone.not_onward h

/-- Where every target leaves one entity to ask, the route is determined. -/
theorem Route.unique {asks : String → TypeId → Prop}
    (hasks : ∀ target s s', asks target s → asks target s' → s = s') {ty : TypeId} {path : Path}
    {t t' : PropertyType} (h : m.Route asks ty path t) (h' : m.Route asks ty path t') :
    t = t' := by
  induction h with
  | property h =>
    cases h' with
    | property h' => exact Option.some.inj (h.unique h')
    | association h' _ _ => exact absurd h' h.not_onward
  | association h hs _ ih =>
    cases h' with
    | property h' => exact absurd h h'.not_onward
    | association h' hs' route' =>
      obtain ⟨rfl, rfl⟩ := h.unique h'
      obtain rfl := hasks _ _ _ hs hs'
      exact ih route'

end TypeModel

/-! ## Who may be asked -/

theorem TypeModel.mem_subtypesAmong {m : TypeModel} {tys : List TypeId} {ty : TypeId}
    {i : EntityId} :
    i ∈ m.subtypesAmong tys ty ↔ ∃ s, tys[i]? = some s ∧ s ∈ m.strictSubtypes tys ty := by
  simp only [TypeModel.subtypesAmong, TypeModel.strictSubtypes, List.mem_map, List.mem_filter]
  constructor
  · rintro ⟨⟨s, j⟩, ⟨hmem, hsub⟩, rfl⟩
    have hj := List.mk_mem_zipIdx_iff_getElem?.mp hmem
    exact ⟨s, hj, List.mem_of_getElem? hj, hsub⟩
  · rintro ⟨s, hi, -, hsub⟩
    exact ⟨(s, i), ⟨List.mk_mem_zipIdx_iff_getElem?.mpr hi, hsub⟩, rfl⟩

namespace Graph

/-- Where an association has this target, an entity of the type `s` may be asked: the one that the
target stands for, or one of its subtypes if there is fallback. -/
def Asks (m : TypeModel) (fallback : Bool) (g : Graph) (target : String) (s : TypeId) : Prop :=
  ∃ id ty, g.byName.lookup target = some (some id) ∧ g.builtTypes[id]? = some ty ∧
    s ∈ ty :: m.subtypesAsked fallback g.builtTypes ty

/-- The entities and names of `g` are among those of `h`. -/
structure Within (g h : Graph) : Prop where
  types : g.Extends h
  names : ∀ {name : String} {answer : Option EntityId}, g.byName.lookup name = some answer →
    h.byName.lookup name = some answer

theorem Keeps.within {g h : Graph} (hkeeps : g.Keeps h) : g.Within h := ⟨hkeeps.types, hkeeps.names⟩

theorem Within.trans {g₁ g₂ g₃ : Graph} (h : g₁.Within g₂) (h' : g₂.Within g₃) : g₁.Within g₃ :=
  ⟨h.types.trans h'.types, fun hl => h'.names (h.names hl)⟩

theorem Within.setPathType {g h : Graph} (hgh : g.Within h) (i j : EntityId) (p q : Path)
    (a b : Option PropertyType) : (g.setPathType i p a).Within (h.setPathType j q b) where
  types := by
    unfold Extends
    rw [builtTypes_setPathType, builtTypes_setPathType]
    exact hgh.types
  names := hgh.names

theorem subtypesAsked_front (m : TypeModel) (fallback : Bool) {g h : Graph} (hext : g.Extends h)
    (ty : TypeId) :
    m.subtypesAsked fallback g.builtTypes ty <+: m.subtypesAsked fallback h.builtTypes ty := by
  cases fallback with
  | false => exact List.prefix_refl _
  | true => exact List.IsPrefix.filter _ hext

theorem Asks.within {m : TypeModel} {fallback : Bool} {g h : Graph} {target : String} {s : TypeId}
    (hasks : g.Asks m fallback target s) (hgh : g.Within h) : h.Asks m fallback target s := by
  obtain ⟨id, ty, hname, hid, hs⟩ := hasks
  refine ⟨id, ty, hgh.names hname, hgh.types.getElem? hid, ?_⟩
  rcases List.mem_cons.mp hs with rfl | hs
  · exact List.mem_cons_self
  · exact List.mem_cons_of_mem _ ((subtypesAsked_front m fallback hgh.types ty).subset hs)

theorem Asks.unique {m : TypeModel} {g : Graph} {target : String} {s s' : TypeId}
    (h : g.Asks m false target s) (h' : g.Asks m false target s') : s = s' := by
  obtain ⟨id, ty, hname, hid, hs⟩ := h
  obtain ⟨id', ty', hname', hid', hs'⟩ := h'
  cases hname.symm.trans hname'
  cases hid.symm.trans hid'
  rw [List.mem_singleton.mp hs, List.mem_singleton.mp hs']

theorem Consistent.mem_subtypesOf {m : TypeModel} {g : Graph} (hg : g.Consistent m)
    {id i : EntityId} {ty : TypeId} (hid : g.builtTypes[id]? = some ty) : i ∈ g.subtypesOf id ↔
      ∃ s, g.builtTypes[i]? = some s ∧ s ∈ m.strictSubtypes g.builtTypes ty := by
  rw [hg.subtypesOf_eq hid, TypeModel.mem_subtypesAmong]

end Graph

/-! ## The walk of a lookup -/

/-- What the entity with a number is called and how it is read depends on its type alone. -/
theorem Graph.Consistent.entityHead_eq {m : TypeModel} {g : Graph} (hg : g.Consistent m)
    {id : EntityId} {e : Entity} (he : g.entities[id]? = some e) :
    m.entityHead e.typeId = .ok (e.name, e.access) := by
  have hhead := Graph.describeEntity_head (hg.described e (List.mem_of_getElem? he))
  exact hhead

section
variable {m : TypeModel} {fallback : Bool} {g g' : Graph} {e : Entity} {id : EntityId} {path : Path}

/-- A walk ends with what the type alone says, or goes on at the target of an association. -/
theorem pathType_eq_ok (hm : m.Accepted) (hg : g.Consistent m) (he : g.entities[id]? = some e)
    {a : Option PropertyType}
    (hrun : pathType m fallback path e.name "" e.typeId e.access g = .ok (a, g')) :
    m.Settles e.typeId path a ∨ ∃ target rest, m.Onward e.typeId path target rest ∧
      namedType m fallback target rest g = .ok (a, g') := by
  have hhead := hg.entityHead_eq he
  obtain ⟨stop, hstop⟩ := hm.walk_ok path "" e.access (hg.mem_ids (List.mem_of_getElem? he))
  rw [pathType_eq_walk, hstop, liftM_ok_bind] at hrun
  cases stop with
  | nowhere =>
    cases hrun
    exact .inl ⟨_, _, hhead, .inl ⟨hstop, rfl⟩⟩
  | found p full access =>
    have htype := (((Account.free_maintains hm fallback).typeOfProperty_gives hm e.name full p
      access hg).of_eq_ok hrun).2.2
    exact .inl ⟨_, _, hhead, .inr ⟨p, full, access, hstop, htype⟩⟩
  | onward target rest => exact .inr ⟨target, rest, ⟨_, _, hhead, hstop⟩, hrun⟩

/-- Only an embedded property of an undeclared type leads nowhere; no component is looked up. -/
theorem typeOfProperty_none {owner full : String} {p : Property} {access : Access}
    (htype : m.typeOf owner full p access = .ok none) :
    typeOfProperty m owner full p access g = .ok (none, g) := by
  obtain ⟨hkind, hr⟩ := TypeModel.typeOf_eq_none_iff.mp htype
  unfold typeOfProperty
  rw [hkind]
  dsimp only
  rw [hr]
  rfl

/-- A walk that cannot succeed changes nothing. -/
theorem TypeModel.Settles.pathType_none {ty : TypeId} {name : String} {own : Access}
    (h : m.Settles ty path none) (hhead : m.entityHead ty = .ok (name, own)) :
    pathType m fallback path name "" ty own g = .ok (none, g) := by
  obtain ⟨name', own', hhead', hend⟩ := h
  cases hhead.symm.trans hhead'
  rw [pathType_eq_walk]
  rcases hend with ⟨hwalk, -⟩ | ⟨p, full, access, hwalk, htype⟩
  · rw [hwalk]
    rfl
  · rw [hwalk, liftM_ok_bind]
    exact typeOfProperty_none htype

end

/-- Only entities of the graph can be asked. -/
theorem exactPropertyType_valid {m : TypeModel} {fallback : Bool} {g g' : Graph} {id : EntityId}
    {path : Path} {a : Option PropertyType}
    (hrun : exactPropertyType m fallback id path g = .ok (a, g')) :
    ∃ ty, g.builtTypes[id]? = some ty := by
  refine Request.exists_getElem?_builtTypes (by_contra fun hno => ?_)
  cases (Request.exactPropertyType_missing hno path).symm.trans hrun

/-! ## What is found lies on a route -/

namespace Graph.Recalls

variable {m : TypeModel} (hm : m.Accepted) {fallback : Bool} {g : Graph} (hg : g.Consistent m)
  (hr : g.Recalls m fallback) {id : EntityId} {ty : TypeId} {path : Path}
  (hid : g.builtTypes[id]? = some ty)
include hm hr hid

/-- A failure is kept only where the type alone decides. -/
theorem settles_none (hk : g.kept id path = some none) : m.Settles ty path none := by
  obtain ⟨j, j', hj, hfinds, hlater⟩ := hr _ _ _ hk
  obtain ⟨e, he, hw⟩ := hfinds.walk
  have hext := ((pathType_keeps m fallback path _ _ _ _ hw).trans
    (hfinds.keeps.trans hlater)).types
  cases (hext.getElem? (Graph.builtTypes_getElem? he)).symm.trans hid
  rcases pathType_eq_ok hm hj he hw with hsettles | ⟨target, rest, honward, -⟩
  · exact hsettles
  · have hlen : path.length ≤ 1 := by simpa using hfinds.lasting
    obtain ⟨hpos, hlt⟩ := honward.length_lt
    omega

include hg

/-- What was found is a property of the entity itself, or the answer of one that may be asked where
the path goes on. That answer is kept as well. -/
theorem step {t : PropertyType} (hk : g.kept id path = some (some t)) :
    m.Settles ty path (some t) ∨ ∃ target rest, m.Onward ty path target rest ∧
      ∃ i s, g.Asks m fallback target s ∧ g.builtTypes[i]? = some s ∧
        g.kept i rest = some (some t) := by
  obtain ⟨j, j', hj, hfinds, hlater⟩ := hr _ _ _ hk
  obtain ⟨e, he, hw⟩ := hfinds.walk
  have hkeeps : j'.Keeps g := hfinds.keeps.trans hlater
  have hext := ((pathType_keeps m fallback path _ _ _ _ hw).trans hkeeps).types
  cases (hext.getElem? (Graph.builtTypes_getElem? he)).symm.trans hid
  rcases pathType_eq_ok hm hj he hw with hsettles | ⟨target, rest, honward, hrun⟩
  · exact .inl hsettles
  · obtain ⟨id?, k, hname, hrun⟩ := GraphM.bind_eq_ok hrun
    cases id? with
    | none => cases hrun
    | some u =>
      have hku : k.Keeps g :=
        Graph.Keeps.trans ((keeps_covers m fallback).propertyType u rest hrun) hkeeps
      obtain ⟨i, hi, hki⟩ := propertyType_found hrun
      have hki := hkeeps.answers hki
      have hnamed := hku.names (resolveEntity_entered hname)
      obtain ⟨f, hf, -⟩ := hg.found hnamed
      have hu := Graph.builtTypes_getElem? hf
      refine .inr ⟨target, rest, honward, i, ?_⟩
      rcases hi with rfl | ⟨rfl, hi⟩
      · exact ⟨f.typeId, ⟨_, _, hnamed, hu, List.mem_cons_self⟩, hu, hki⟩
      · obtain ⟨s, hs, hmem⟩ := (hg.mem_subtypesOf hu).mp (hkeeps.links u hi)
        exact ⟨s, ⟨_, _, hnamed, hu, List.mem_cons_of_mem _ hmem⟩, hs, hki⟩

/-- By induction on the length of the path. -/
theorem route {t : PropertyType} (hk : g.kept id path = some (some t)) :
    m.Route (g.Asks m fallback) ty path t := by
  induction hn : path.length using Nat.strong_induction_on generalizing path id ty with
  | _ n ih =>
    subst hn
    rcases step hm hg hr hid hk with hsettles | ⟨target, rest, honward, i, s, hasks, hi, hki⟩
    · exact .property hsettles
    · exact .association honward hasks (ih _ honward.length_lt.2 hi hki rfl)

end Graph.Recalls

theorem exactPropertyType_route {m : TypeModel} (hm : m.Accepted) {fallback : Bool} {g g' : Graph}
    (hg : g.Consistent m) (hr : g.Recalls m fallback) {id : EntityId} {ty : TypeId} {path : Path}
    {t : PropertyType} (hid : g.builtTypes[id]? = some ty)
    (hrun : exactPropertyType m fallback id path g = .ok (some t, g')) :
    m.Route (g'.Asks m fallback) ty path t := by
  have htraces := (traces_covers hm fallback).exactPropertyType id path hrun
  exact (htraces.recalls hg hr).route hm (htraces.consistent hg)
    (htraces.keeps.types.getElem? hid) (exactPropertyType_kept hrun)

/-! ## Where there is a route, something is found -/

section
variable {m : TypeModel} (hm : m.Accepted) {fallback : Bool} {g : Graph} (hg : g.Consistent m)
  (hr : g.Recalls m fallback)
include hm hg

/-- An entity has an answer with fallback if one that may be asked has an answer whenever it is
asked. -/
theorem propertyType_isSome_of_asked {id : EntityId} {ty s : TypeId} {path : Path} {k k' : Graph}
    {a : Option PropertyType} (hk : g.Traces m fallback k) (hid : k.builtTypes[id]? = some ty)
    (hs : s ∈ ty :: m.subtypesAsked fallback k.builtTypes ty)
    (hasked : ∀ {k k' : Graph} {i : EntityId} {b : Option PropertyType}, g.Traces m fallback k →
      k.builtTypes[i]? = some s → exactPropertyType m fallback i path k = .ok (b, k') →
        b.isSome = true)
    (hrun : propertyType m fallback id path k = .ok (a, k')) : a.isSome = true := by
  obtain ⟨own, k₁, hown, hrest⟩ := withSubtypes_eq_ok hrun
  have hmove := (traces_covers hm fallback).exactPropertyType id path hown
  have hk₁ := hk.trans hmove
  have hid₁ := hmove.keeps.types.getElem? hid
  rcases List.mem_cons.mp hs with rfl | hs
  · have hsome := hasked hk hid hown
    rcases hrest with ⟨rfl, -, -⟩ | ⟨rfl, -, -⟩
    · exact hsome
    · cases hsome
  · cases fallback with
    | false => cases hs
    | true =>
      rcases hrest with ⟨-, -, hsome | hoff⟩ | ⟨-, -, hfirst⟩
      · exact hsome
      · cases hoff
      · obtain ⟨i, hi⟩ := List.getElem?_of_mem (List.mem_of_mem_filter hs)
        have hs₁ := (Graph.subtypesAsked_front m true hmove.keeps.types ty).subset hs
        have hmem : i ∈ k₁.subtypesOf id := ((hk₁.consistent hg).mem_subtypesOf hid₁).mpr
          ⟨s, hmove.keeps.types.getElem? hi, hs₁⟩
        refine firstAnswer_isSome (P := fun k => g.Traces m true k ∧ k.builtTypes[i]? = some s)
          (fun hP h => ?_) (fun hP h => hasked hP.1 hP.2 h) hmem
          ⟨hk₁, hmove.keeps.types.getElem? hi⟩ hfirst
        have hnext := (traces_covers hm true).exactPropertyType _ path h
        exact ⟨hP.1.trans hnext, hnext.keeps.types.getElem? hP.2⟩

include hr

/-- Where a path has a route, it is answered, whatever is asked before. By induction on the route:
those who may be asked on it are among those who are. -/
theorem TypeModel.Route.isSome {asks : String → TypeId → Prop}
    (hasks : ∀ {k k' : Graph} {target : String} {s : TypeId} {answer : Option EntityId},
      g.Traces m fallback k → asks target s → resolveEntity m target k = .ok (answer, k') →
        k'.Asks m fallback target s)
    {ty : TypeId} {path : Path} {t : PropertyType} (hroute : m.Route asks ty path t)
    {k k' : Graph} {id : EntityId} {a : Option PropertyType} (hk : g.Traces m fallback k)
    (hid : k.builtTypes[id]? = some ty)
    (hrun : exactPropertyType m fallback id path k = .ok (a, k')) : a.isSome = true := by
  induction hroute generalizing k k' id a with
  | @property ty path t h =>
    rcases exactly_eq_ok hrun with ⟨hkept, -⟩ | ⟨-, e, k₁, he, hw, -⟩
    · cases a with
      | some _ => rfl
      | none =>
        have hnone := (hk.recalls hg hr).settles_none hm hid hkept
        cases h.unique hnone
    · obtain ⟨e', he', rfl⟩ := Graph.exists_of_builtTypes hid
      cases he.symm.trans he'
      rcases pathType_eq_ok hm (hk.consistent hg) he hw with h' | ⟨_, _, honward, -⟩
      · rw [← h.unique h']
        rfl
      · exact absurd honward h.not_onward
  | @association ty s path rest target t h hs _ ih =>
    rcases exactly_eq_ok hrun with ⟨hkept, -⟩ | ⟨-, e, k₁, he, hw, -⟩
    · cases a with
      | some _ => rfl
      | none =>
        have hnone := (hk.recalls hg hr).settles_none hm hid hkept
        exact absurd h hnone.not_onward
    · obtain ⟨e', he', rfl⟩ := Graph.exists_of_builtTypes hid
      cases he.symm.trans he'
      rcases pathType_eq_ok hm (hk.consistent hg) he hw with h' | ⟨_, _, honward, hrun⟩
      · exact absurd h h'.not_onward
      · obtain ⟨rfl, rfl⟩ := h.unique honward
        obtain ⟨answer, k₂, hname, hrun⟩ := GraphM.bind_eq_ok hrun
        obtain ⟨u, uty, hu, huty, hmem⟩ := hasks hk hs hname
        cases (resolveEntity_entered hname).symm.trans hu
        have hk₂ := hk.trans (resolveEntity_traces hm fallback _ hname)
        exact propertyType_isSome_of_asked hm hg hk₂ huty hmem ih hrun

end

end EntityQuery
