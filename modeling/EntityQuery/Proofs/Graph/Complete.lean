import Mathlib
import EntityQuery.Model.Sample
import EntityQuery.Proofs.Graph.History
/-!
# Complete graphs

After `resolveAll` on a new graph every entity type of the model is built, and every name that was
entered stands for the type that the model gives it. From then on lookups add no entities and no
links, and answer what the model alone says: the history of the graph no longer matters.

Results:
* `Account.ofModel_closed`: answers read off the model follow from one another as lookups do.
* `Faithful.maintains`: on a complete graph, lookups keep the tables to these answers.
* `resolveAll_faithful`: `resolveAll` on a new graph makes it complete, also where entity names
  collide.
* `answers_after_resolveAll`: from then on every lookup has one answer, whatever was asked before.
-/
namespace EntityQuery

/-! ## The account of a model -/

/-- The account in which answers are read off the model. -/
def Account.ofModel (m : TypeModel) (subs : TypeId → List TypeId) : Account where
  names name ty? := ty? = m.findEntityType? name
  subs ty tys := tys = subs ty
  answers ty path a := m.entityAnswer subs path ty = .ok a ∧ ∀ t, a = some t → t.InModel m
  collections role c? := m.collectionAnswer subs role = .ok c?

theorem FirstOf.firstOf_eq {ask : TypeId → Except MissingId (Option PropertyType)}
    {tys : List TypeId} {a : Option PropertyType} (h : FirstOf (fun ty a => ask ty = .ok a) tys a) :
    TypeModel.firstOf ask tys = .ok a := by
  induction h with
  | nobody => rfl
  | here h => rw [TypeModel.firstOf, h]; rfl
  | later h _ ih => rw [TypeModel.firstOf, h]; exact ih

namespace Account

variable {m : TypeModel} {subs : TypeId → List TypeId}

theorem propertyAnswer_eq {ty : TypeId} {path : Path} {a : Option PropertyType}
    (h : (ofModel m subs).WithSubtypes ty path a) : m.propertyAnswer subs path ty = .ok a := by
  obtain ⟨_, rfl, h⟩ := h
  exact (h.mono fun _ _ hs => hs.1).firstOf_eq

theorem namedAnswer_eq {name : String} {path : Path} {a : Option PropertyType}
    (h : (ofModel m subs).Named name path a) : m.namedAnswer subs name path = .ok a := by
  obtain ⟨ty?, hname, h⟩ := h
  rw [TypeModel.namedAnswer, ← hname]
  cases ty? with
  | none => rw [show a = none from h]
  | some ty => exact propertyAnswer_eq h

theorem pathAnswer_eq {path : Path} {owner above : String} {ty : TypeId} {access : Access}
    {a : Option PropertyType} (h : (ofModel m subs).Reads m path owner above ty access a) :
    m.pathAnswer subs path owner above ty access = .ok a := by
  obtain ⟨stop, hstop, hend⟩ := h
  rw [TypeModel.pathAnswer_eq_walk, hstop, Except.ok_bind]
  cases stop with
  | nowhere => rw [show a = none from hend]; rfl
  | found p full access => exact hend
  | onward target rest => exact namedAnswer_eq hend

theorem elementAnswer_eq {role : String} {path : Path} {a : Option PropertyType}
    (h : (ofModel m subs).Element m role path a) : m.elementAnswer subs role path = .ok a := by
  obtain ⟨c?, hc, h⟩ := h
  rw [TypeModel.elementAnswer, show m.collectionAnswer subs role = .ok c? from hc, Except.ok_bind]
  cases c? with
  | none => rw [show a = none from h]; rfl
  | some c =>
    cases hel : c.element with
    | entity name => simp only [hel] at h ⊢; exact namedAnswer_eq h
    | component k => simp only [hel] at h ⊢; exact pathAnswer_eq h
    | basic b => simp only [hel] at h ⊢; rw [h]; rfl

theorem ofModel_closed (hm : m.Accepted) (subs : TypeId → List TypeId) :
    (ofModel m subs).Closed m where
  answers := by
    intro ty name own path a hhead h
    constructor
    · rw [TypeModel.entityAnswer, hhead, Except.ok_bind]
      exact pathAnswer_eq h
    · rintro t rfl
      exact h.inModel hm fun _ _ t hs => hs.2 t rfl
  inModel := fun h => h.2 _ rfl
  collections := by
    intro role c? h
    change m.collectionAnswer subs role = .ok c?
    unfold TypeModel.collectionAnswer
    unfold Role at h
    rcases hrole : Path.ofString role with _ | ⟨entity, _ | ⟨next, rest⟩⟩ <;>
      simp only [hrole] at h ⊢
    · rw [h]
    · rw [h]
    · obtain ⟨a, ha, rfl⟩ := h
      rw [namedAnswer_eq ha]
      rfl

end Account

namespace Graph

/-! ## Names -/

/-- Every name that was entered stands for the type that the model gives it. -/
def Canonical (m : TypeModel) (g : Graph) : Prop :=
  ∀ (name : String) (id? : Option EntityId), g.byName.lookup name = some id? →
    g.Is id? (m.findEntityType? name)

theorem Canonical.setName {m : TypeModel} {g : Graph} (h : g.Canonical m) {name : String}
    {id? : Option EntityId} (hid : g.Is id? (m.findEntityType? name)) :
    (g.setName name id?).Canonical m := by
  intro n i hl
  rw [lookup_setName] at hl
  split at hl
  · rename_i hn
    cases hl
    exact hn ▸ hid
  · exact h n i hl

/-- A new entity brings in its own name, if that was not asked for before. -/
theorem Canonical.build {m : TypeModel} {g : Graph} (h : g.Canonical m) {e : Entity}
    (hid : e.id = g.entities.length)
    (hown : g.byName.lookup e.name = none → m.findEntityType? e.name = some e.typeId) :
    (g.build m e).Canonical m := by
  intro name id? hl
  rw [lookup_build, Option.or_eq_some_iff] at hl
  rcases hl with hl | ⟨hnone, hl⟩
  · exact (h name id? hl).extends (extends_build m g e)
  · split at hl
    · rename_i hn
      obtain rfl : some e.id = id? := Option.some.inj hl
      rw [hn] at hnone ⊢
      rw [hown hnone]
      refine .some ?_
      rw [builtTypes_build, hid, ← length_builtTypes]
      exact List.getElem?_concat_length
    · cases hl

/-- An entity name that was not asked for stands for the type that has it, if every earlier entity
type is built: one with that name would have entered it. -/
theorem Consistent.findEntityType?_of_lookup {m : TypeModel} {g : Graph} (hg : g.Consistent m)
    {before after : Lineage} {ty : TypeId} {t : TypeInfo}
    (hsplit : m.entityTypes = before ++ (ty, t) :: after)
    (hbefore : ∀ p ∈ before, p.1 ∈ g.builtTypes) (hnone : g.byName.lookup t.entityName = none) :
    m.findEntityType? t.entityName = some ty := by
  refine TypeModel.findEntityType?_of_first hsplit ?_
  rintro ⟨ty', u⟩ hp hsame
  obtain ⟨f, hf, rfl⟩ := List.mem_map.mp (hbefore _ hp)
  obtain ⟨u', hu', hname⟩ := hg.exists_entityType hf
  have hu : (f.typeId, u) ∈ m.entityTypes := hsplit ▸ List.mem_append_left _ hp
  obtain rfl := TypeModel.entityTypes_unique hu hu'
  obtain ⟨i, hi⟩ := hg.named f hf
  rw [hname, hsame, hnone] at hi
  cases hi

/-! ## Building everything -/

/-- Nothing was asked of the entities. -/
def Unasked (g : Graph) : Prop := (∀ e ∈ g.entities, e.pathTypes = []) ∧ g.collections = []

theorem Unasked.build {m : TypeModel} {g : Graph} (h : g.Unasked) {e : Entity}
    (he : e.pathTypes = []) : (g.build m e).Unasked := by
  refine ⟨fun f hf => ?_, (build_tables m g e).2.1.trans h.2⟩
  rcases mem_build hf with ⟨old, hold, rfl⟩ | rfl
  · rw [(linkTo_frame m e.typeId e.id old).2.2.2.1]
    exact h.1 old hold
  · exact he

end Graph

section
variable {m : TypeModel} {g : Graph}

theorem entityForType_canonical (hm : m.Accepted) (hg : g.Consistent m) (hc : g.Canonical m)
    (hu : g.Unasked) {before after : Lineage} {ty : TypeId} {t : TypeInfo}
    (hsplit : m.entityTypes = before ++ (ty, t) :: after)
    (hbefore : ∀ p ∈ before, p.1 ∈ g.builtTypes) :
    Gives (entityForType m ty) g fun _ g' => g'.Consistent m ∧ g'.Canonical m ∧ g'.Unasked ∧
      ∀ p ∈ before ++ [(ty, t)], p.1 ∈ g'.builtTypes := by
  have hmem : (ty, t) ∈ m.entityTypes := hsplit ▸ List.mem_append_cons_self
  obtain ⟨id, g', hrun, hg', hext, hid⟩ :=
    (Graph.Consistent.lasting hm).entityForType_gives hm hg
      (TypeModel.isEntityType_iff.mpr ⟨t, hmem⟩)
  have hall : ∀ p ∈ before ++ [(ty, t)], p.1 ∈ g'.builtTypes := by
    simp only [List.mem_append, List.mem_singleton]
    rintro p (hp | rfl)
    · exact hext.subset (hbefore p hp)
    · exact List.mem_of_getElem? hid
  have hkept : g'.Canonical m ∧ g'.Unasked := by
    cases hl : g.byType.lookup ty with
    | some known =>
      cases (entityForType_known hl).symm.trans hrun
      exact ⟨hc, hu⟩
    | none =>
      obtain ⟨-, hinfo, -⟩ := TypeModel.mem_entityTypes.mp hmem
      obtain ⟨e, hd⟩ := Graph.describeEntity_ok hm (hm.mem_ids ty |>.mpr ⟨t, hinfo⟩)
        g.entities.length
      obtain ⟨hnum, rfl, -, hp, u, hinfo', hname⟩ := Graph.describeEntity_fields hd
      obtain rfl : t = u := Option.some.inj (hinfo.symm.trans hinfo')
      cases (entityForType_new hl hd).symm.trans hrun
      refine ⟨hc.build hnum fun hnone => ?_, hu.build hp⟩
      rw [hname] at hnone ⊢
      exact hg.findEntityType?_of_lookup hsplit hbefore hnone
  exact ⟨id, g', hrun, hg', hkept.1, hkept.2, hall⟩

/-- By induction on the types still to build: those before them are built. -/
theorem entitiesForTypes_canonical (hm : m.Accepted) (hg : g.Consistent m) (hc : g.Canonical m)
    (hu : g.Unasked) (before : Lineage) {after : Lineage}
    (hsplit : m.entityTypes = before ++ after) (hbefore : ∀ p ∈ before, p.1 ∈ g.builtTypes) :
    Gives (entitiesForTypes m (after.map (·.1))) g fun _ g' => g'.Consistent m ∧ g'.Canonical m ∧
      g'.Unasked ∧ ∀ p ∈ m.entityTypes, p.1 ∈ g'.builtTypes := by
  induction after generalizing g before with
  | nil => exact Gives.pure ⟨hg, hc, hu, by simpa [hsplit] using hbefore⟩
  | cons p after ih =>
    obtain ⟨ty, t⟩ := p
    unfold entitiesForTypes
    refine Gives.bind (entityForType_canonical hm hg hc hu hsplit hbefore) fun id g' h => ?_
    obtain ⟨hg', hc', hu', hbefore'⟩ := h
    refine Gives.bind (ih hg' hc' hu' _ (by rw [hsplit, List.append_cons]) hbefore')
      fun ids g'' h => Gives.pure h

end

/-! ## Complete graphs -/

/-- The types in `tys` are built, in this order, and the tables hold what the model alone says. -/
structure Graph.Faithful (m : TypeModel) (fallback : Bool) (tys : List TypeId) (g : Graph) :
    Prop where
  consistent : g.Consistent m
  types : g.builtTypes = tys
  canonical : g.Canonical m
  answers : ∀ e ∈ g.entities, ∀ {path : Path} {a : Option PropertyType},
    e.pathTypes.lookup path = some a →
      m.entityAnswer (m.subtypesAsked fallback tys) path e.typeId = .ok a
  roles : ∀ {role : String} {c : Collection}, g.collections.lookup role = some c →
    m.collectionAnswer (m.subtypesAsked fallback tys) role = .ok (some c)

theorem resolveAll_faithful {m : TypeModel} (hm : m.Accepted) (fallback : Bool) :
    Gives (resolveAll m) Graph.empty fun _ g => g.Faithful m fallback g.builtTypes ∧
      ∀ ty, m.IsEntityType ty → ty ∈ g.builtTypes := by
  have hcanonical : Graph.empty.Canonical m := fun _ _ h => by simp [Graph.empty] at h
  have hunasked : Graph.empty.Unasked := ⟨by simp [Graph.empty], rfl⟩
  refine (entitiesForTypes_canonical hm (Graph.empty_consistent m) hcanonical hunasked
    [] rfl (by simp)).mono fun _ g h => ?_
  obtain ⟨hg, hc, hu, hall⟩ := h
  refine ⟨⟨hg, rfl, hc, ?_, ?_⟩, ?_⟩
  · intro e he path a hl
    simp [hu.1 e he] at hl
  · intro role c hl
    simp [hu.2] at hl
  · intro ty hty
    obtain ⟨p, hp, rfl⟩ := List.mem_map.mp hty
    exact hall p hp

section
variable {m : TypeModel} {fallback : Bool} {tys : List TypeId} {g : Graph}
  (hall : ∀ ty, m.IsEntityType ty → ty ∈ tys)

theorem Graph.Faithful.allKept (hg : g.Faithful m fallback tys) : g.AllKept fun ty path a =>
    m.entityAnswer (m.subtypesAsked fallback tys) path ty = .ok a :=
  hg.answers

theorem Graph.Faithful.setName (hg : g.Faithful m fallback tys) {name : String}
    {id? : Option EntityId} (hid : g.Is id? (m.findEntityType? name)) :
    (g.setName name id?).Faithful m fallback tys :=
  { hg with consistent := hg.consistent.setName hid, canonical := hg.canonical.setName hid }

theorem Graph.Faithful.setPathType (hg : g.Faithful m fallback tys) {id : EntityId} {ty : TypeId}
    {path : Path} {a : Option PropertyType} (hid : g.builtTypes[id]? = some ty)
    (ha : m.entityAnswer (m.subtypesAsked fallback tys) path ty = .ok a)
    (hin : ∀ t, a = some t → t.InModel m) :
    (g.setPathType id path a).Faithful m fallback tys := by
  refine { hg with consistent := hg.consistent.setPathType hin, types := ?_, canonical := ?_,
                   answers := ?_ }
  · exact (builtTypes_setPathType g id path a).trans hg.types
  · exact fun n i hl => (hg.canonical n i hl).extends (g.extends_setPathType id path a)
  · exact hg.allKept.setPathType hid ha

theorem Graph.Faithful.setCollection (hg : g.Faithful m fallback tys) {role : String}
    {c : Collection} (hin : c.InModel m)
    (hc : m.collectionAnswer (m.subtypesAsked fallback tys) role = .ok (some c)) :
    (g.setCollection role c).Faithful m fallback tys := by
  refine { hg with consistent := hg.consistent.setCollection hin, roles := ?_ }
  intro role' c' hl
  rcases Graph.lookup_front hl with ⟨rfl, rfl⟩ | hl
  · exact hc
  · exact hg.roles hl

include hall

theorem entitiesForTypes_complete (hg : g.Faithful m fallback tys) {wanted : List TypeId}
    (hw : ∀ ty ∈ wanted, m.IsEntityType ty) :
    ∃ ids, entitiesForTypes m wanted g = .ok (ids, g) ∧ g.Are ids wanted := by
  induction wanted with
  | nil => exact ⟨[], rfl, .nil⟩
  | cons ty rest ih =>
    obtain ⟨ids, hrun, hids⟩ := ih fun t ht => hw t (by simp [ht])
    obtain ⟨id, hid⟩ := List.getElem?_of_mem (hg.types ▸ hall ty (hw ty (by simp)))
    refine ⟨id :: ids, ?_, .cons hid hids⟩
    change Except.bind (entityForType m ty g) _ = _
    rw [entityForType_known (hg.consistent.byType.mpr hid)]
    change Except.bind (entitiesForTypes m rest g) _ = _
    rw [hrun]
    rfl

theorem resolveEntity_complete (hm : m.Accepted) (hg : g.Faithful m fallback tys) (name : String) :
    Gives (resolveEntity m name) g fun id? g' => g'.Faithful m fallback tys ∧ g.Extends g' ∧
      g'.Is id? (m.findEntityType? name) := by
  cases hl : g.byName.lookup name with
  | some id? => exact ⟨id?, g, resolveEntity_known hl, hg, .refl g, hg.canonical name id? hl⟩
  | none =>
    cases hf : m.findEntityType? name with
    | none =>
      refine ⟨none, _, resolveEntity_missing hl hf, hg.setName ?_, .refl g, .none⟩
      rw [hf]
      exact .none
    | some ty =>
      have hty := TypeModel.findEntityType?_isEntityType hm hf
      obtain ⟨id, hid⟩ := List.getElem?_of_mem (hg.types ▸ hall ty hty)
      have hknown := entityForType_known (m := m) (hg.consistent.byType.mpr hid)
      exact ⟨some id, _, resolveEntity_found hl hf hknown, hg.setName (hf ▸ .some hid), .refl g,
        .some hid⟩

/-- Lookups on a complete graph keep its tables to what the model says. -/
theorem Graph.Faithful.maintains (hm : m.Accepted) (fallback : Bool) :
    (Account.ofModel m (m.subtypesAsked fallback tys)).Maintains m fallback
      (Graph.Faithful m fallback tys) where
  consistent := fun hg => hg.consistent
  resolve := fun name hg => (resolveEntity_complete hall hm hg name).mono
    fun _ _ ⟨h1, h2, h3⟩ => ⟨h1, h2, _, rfl, h3⟩
  resolveAll := by
    intro g hg
    obtain ⟨ids, hrun, hids⟩ := entitiesForTypes_complete hall hg fun _ h => h
    exact ⟨ids, g, hrun, hg, .refl g, hids⟩
  links := fun hg _ => by rw [hg.types]; rfl
  kept := fun hg he hl => ⟨hg.answers _ he hl, fun t ht => hg.consistent.answers _ he (ht ▸ hl)⟩
  keep := fun hg hid ha => hg.setPathType hid ha.1 ha.2
  keptCollection := fun hg hl => hg.roles hl
  keepCollection := fun hg hin hc => hg.setCollection hin hc
  keepComponent := fun hg hc => { hg with consistent := hg.consistent.setComponent hc }

end

/-! ## One answer for every request -/

/-- The entity without its answers: what it is and what it is linked to. -/
def Entity.skeleton (e : Entity) : Entity := { e with pathTypes := [] }

/-- Entities of the same types have the same descriptions and links. -/
theorem Graph.Consistent.skeleton_congr {m : TypeModel} {g g' : Graph} (hg : g.Consistent m)
    (hg' : g'.Consistent m) (h : g'.builtTypes = g.builtTypes) :
    g'.entities.map Entity.skeleton = g.entities.map Entity.skeleton := by
  have hlen : g'.entities.length = g.entities.length := by
    rw [← length_builtTypes, h, length_builtTypes]
  refine List.ext_getElem (by simpa using hlen) fun i hi hi' => ?_
  simp only [List.length_map] at hi hi'
  rw [List.getElem_map, List.getElem_map]
  have hid := hg.id_eq (List.getElem?_eq_getElem hi')
  have hid' := hg'.id_eq (List.getElem?_eq_getElem hi)
  have hty : g'.entities[i].typeId = g.entities[i].typeId := by
    have h1 := builtTypes_getElem? (List.getElem?_eq_getElem hi)
    rw [h, builtTypes_getElem? (List.getElem?_eq_getElem hi')] at h1
    exact (Option.some.inj h1).symm
  have hd := hg.described _ (List.getElem_mem hi')
  have hd' := hg'.described _ (List.getElem_mem hi)
  have hs := hg.links _ (List.getElem_mem hi')
  have hs' := hg'.links _ (List.getElem_mem hi)
  rw [hid] at hd
  rw [hid', hty] at hd'
  rw [h, hty, ← hs] at hs'
  have hbare := Except.ok.inj (hd.symm.trans hd')
  have hskel : ∀ e : Entity, e.skeleton = { e.bare with subtypes := e.subtypes } := fun _ => rfl
  rw [hskel, hskel, ← hbare, hs']

theorem Request.Says.congr {acc : Account} {m : TypeModel} {g g' : Graph} {q : Request} {a : Answer}
    (h : q.Says acc m g a) (hb : g'.builtTypes = g.builtTypes) : q.Says acc m g' a := by
  unfold Says Graph.Is Graph.Are at *
  rwa [hb]

/-- The account of a model has one answer for a request. -/
theorem Request.says_unique {m : TypeModel} {subs : TypeId → List TypeId} {g : Graph}
    (hg : g.Consistent m) {q : Request} {a b : Answer} (ha : q.Says (Account.ofModel m subs) m g a)
    (hb : q.Says (Account.ofModel m subs) m g b) : a = b := by
  have of_ok : ∀ {α : Type} {e : Except MissingId α} {x y : α}, e = .ok x → e = .ok y → x = y :=
    fun hx hy => Except.ok.inj (hx.symm.trans hy)
  cases q with
  | entity name =>
    obtain ⟨i, _, rfl, rfl, h⟩ := ha
    obtain ⟨j, _, rfl, rfl, h'⟩ := hb
    rw [hg.eq_of_is h h']
  | allEntities =>
    obtain ⟨is, rfl, h⟩ := ha
    obtain ⟨js, rfl, h'⟩ := hb
    rw [hg.eq_of_are h h']
  | propertyType id path =>
    obtain ⟨x, ty, rfl, hty, h⟩ := ha
    obtain ⟨y, ty', rfl, hty', h'⟩ := hb
    obtain rfl := Option.some.inj (hty.symm.trans hty')
    rw [of_ok (Account.propertyAnswer_eq h) (Account.propertyAnswer_eq h')]
  | exactPropertyType id path =>
    obtain ⟨x, ty, rfl, hty, h⟩ := ha
    obtain ⟨y, ty', rfl, hty', h'⟩ := hb
    obtain rfl := Option.some.inj (hty.symm.trans hty')
    rw [of_ok h.1 h'.1]
  | collection role =>
    obtain ⟨c, rfl, h⟩ := ha
    obtain ⟨d, rfl, h'⟩ := hb
    rw [of_ok h h']
  | elementType role path =>
    obtain ⟨x, rfl, h⟩ := ha
    obtain ⟨y, rfl, h'⟩ := hb
    rw [of_ok (Account.elementAnswer_eq h) (Account.elementAnswer_eq h')]
  | component ty inherited =>
    obtain ⟨c, rfl, h⟩ := ha
    obtain ⟨d, rfl, h'⟩ := hb
    rw [of_ok h h']

/-- After all entities were built, no lookup adds an entity or a link, and every lookup is answered
as if it were the first, whatever was looked up before it. -/
theorem answers_after_resolveAll {ds : List Declaration} {m : Declared}
    (hbuild : Declared.build ds = .ok m) (fallback : Bool) :
    ∃ ids g₀, resolveAll m.toModel Graph.empty = .ok (ids, g₀) ∧
      ∀ before : List Request, (∀ q ∈ before, q.Valid m.toModel g₀) →
        ∃ answers g₁, Request.runAll m.toModel fallback before g₀ = .ok (answers, g₁) ∧
          g₁.entities.map Entity.skeleton = g₀.entities.map Entity.skeleton ∧
          ∀ q : Request,
            (q.run m.toModel fallback g₁).map Prod.fst =
              (q.run m.toModel fallback g₀).map Prod.fst ∧
            (q.Valid m.toModel g₀ → ∃ answer g₂, q.run m.toModel fallback g₁ = .ok (answer, g₂) ∧
              g₂.entities.map Entity.skeleton = g₀.entities.map Entity.skeleton) := by
  have hm := Declared.build_accepted hbuild
  obtain ⟨ids, g₀, hrun, hg₀, hall⟩ := resolveAll_faithful hm fallback
  have hc := Account.ofModel_closed hm (m.toModel.subtypesAsked fallback g₀.builtTypes)
  have hk := Graph.Faithful.maintains hall hm fallback
  refine ⟨ids, g₀, hrun, fun before hvalid => ?_⟩
  obtain ⟨answers, g₁, hrun₁, hg₁, hext⟩ := Request.runAll_gives hm hc hk hg₀ hvalid
  have hskel : ∀ {g : Graph}, g.Faithful m.toModel fallback g₀.builtTypes →
      g.entities.map Entity.skeleton = g₀.entities.map Entity.skeleton :=
    fun hg => hg₀.consistent.skeleton_congr hg.consistent hg.types
  have hlen : g₁.entities.length = g₀.entities.length := by
    rw [← Graph.length_builtTypes, hg₁.types, Graph.length_builtTypes]
  refine ⟨answers, g₁, hrun₁, hskel hg₁, fun q => ?_⟩
  by_cases hq : q.Valid m.toModel g₀
  · obtain ⟨a, g, ha, hg, -, hsays⟩ := q.run_gives hm hc hk hg₀ hq
    obtain ⟨b, g₂, hb, hg₂, -, hsays₂⟩ := q.run_gives hm hc hk hg₁ (hq.extends hext)
    have hab : a = b := by
      refine Request.says_unique hg₂.consistent ?_ hsays₂
      exact hsays.congr (hg₂.types.trans hg.types.symm)
    exact ⟨by rw [ha, hb, hab]; rfl, fun _ => ⟨b, g₂, hb, hskel hg₂⟩⟩
  · -- no lookup adds entities, so a handle that is invalid after the others was so before them
    obtain ⟨e, he⟩ := Request.run_of_not_valid hm fallback hq
    exact ⟨by rw [he g₁ hlen, he g₀ rfl], fun h => absurd h hq⟩

/-- A person's number, which only employees have, a name on a path that is kept, and a list. -/
def personRequests : List Request :=
  [.propertyType 0 "number", .exactPropertyType 0 "boss.name", .collection "Person.reports"]

/-- After they were looked up, they are found as on the graph before. -/
theorem answers_after_resolveAll_staff : ∃ ids g₀ answers g₁,
    resolveAll staffModel.toModel Graph.empty = .ok (ids, g₀) ∧ g₀.entities.length = 3 ∧
    Request.runAll staffModel.toModel true personRequests g₀ = .ok (answers, g₁) ∧
    g₁.entities.map Entity.skeleton = g₀.entities.map Entity.skeleton ∧
    ((Request.propertyType 0 "number").run staffModel.toModel true g₁).map Prod.fst =
      .ok (.type (some (.basic (.ofName "String")))) ∧
    ((Request.exactPropertyType 0 "boss.name").run staffModel.toModel true g₁).map Prod.fst =
      .ok (.type (some (.basic (.ofName "String")))) ∧
    ((Request.collection "Person.reports").run staffModel.toModel true g₁).map Prod.fst =
      .ok (.collection (some ⟨"Person", "Person.reports", .list, .entity "Person"⟩)) := by
  obtain ⟨ids, g₀, hrun, hlater⟩ := answers_after_resolveAll build_staff true
  obtain ⟨_, _, hrun', hlen⟩ : ∃ ids g, resolveAll staffModel.toModel Graph.empty = .ok (ids, g) ∧
      g.entities.length = 3 := ⟨_, _, rfl, rfl⟩
  cases hrun.symm.trans hrun'
  obtain ⟨answers, g₁, hrun₁, hskel, hagain⟩ :=
    hlater personRequests (by simp [personRequests, Request.Valid, hlen])
  have hfirst : ∀ (q : Request) (answer : Answer),
      ((resolveAll staffModel.toModel Graph.empty).bind fun (_, g) =>
        (q.run staffModel.toModel true g).map Prod.fst) = .ok answer →
      (q.run staffModel.toModel true g₁).map Prod.fst = .ok answer := by
    intro q answer h
    rw [hrun] at h
    exact (hagain q).1.trans h
  exact ⟨ids, g₀, answers, g₁, hrun, hlen, hrun₁, hskel, hfirst _ _ (by decide +kernel),
    hfirst _ _ (by decide +kernel), hfirst _ _ (by decide +kernel)⟩

end EntityQuery
