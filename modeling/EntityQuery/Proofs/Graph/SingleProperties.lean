import Mathlib
import EntityQuery.Model.Sample
import EntityQuery.Proofs.Graph.Growth
/-!
# Single properties and fallback

A path of one segment never leaves the entity that is asked, so its answer on exactly one entity is
a function of the model, and a failure that was kept stays right. With fallback the entity is asked
first and then the subtypes that are built, in order of construction: what was looked up before does
not show, only what was built.

Results:
* `ownType_ok`: what the property of an entity leads to, and when there is one.
* `single_maintains`: answers to single segments are those of the entity's own property.
* `propertyType_single`: a property with fallback, after any history.
-/
namespace EntityQuery

namespace TypeModel

/-- The type has a property `n`, read through the access of its hierarchy. An embedded one counts if
its type is declared. -/
def HasOwn (m : TypeModel) (ty : TypeId) (n : String) : Prop :=
  ∃ chain p, m.lineage ty = .ok chain ∧ m.findProperty ty n chain.defaultAccess = .ok (some p) ∧
    (p.kind = .embedded → ∃ target, m.resolve? p.target = some target)

/-- What the property `n` of the entity of a type leads to. -/
def ownType (m : TypeModel) (ty : TypeId) (n : String) :
    Except MissingId (Option PropertyType) := do
  let (name, access) ← m.entityHead ty
  match ← m.findProperty ty n access with
  | none => return none
  | some p => m.typeOf name n p access

variable {m : TypeModel}

theorem ownType_ok (hm : m.Accepted) {ty : TypeId} (hty : ty ∈ m.ids) (n : String) :
    ∃ a, m.ownType ty n = .ok a ∧ (a.isSome ↔ m.HasOwn ty n) := by
  obtain ⟨t, -, ht⟩ := hm.info_ok hty
  obtain ⟨chain, hchain⟩ := hm.lineage_ok hty
  have hhead : m.entityHead ty = .ok (t.entityName, chain.defaultAccess) := by
    rw [entityHead, ht, hchain]
    rfl
  obtain ⟨p?, hp⟩ := hm.findProperty_ok hty n chain.defaultAccess
  -- the hierarchy can be read in one way only
  have hown : m.HasOwn ty n ↔
      ∃ p, p? = some p ∧ (p.kind = .embedded → ∃ target, m.resolve? p.target = some target) := by
    unfold HasOwn
    simp [hchain, hp]
  rw [hown, ownType, hhead, Except.ok_bind]
  dsimp only
  rw [hp, Except.ok_bind]
  cases p? with
  | none => exact ⟨none, rfl, by simp⟩
  | some p =>
    obtain ⟨a, ha⟩ := hm.typeOf_ok t.entityName n p chain.defaultAccess
    have hnone : a = none ↔ p.kind = .embedded ∧ m.resolve? p.target = none := by
      rw [← typeOf_eq_none_iff, ha, Except.ok.injEq]
    refine ⟨a, ha, ?_⟩
    rw [Option.isSome_iff_ne_none, Ne, hnone]
    cases hr : m.resolve? p.target <;> simp [hr]

theorem hasOwn_of_ownType (hm : m.Accepted) {ty : TypeId} (hty : ty ∈ m.ids) {n : String}
    {t : PropertyType} (h : m.ownType ty n = .ok (some t)) : m.HasOwn ty n := by
  obtain ⟨a, ha, hown⟩ := ownType_ok hm hty n
  cases ha.symm.trans h
  exact hown.mp rfl

theorem HasOwn.ownType_ne_none {ty : TypeId} {n : String} (h : m.HasOwn ty n) (hm : m.Accepted)
    (hty : ty ∈ m.ids) : ¬ m.ownType ty n = .ok none := by
  intro hnone
  obtain ⟨a, ha, hown⟩ := ownType_ok hm hty n
  cases ha.symm.trans hnone
  cases hown.mpr h

end TypeModel

/-- The walk of one segment ends at the property. -/
theorem Account.Reads.ownType_eq {acc : Account} {m : TypeModel} {ty : TypeId} {name n : String}
    {own : Access} {a : Option PropertyType} (hhead : m.entityHead ty = .ok (name, own))
    (h : acc.Reads m [n] name "" ty own a) : m.ownType ty n = .ok a := by
  obtain ⟨stop, hstop, hend⟩ := h
  rw [TypeModel.ownType, hhead, Except.ok_bind]
  rw [TypeModel.walk] at hstop
  dsimp only
  cases hp : m.findProperty ty n own with
  | error e =>
    rw [hp] at hstop
    cases hstop
  | ok p? =>
    rw [hp] at hstop
    cases p? with
    | none =>
      cases hstop
      rw [show a = none from hend]
      rfl
    | some p =>
      cases hstop
      exact hend

/-! ## Answers to single segments -/

/-- An answer to a path of one segment is that of the property. -/
def TypeModel.SaysOwn (m : TypeModel) (ty : TypeId) (path : Path) (a : Option PropertyType) :
    Prop :=
  ∀ n, path = [n] → m.ownType ty n = .ok a

/-- The account that says of answers to single segments whose they are. -/
def Account.single (m : TypeModel) : Account :=
  { Account.free m with
    answers := fun ty path a => (∀ t, a = some t → t.InModel m) ∧ m.SaysOwn ty path a }

theorem Account.single_closed {m : TypeModel} (hm : m.Accepted) : (Account.single m).Closed m where
  answers := by
    intro ty name own path a hhead h
    refine ⟨?_, fun n hpath => (hpath ▸ h).ownType_eq hhead⟩
    rintro t rfl
    exact h.inModel hm fun _ _ t hs => hs.1 t rfl
  inModel := fun h => h.1 _ rfl
  collections := fun _ => trivial

/-- A consistent graph whose kept answers to single segments are right. -/
def Graph.SaysOwn (m : TypeModel) (g : Graph) : Prop := g.Consistent m ∧ g.AllKept m.SaysOwn

theorem Graph.SaysOwn.lasting {m : TypeModel} (hm : m.Accepted) :
    Graph.Lasting m (Graph.SaysOwn m) where
  consistent := And.left
  build := fun hg hty hnew hd =>
    ⟨hg.1.build hm hty hnew hd, hg.2.build (describeEntity_fields hd).2.2.2.1⟩
  setName := fun hg _ h => ⟨hg.1.setName h, hg.2⟩

theorem Account.single_maintains {m : TypeModel} (hm : m.Accepted) (fallback : Bool) :
    (Account.single m).Maintains m fallback (Graph.SaysOwn m) :=
  (Graph.SaysOwn.lasting hm).maintains hm fallback
    (fun hg _ he _ _ hl => ⟨fun _ ht => hg.1.answers _ he (ht ▸ hl), hg.2 _ he hl⟩)
    (fun hg hid ha => ⟨hg.1.setPathType ha.1, hg.2.setPathType hid ha.2⟩)
    (fun hg hc => ⟨hg.1.setCollection hc, hg.2⟩) fun hg hc => ⟨hg.1.setComponent hc, hg.2⟩

/-- The empty graph keeps no answers, and no request spoils those that are kept. -/
theorem Graph.LeadsTo.saysOwn {m : TypeModel} (hm : m.Accepted) {fallback : Bool} {g : Graph}
    (h : Graph.empty.LeadsTo m fallback g) : g.SaysOwn m :=
  h.inv (Account.single_maintains hm fallback) hm (Account.single_closed hm)
    ⟨Graph.empty_consistent m, by simp [Graph.AllKept, Graph.empty]⟩

/-! ## A single segment builds nothing -/

/-- The entities of both graphs are of the same types. -/
def Graph.SameTypes (g g' : Graph) : Prop := g'.builtTypes = g.builtTypes

instance : IsPreorder Graph Graph.SameTypes where
  refl _ := rfl
  trans _ _ _ h h' := h'.trans h

theorem exactPropertyType_sameTypes (m : TypeModel) (fallback : Bool) (id : EntityId) (n : String) :
    Moves Graph.SameTypes (exactPropertyType m fallback id [n]) := by
  refine exactPropertyType_moves
    (fun _ h => (Graph.builtTypes_setPathType _ _ _ _).trans h) (fun owner above ty access => ?_) id
  rw [pathType_single]
  refine Moves.lift_bind fun p? => ?_
  cases p? with
  | none => exact Moves.pure none
  | some p => exact typeOfProperty_moves (componentFor_moves (fun _ _ _ _ => rfl) m) _ _ p _

section
variable {m : TypeModel} {g : Graph}

/-- The entity and then its subtypes are asked for their own property. -/
theorem propertyType_single_gives (hm : m.Accepted) (hg : g.SaysOwn m) {id : EntityId} {e : Entity}
    (he : g.entities[id]? = some e) (n : String) :
    Gives (propertyType m true id [n]) g fun a _ => FirstOf (fun ty a => m.ownType ty n = .ok a)
      (e.typeId :: m.strictSubtypes g.builtTypes e.typeId) a := by
  have hask : ∀ (g₁ : Graph) (id : EntityId) (ty : TypeId),
      g₁.SaysOwn m ∧ g.SameTypes g₁ → g₁.builtTypes[id]? = some ty →
      Gives (exactPropertyType m true id [n]) g₁ fun a g₂ =>
        (g₂.SaysOwn m ∧ g.SameTypes g₂) ∧ g₁.Extends g₂ ∧ m.ownType ty n = .ok a := by
    intro g₁ id ty hg₁ hid
    have hgives := (Account.single_maintains hm true).exactPropertyType_gives hm
      (Account.single_closed hm) [n] hg₁.1 hid
    refine (hgives.and_moves (exactPropertyType_sameTypes m true id n)).mono ?_
    rintro a g₂ ⟨⟨h1, h2, -, hown⟩, hsame⟩
    exact ⟨⟨h1, trans_of Graph.SameTypes hg₁.2 hsame⟩, h2, hown n rfl⟩
  -- only the types of `g` are built when the links are read
  have hlinks : ∀ (g₁ : Graph) (f : Entity), g₁.SaysOwn m ∧ g.SameTypes g₁ →
      g₁.entities[id]? = some f → f.typeId = e.typeId → ∃ tys,
        g₁.Are (if true then f.subtypes else []) tys ∧
          tys = m.strictSubtypes g.builtTypes e.typeId := by
    rintro g₁ f ⟨hg₁, hsame⟩ hf hty
    refine ⟨_, ?_, rfl⟩
    rw [if_pos rfl, hg₁.1.links f (List.mem_of_getElem? hf), hty,
      ← show g₁.builtTypes = g.builtTypes from hsame]
    exact g₁.are_subtypesAmong m e.typeId
  refine (withSubtypes_gives hask ⟨hg, refl_of Graph.SameTypes g⟩ (Graph.builtTypes_getElem? he)
    hlinks).mono ?_
  rintro a g₁ ⟨-, -, _, rfl, hfirst⟩
  exact hfirst

end

/-! ## Who answers -/

section
variable {m : TypeModel} {g : Graph}

theorem mem_cons_strictSubtypes {tys : List TypeId} {ty s : TypeId} (hty : ty ∈ tys) :
    s ∈ ty :: m.strictSubtypes tys ty ↔ s ∈ tys ∧ m.isSubtype s ty = true := by
  rw [List.mem_cons, TypeModel.strictSubtypes, List.mem_filter, Bool.and_eq_true, bne_iff_ne]
  constructor
  · rintro (rfl | ⟨hs, -, hsub⟩)
    · exact ⟨hty, TypeModel.isSubtype_refl s⟩
    · exact ⟨hs, hsub⟩
  · rintro ⟨hs, hsub⟩
    by_cases h : s = ty
    · exact .inl h
    · exact .inr ⟨hs, h, hsub⟩

/-- The strict subtypes before that of an entity are those of entities built before it. -/
theorem Graph.Consistent.strictSubtypes_split (hg : g.Consistent m) {s : Entity}
    (hs : s ∈ g.entities) {ty : TypeId} (hsub : m.isSubtype s.typeId ty = true)
    (hne : s.typeId ≠ ty) : ∃ before after,
      m.strictSubtypes g.builtTypes ty = before ++ s.typeId :: after ∧
      ∀ t ∈ before, ∃ r ∈ g.entities, r.id < s.id ∧ r.typeId = t ∧ m.isSubtype t ty = true := by
  obtain ⟨before, after, hsplit⟩ := List.append_of_mem hs
  have hid : s.id = before.length := hg.id_eq (by rw [hsplit]; simp)
  refine ⟨m.strictSubtypes (before.map (·.typeId)) ty, m.strictSubtypes (after.map (·.typeId)) ty,
    ?_, fun t ht => ?_⟩
  · simp [TypeModel.strictSubtypes, builtTypes, hsplit, hne, hsub]
  · obtain ⟨hmem, hp⟩ := List.mem_filter.mp ht
    obtain ⟨r, hr, rfl⟩ := List.mem_map.mp hmem
    obtain ⟨i, hi, rfl⟩ := List.getElem_of_mem hr
    have hget : g.entities[i]? = some before[i] := by
      rw [hsplit, List.getElem?_append_left hi, List.getElem?_eq_getElem hi]
    refine ⟨_, List.mem_of_getElem? hget, ?_, rfl, (Bool.and_eq_true_iff.mp hp).2⟩
    rw [hg.id_eq hget, hid]
    exact hi

end

section
variable {m : TypeModel} {g : Graph} (hm : m.Accepted) (hg : g.Consistent m) {e : Entity}
  (he : e ∈ g.entities) {n : String} {a : Option PropertyType}
  (hfirst : FirstOf (fun ty a => m.ownType ty n = .ok a)
    (e.typeId :: m.strictSubtypes g.builtTypes e.typeId) a)
include hm hg he hfirst

theorem isSome_iff_of_firstOf : a.isSome ↔
    ∃ s ∈ g.entities, m.isSubtype s.typeId e.typeId = true ∧ m.HasOwn s.typeId n := by
  have hbuilt : e.typeId ∈ g.builtTypes := List.mem_map_of_mem he
  constructor
  · intro h
    obtain ⟨t, rfl⟩ := Option.isSome_iff_exists.mp h
    obtain ⟨ty, hty, hans⟩ := hfirst.exists_of_some
    obtain ⟨hin, hsub⟩ := (mem_cons_strictSubtypes hbuilt).mp hty
    obtain ⟨s, hs, rfl⟩ := List.mem_map.mp hin
    exact ⟨s, hs, hsub, TypeModel.hasOwn_of_ownType hm (hg.mem_ids hs) hans⟩
  · rintro ⟨s, hs, hsub, hown⟩
    cases a with
    | some t => rfl
    | none =>
      have hin := (mem_cons_strictSubtypes hbuilt).mpr ⟨List.mem_map_of_mem hs, hsub⟩
      exact absurd (hfirst.of_none hin) (hown.ownType_ne_none hm (hg.mem_ids hs))

theorem ownType_of_firstOf (hown : m.HasOwn e.typeId n) : m.ownType e.typeId n = .ok a := by
  cases hfirst with
  | here h => exact h
  | later h _ => exact absurd h (hown.ownType_ne_none hm (hg.mem_ids he))

/-- Of several subtypes that have the property, the one built earliest answers. -/
theorem ownType_of_earliest (hnot : ¬ m.HasOwn e.typeId n) {s : Entity} (hs : s ∈ g.entities)
    (hsub : m.isSubtype s.typeId e.typeId = true) (hown : m.HasOwn s.typeId n)
    (hearlier : ∀ r ∈ g.entities, r.id < s.id → m.isSubtype r.typeId e.typeId = true →
      ¬ m.HasOwn r.typeId n) : m.ownType s.typeId n = .ok a := by
  have hne : s.typeId ≠ e.typeId := fun h => hnot (h ▸ hown)
  obtain ⟨before, after, hsplit, hbefore⟩ := hg.strictSubtypes_split hs hsub hne
  rw [hsplit, ← List.cons_append] at hfirst
  refine hfirst.of_split (fun ty hty t h => ?_) (hown.ownType_ne_none hm (hg.mem_ids hs))
  rcases List.mem_cons.mp hty with rfl | hty
  · exact hnot (TypeModel.hasOwn_of_ownType hm (hg.mem_ids he) h)
  · obtain ⟨r, hr, hlt, rfl, hrsub⟩ := hbefore ty hty
    exact hearlier r hr hlt hrsub (TypeModel.hasOwn_of_ownType hm (hg.mem_ids hr) h)

end

/-- A single property with fallback, after any history: there is an answer just if some entity that
is built, of the same type or a subtype, has the property itself. The entity's own comes first, and
then that of the one built earliest. -/
theorem propertyType_single {ds : List Declaration} {m : Declared}
    (hbuild : Declared.build ds = .ok m) {g : Graph}
    (hreach : Graph.empty.LeadsTo m.toModel true g) {id : EntityId} {e : Entity}
    (he : g.entities[id]? = some e) {n : String} (hn : '.' ∉ n.toList) :
    ∃ a g', propertyType m.toModel true id (Path.ofString n) g = .ok (a, g') ∧
      (a.isSome ↔ ∃ s ∈ g.entities,
        m.toModel.isSubtype s.typeId e.typeId = true ∧ m.toModel.HasOwn s.typeId n) ∧
      (m.toModel.HasOwn e.typeId n → m.toModel.ownType e.typeId n = .ok a) ∧
      (¬ m.toModel.HasOwn e.typeId n → ∀ s ∈ g.entities,
        m.toModel.isSubtype s.typeId e.typeId = true → m.toModel.HasOwn s.typeId n →
        (∀ r ∈ g.entities, r.id < s.id → m.toModel.isSubtype r.typeId e.typeId = true →
          ¬ m.toModel.HasOwn r.typeId n) →
        m.toModel.ownType s.typeId n = .ok a) := by
  have hm := Declared.build_accepted hbuild
  have hempty : Graph.empty.SaysOwn m.toModel :=
    ⟨Graph.empty_consistent m.toModel, by simp [Graph.AllKept, Graph.empty]⟩
  have hg := hreach.inv (Account.single_maintains hm true) hm (Account.single_closed hm) hempty
  have hmem := List.mem_of_getElem? he
  obtain ⟨a, g', hrun, hfirst⟩ := propertyType_single_gives hm hg he n
  exact ⟨a, g', Path.ofString_single hn ▸ hrun, isSome_iff_of_firstOf hm hg.1 hmem hfirst,
    ownType_of_firstOf hm hg.1 hmem hfirst, fun hnot s hs =>
      ownType_of_earliest hm hg.1 hmem hfirst hnot hs⟩

/-- A number was looked for among persons before there were any others; the contractor who was built
next has one, and the employee after that does not matter. -/
theorem propertyType_single_staff : ∃ as g e, Request.runAll staffModel.toModel true
      [.entity "Person", .propertyType 0 "number", .entity "Contractor", .entity "Employee"]
      Graph.empty = .ok (as, g) ∧
    g.entities[0]? = some e ∧ e.pathTypes = [(["number"], none)] ∧
    ∃ a g', propertyType staffModel.toModel true 0 (Path.ofString "number") g = .ok (a, g') ∧
      a = some (.basic (.ofName "int")) ∧
      (a.isSome ↔ ∃ s ∈ g.entities, staffModel.toModel.isSubtype s.typeId e.typeId = true ∧
        staffModel.toModel.HasOwn s.typeId "number") := by
  obtain ⟨as, g, hrun, e, he, hkept, g₁, hint⟩ : ∃ as g, Request.runAll staffModel.toModel true
      [.entity "Person", .propertyType 0 "number", .entity "Contractor", .entity "Employee"]
      Graph.empty = .ok (as, g) ∧ ∃ e, g.entities[0]? = some e ∧
        e.pathTypes = [(["number"], none)] ∧
        ∃ g₁, propertyType staffModel.toModel true 0 (Path.ofString "number") g =
          .ok (some (.basic (.ofName "int")), g₁) := ⟨_, _, rfl, _, rfl, rfl, _, rfl⟩
  obtain ⟨a, g', hanswer, hsome, -⟩ := propertyType_single build_staff ⟨_, as, hrun⟩ he
    (show '.' ∉ "number".toList by decide)
  cases hint.symm.trans hanswer
  exact ⟨as, g, e, hrun, he, hkept, _, g₁, hanswer, rfl, hsome⟩

end EntityQuery
