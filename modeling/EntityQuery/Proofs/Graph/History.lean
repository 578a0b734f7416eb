import Mathlib
import EntityQuery.Proofs.Graph.Accounts
/-!
# Histories of a graph

A `Request` is one lookup with its arguments, and a history is a list of them, run one after the
other on one graph. Handles in a request must be handles of the model or numbers of the graph.

Results:
* `Request.run_gives`: a request on a graph that keeps an account is answered by that account.
* `runAll_gives`: so are all requests of a history.
* `Lasting.maintains`: lookups keep what new entities, names and answers leave true.
* `Maintains.runAll_inv`, `runAll_consistent`: so does every history, which leaves a consistent
  graph.
* `propertyTypeByName_gives`, `entityByName_gives`: so do questions by names.
-/
namespace EntityQuery

/-- A lookup and its arguments. -/
inductive Request where
  | entity (name : String)
  | allEntities
  | propertyType (id : EntityId) (path : String)
  | exactPropertyType (id : EntityId) (path : String)
  | collection (role : String)
  | elementType (role path : String)
  | component (ty : TypeId) (inherited : Access)
  deriving DecidableEq, Repr

/-- The answer to a request. -/
inductive Answer where
  | entity (id? : Option EntityId)
  | entities (ids : List EntityId)
  | type (a : Option PropertyType)
  | collection (c? : Option Collection)
  | component (c : Component)
  deriving DecidableEq, Repr

namespace Request

/-- Puts the request to the graph. -/
def run (types : TypeModel) (fallback : Bool) : Request → GraphM Answer
  | .entity name => .entity <$> resolveEntity types name
  | .allEntities => .entities <$> resolveAll types
  | .propertyType id path =>
    .type <$> EntityQuery.propertyType types fallback id (Path.ofString path)
  | .exactPropertyType id path =>
    .type <$> EntityQuery.exactPropertyType types fallback id (Path.ofString path)
  | .collection role => .collection <$> resolveCollection types fallback role
  | .elementType role path =>
    .type <$> collectionElementType types fallback role (Path.ofString path)
  | .component ty inherited => .component <$> componentFor types ty inherited

/-- Runs the requests in order. -/
def runAll (types : TypeModel) (fallback : Bool) : List Request → GraphM (List Answer)
  | [] => return []
  | q :: rest => do
    let answer ← q.run types fallback
    let answers ← runAll types fallback rest
    return answer :: answers

theorem runAll_cons_eq_ok {types : TypeModel} {fallback : Bool} {q : Request} {rest : List Request}
    {g g' : Graph} {answers : List Answer}
    (h : runAll types fallback (q :: rest) g = .ok (answers, g')) :
    ∃ answer g₁, q.run types fallback g = .ok (answer, g₁) ∧
      ∃ answers', runAll types fallback rest g₁ = .ok (answers', g') := by
  obtain ⟨answer, g₁, hq, hrest⟩ := GraphM.bind_eq_ok h
  obtain ⟨answers', g₂, hrun, hlast⟩ := GraphM.bind_eq_ok hrest
  cases hlast
  exact ⟨answer, g₁, hq, answers', hrun⟩

/-- The handle in the request, if any, belongs to the model or the graph. -/
def Valid (m : TypeModel) (g : Graph) : Request → Prop
  | .propertyType id _ => id < g.entities.length
  | .exactPropertyType id _ => id < g.entities.length
  | .component ty _ => ty ∈ m.ids
  | _ => True

instance (m : TypeModel) (g : Graph) (q : Request) : Decidable (q.Valid m g) := by
  cases q <;> unfold Valid <;> infer_instance

theorem Valid.extends {m : TypeModel} {g g' : Graph} {q : Request} (h : q.Valid m g)
    (hext : g.Extends g') : q.Valid m g' := by
  cases q with
  | propertyType | exactPropertyType => exact Nat.lt_of_lt_of_le h hext.length_le
  | component => exact h
  | entity | allEntities | collection | elementType => trivial

theorem exists_getElem?_builtTypes {g : Graph} {id : EntityId} (h : id < g.entities.length) :
    ∃ ty, g.builtTypes[id]? = some ty :=
  ⟨_, List.getElem?_eq_getElem (by simpa using h)⟩

/-- What the account lets a request be answered with; numbers are those of the graph after it. -/
def Says (acc : Account) (m : TypeModel) (g : Graph) (q : Request) (answer : Answer) : Prop :=
  match q with
  | .entity name => ∃ id? ty?, answer = .entity id? ∧ acc.names name ty? ∧ g.Is id? ty?
  | .allEntities => ∃ ids, answer = .entities ids ∧ g.Are ids (m.entityTypes.map (·.1))
  | .propertyType id path => ∃ a ty, answer = .type a ∧ g.builtTypes[id]? = some ty ∧
      acc.WithSubtypes ty (Path.ofString path) a
  | .exactPropertyType id path => ∃ a ty, answer = .type a ∧ g.builtTypes[id]? = some ty ∧
      acc.answers ty (Path.ofString path) a
  | .collection role => ∃ c?, answer = .collection c? ∧ acc.collections role c?
  | .elementType role path => ∃ a, answer = .type a ∧ acc.Element m role (Path.ofString path) a
  | .component ty inherited => ∃ c, answer = .component c ∧ m.componentIn ty inherited = .ok c

section
variable {m : TypeModel} {acc : Account} {fallback : Bool} {Inv : Graph → Prop} {g : Graph}
  (hm : m.Accepted) (hc : acc.Closed m) (hk : acc.Maintains m fallback Inv)
include hm hc hk

theorem run_gives {q : Request} (hg : Inv g) (hq : q.Valid m g) :
    Gives (q.run m fallback) g fun answer g' =>
      Inv g' ∧ g.Extends g' ∧ q.Says acc m g' answer := by
  cases q with
  | entity name =>
    exact Gives.map ((hk.resolve name hg).mono fun id? g' ⟨h1, h2, ty?, h3⟩ =>
      ⟨h1, h2, id?, ty?, rfl, h3⟩)
  | allEntities =>
    exact Gives.map ((hk.resolveAll hg).mono fun ids g' ⟨h1, h2, h3⟩ => ⟨h1, h2, ids, rfl, h3⟩)
  | propertyType id path =>
    obtain ⟨ty, hid⟩ := exists_getElem?_builtTypes hq
    exact Gives.map ((hk.propertyType_gives hm hc _ hg hid).mono fun a g' ⟨h1, h2, h3⟩ =>
      ⟨h1, h2, a, ty, rfl, h2.getElem? hid, h3⟩)
  | exactPropertyType id path =>
    obtain ⟨ty, hid⟩ := exists_getElem?_builtTypes hq
    exact Gives.map ((hk.exactPropertyType_gives hm hc _ hg hid).mono fun a g' ⟨h1, h2, h3⟩ =>
      ⟨h1, h2, a, ty, rfl, h2.getElem? hid, h3⟩)
  | collection role =>
    exact Gives.map ((hk.resolveCollection_gives hm hc role hg).mono fun c? g' ⟨h1, h2, h3, _⟩ =>
      ⟨h1, h2, c?, rfl, h3⟩)
  | elementType role path =>
    exact Gives.map ((hk.collectionElementType_gives hm hc role _ hg).mono fun a g' ⟨h1, h2, h3⟩ =>
      ⟨h1, h2, a, rfl, h3⟩)
  | component ty inherited =>
    exact Gives.map ((hk.componentFor_gives hm hq inherited hg).mono fun c g' ⟨h1, h2, h3⟩ =>
      ⟨h1, h2, c, rfl, h3⟩)

theorem runAll_gives {qs : List Request} (hg : Inv g) (hqs : ∀ q ∈ qs, q.Valid m g) :
    Gives (runAll m fallback qs) g fun _ g' => Inv g' ∧ g.Extends g' := by
  induction qs generalizing g with
  | nil => exact Gives.pure ⟨hg, .refl g⟩
  | cons q rest ih =>
    unfold runAll
    refine Gives.bind (run_gives hm hc hk hg (hqs q (by simp))) fun a g' ⟨hg', h1, _⟩ => ?_
    refine Gives.bind (ih hg' fun q hq => (hqs q (by simp [hq])).extends h1)
      fun as g'' ⟨hg'', h2⟩ => ?_
    exact Gives.pure ⟨hg'', h1.trans h2⟩

end

/-! ## Requests that fail -/

theorem exactPropertyType_missing {m : TypeModel} {fallback : Bool} {g : Graph} {id : EntityId}
    (h : ¬ id < g.entities.length) (path : Path) :
    EntityQuery.exactPropertyType m fallback id path g = .error (.entity id) := by
  have he : g.entity id = .error (.entity id) := by
    rw [Graph.entity, List.getElem?_eq_none (Nat.le_of_not_lt h)]
  change Except.bind (Except.bind (g.entity id) _) _ = _
  rw [he]
  rfl

theorem propertyType_missing {m : TypeModel} {fallback : Bool} {g : Graph} {id : EntityId}
    (h : ¬ id < g.entities.length) (path : Path) :
    EntityQuery.propertyType m fallback id path g = .error (.entity id) := by
  change Except.bind (EntityQuery.exactPropertyType m fallback id path g) _ = _
  rw [exactPropertyType_missing h]
  rfl

/-- A request with a handle from elsewhere fails, and how it fails does not depend on the graph. -/
theorem run_of_not_valid {m : TypeModel} (hm : m.Accepted) (fallback : Bool) {g : Graph}
    {q : Request} (hq : ¬ q.Valid m g) : ∃ e, ∀ g' : Graph,
      g'.entities.length = g.entities.length → q.run m fallback g' = .error e := by
  cases q with
  | entity | allEntities | collection | elementType => exact absurd trivial hq
  | propertyType id path =>
    refine ⟨.entity id, fun g' hlen => ?_⟩
    change Except.map _ (EntityQuery.propertyType m fallback id (Path.ofString path) g') = _
    rw [propertyType_missing (hlen ▸ hq)]
    rfl
  | exactPropertyType id path =>
    refine ⟨.entity id, fun g' hlen => ?_⟩
    change Except.map _ (EntityQuery.exactPropertyType m fallback id (Path.ofString path) g') = _
    rw [exactPropertyType_missing (hlen ▸ hq)]
    rfl
  | component ty inherited =>
    refine ⟨.type ty, fun g' _ => ?_⟩
    have hinfo : m.info ty = .error (.type ty) := by
      cases ht : m.info? ty with
      | none => rw [TypeModel.info, ht]
      | some t => exact absurd ((hm.mem_ids ty).mpr ⟨t, ht⟩) hq
    change Except.map _ ((liftM (m.info ty) >>= _ : GraphM Component) g') = _
    rw [hinfo]
    rfl

theorem valid_of_run_eq_ok {m : TypeModel} (hm : m.Accepted) {fallback : Bool} {g g' : Graph}
    {q : Request} {answer : Answer} (h : q.run m fallback g = .ok (answer, g')) : q.Valid m g := by
  by_contra hq
  obtain ⟨e, he⟩ := run_of_not_valid hm fallback hq
  rw [he g rfl] at h
  cases h

end Request

/-! ## Invariants of histories -/

/-- The account that says no more of an answer than that it belongs to the model. -/
def Account.free (m : TypeModel) : Account where
  names _ _ := True
  subs _ _ := True
  answers _ _ a := ∀ t, a = some t → t.InModel m
  collections _ _ := True

theorem Account.free_closed {m : TypeModel} (hm : m.Accepted) : (Account.free m).Closed m where
  answers := by
    rintro ty name own path a - h t rfl
    exact h.inModel hm fun _ _ t hs => hs t rfl
  inModel := fun h => h _ rfl
  collections := fun _ => trivial

/-- Every lookup keeps an invariant that outlasts new entities and names, if it lets the answers to
paths be kept that the graph gives. -/
theorem Graph.Lasting.maintains {m : TypeModel} {Inv : Graph → Prop} (hl : Graph.Lasting m Inv)
    (hm : m.Accepted) (fallback : Bool) {answers : TypeId → Path → Option PropertyType → Prop}
    (kept : ∀ {g : Graph}, Inv g → g.AllKept answers)
    (keep : ∀ {g : Graph} {id : EntityId} {ty : TypeId} {path : Path} {a : Option PropertyType},
      Inv g → g.builtTypes[id]? = some ty → answers ty path a → Inv (g.setPathType id path a))
    (keepCollection : ∀ {g : Graph} {role : String} {c : Collection},
      Inv g → c.InModel m → Inv (g.setCollection role c))
    (keepComponent : ∀ {g : Graph} {ty : TypeId} {access : Access} {c : Component},
      Inv g → m.componentOf ty access = .ok c → Inv (g.setComponent ty access c)) :
    { Account.free m with answers }.Maintains m fallback Inv where
  consistent := hl.consistent
  resolve := by
    intro g name hg
    refine (hl.resolveEntity_gives hm hg name).mono fun id? g' ⟨h1, h2, hl'⟩ => ⟨h1, h2, ?_⟩
    cases id? with
    | none => exact ⟨none, trivial, .none⟩
    | some id =>
      obtain ⟨e, he, -⟩ := (hl.consistent h1).found hl'
      exact ⟨some e.typeId, trivial, .some (builtTypes_getElem? he)⟩
  resolveAll := hl.resolveAll_gives hm
  links := fun _ _ => trivial
  kept := fun hg he hlook => kept hg _ he hlook
  keep := keep
  keptCollection := fun _ _ => trivial
  keepCollection := fun hg hc _ => keepCollection hg hc
  keepComponent := keepComponent

theorem Account.free_maintains {m : TypeModel} (hm : m.Accepted) (fallback : Bool) :
    (Account.free m).Maintains m fallback (Graph.Consistent m) :=
  (Graph.Consistent.lasting hm).maintains hm fallback
    (fun hg _ he _ _ hl _ ht => hg.answers _ he (ht ▸ hl)) (fun hg _ ha => hg.setPathType ha)
    (fun hg hc => hg.setCollection hc) fun hg hc => hg.setComponent hc

/-- Whatever is asked, one request after the other, the invariant of an account holds. -/
theorem Account.Maintains.runAll_inv {m : TypeModel} {acc : Account} {fallback : Bool}
    {Inv : Graph → Prop} (hk : acc.Maintains m fallback Inv) (hm : m.Accepted) (hc : acc.Closed m)
    {qs : List Request} {answers : List Answer} {g g' : Graph} (hg : Inv g)
    (h : Request.runAll m fallback qs g = .ok (answers, g')) : Inv g' := by
  induction qs generalizing g answers with
  | nil =>
    cases h
    exact hg
  | cons q rest ih =>
    obtain ⟨answer, g₁, hrun, answers', hrest⟩ := Request.runAll_cons_eq_ok h
    have hstep := (q.run_gives hm hc hk hg (Request.valid_of_run_eq_ok hm hrun)).of_eq_ok hrun
    exact ih hstep.1 hrest

theorem runAll_consistent {m : TypeModel} (hm : m.Accepted) {fallback : Bool} {qs : List Request}
    {answers : List Answer} {g g' : Graph} (hg : g.Consistent m)
    (h : Request.runAll m fallback qs g = .ok (answers, g')) : g'.Consistent m :=
  (Account.free_maintains hm fallback).runAll_inv hm (Account.free_closed hm) hg h

/-! ## Questions by names -/

section
variable {m : TypeModel} (hm : m.Accepted) (fallback : Bool) {g : Graph} (hg : g.Consistent m)
include hm hg

theorem propertyTypeByName_gives (entity path : String) :
    Gives (propertyTypeByName m fallback entity path) g fun _ g' =>
      g'.Consistent m ∧ g.Extends g' := by
  rw [propertyTypeByName_eq]
  exact ((Account.free_maintains hm fallback).namedType_gives hm (Account.free_closed hm) entity _
    hg).mono fun _ _ ⟨hg', hext, _⟩ => ⟨hg', hext⟩

theorem entityByName_gives (name : String) : Gives (entityByName m name) g fun e? g' =>
    g'.Consistent m ∧ g.Extends g' ∧ ∀ e, e? = some e → e ∈ g'.entities := by
  unfold entityByName
  refine Gives.bind (resolveEntity_gives hm hg name) fun id? g' ⟨hg', hext, _, hlt⟩ => ?_
  cases id? with
  | none => exact Gives.pure ⟨hg', hext, nofun⟩
  | some id =>
    have hid := hlt id rfl
    have he : g'.entity id = .ok g'.entities[id] := by
      rw [Graph.entity, List.getElem?_eq_getElem hid]
    refine Gives.get_bind (Gives.lift_bind he (Gives.pure ⟨hg', hext, fun e h => ?_⟩))
    exact Option.some.inj h ▸ List.getElem_mem hid

end

end EntityQuery
