import Mathlib
import EntityQuery.Graph.Lookup
import EntityQuery.Model.Sample
import EntityQuery.Proofs.Graph.History
/-!
# Handles

A lookup fails if it is given a handle of no type or a number of no entity. Handles also go through
names, superclass links, targets of properties and the tables of a graph. None of these leads out
of the model or the graph: a client that uses handles of the model and the numbers it was given,
and nothing else, meets no failure.

Results:
* `readEntityTypes_eq`, `readNamed_eq`: the types that are read in passing are there, too.
* `Operation.run_gives`: an operation on handles of the model and the graph succeeds, and gives out
  numbers of the graph.
* `operations_succeed`: every sequence of operations does, where each uses numbers that earlier ones
  gave out.
-/
namespace EntityQuery

/-!
## Types that are read in passing

The entity types of a model, and the entity or embeddable type that a name stands for, are looked up
by the marks of types, and a type that is missing passes for one without the mark. Here the same
readings fail on it.
-/

namespace TypeModel

/-- The entity types, where each handle has to be one of the model. -/
def readEntityTypes (m : TypeModel) : Except MissingId Lineage :=
  (m.infos m.ids).map (List.filter (·.2.isEntity))

/-- The type that a name stands for, if it is marked by `p`. Its handle has to be one of the
model. -/
def readNamed (m : TypeModel) (p : TypeInfo → Bool) (name : String) :
    Except MissingId (Option TypeId) :=
  match m.resolve? name with
  | none => .ok none
  | some ty => (m.info ty).map fun t => if p t then some ty else none

variable {m : TypeModel} (hm : m.Accepted)
include hm

theorem Accepted.readEntityTypes_eq : m.readEntityTypes = .ok m.entityTypes := by
  have h : ∀ tys : List TypeId, (∀ ty ∈ tys, ty ∈ m.ids) →
      (m.infos tys).map (List.filter (·.2.isEntity)) =
        .ok (tys.filterMap fun ty => ((m.info? ty).filter (·.isEntity)).map (ty, ·)) := by
    intro tys htys
    induction tys with
    | nil => rfl
    | cons ty rest ih =>
      obtain ⟨t, ht, hok⟩ := hm.info_ok (htys ty List.mem_cons_self)
      obtain ⟨chain, hchain, hfilter⟩ := Except.exists_of_map_eq_ok
        (ih fun u hu => htys u (List.mem_cons_of_mem ty hu))
      rw [infos, hok, Except.ok_bind, hchain, Except.ok_bind, List.filterMap_cons, ht, ← hfilter]
      cases he : t.isEntity <;> simp [Except.map, pure, Except.pure, Option.filter, he]
  exact h m.ids fun _ hty => hty

theorem Accepted.readNamed_eq (p : TypeInfo → Bool) (name : String) :
    m.readNamed p name = .ok ((m.resolve? name).filter fun ty => (m.info? ty).any p) := by
  unfold readNamed
  cases hname : m.resolve? name with
  | none => rfl
  | some ty =>
    obtain ⟨t, ht, hok⟩ := hm.info_ok (hm.resolve_mem name ty hname)
    dsimp only
    rw [hok]
    cases hp : p t <;> simp [Except.map, Option.filter, ht, hp]

end TypeModel

/-! ## Operations and the numbers they give out -/

/-- What can be asked of a graph: requests, questions by names, and what is known of an entity. -/
inductive Operation where
  | request (q : Request)
  | entity (id : EntityId)
  | entityByName (name : String)
  | propertyTypeByName (owner path : String)
  | entities
  | entityNames
  deriving DecidableEq, Repr

/-- What an operation gives back. -/
inductive Reply where
  | answer (a : Answer)
  | type (t : Option PropertyType)
  | entities (es : List Entity)
  | names (names : List String)
  deriving DecidableEq, Repr

/-- The numbers that an entity tells: its own and those of its subtypes. -/
def Entity.numbers (e : Entity) : List EntityId := e.id :: e.subtypes

/-- The numbers that a client learns from a reply. -/
def Reply.numbers : Reply → List EntityId
  | .answer (.entity id?) => id?.toList
  | .answer (.entities ids) => ids
  | .answer _ => []
  | .type _ => []
  | .entities es => es.flatMap Entity.numbers
  | .names _ => []

namespace Operation

def run (types : TypeModel) (fallback : Bool) : Operation → GraphM Reply
  | .request q => .answer <$> q.run types fallback
  | .entity id => do
    let e ← (← get).entity id
    return .entities [e]
  | .entityByName name => (fun e? => .entities e?.toList) <$> EntityQuery.entityByName types name
  | .propertyTypeByName owner path =>
    .type <$> EntityQuery.propertyTypeByName types fallback owner path
  | .entities => return .entities (← get).entities
  | .entityNames => return .names types.entityNames

/-- The handles in the operation are of the model and among the given numbers. -/
def Uses (m : TypeModel) (given : List EntityId) : Operation → Prop
  | .request (.propertyType id _) => id ∈ given
  | .request (.exactPropertyType id _) => id ∈ given
  | .request (.component ty _) => ty ∈ m.ids
  | .entity id => id ∈ given
  | _ => True

instance (m : TypeModel) (given : List EntityId) (o : Operation) : Decidable (o.Uses m given) := by
  unfold Uses
  split <;> infer_instance

end Operation

/-! ## Sequences of operations -/

/-- An operation, and whether answers are searched among subtypes while it runs. -/
structure Step where
  operation : Operation
  fallback : Bool
  deriving DecidableEq, Repr

namespace Step

def run (types : TypeModel) (s : Step) : GraphM Reply := s.operation.run types s.fallback

/-- Runs the steps in order. -/
def runAll (types : TypeModel) : List Step → GraphM (List Reply)
  | [] => return []
  | s :: rest => do
    let reply ← s.run types
    let replies ← runAll types rest
    return reply :: replies

/-- From the graph on, each step uses handles of the model, and of the numbers of entities only the
given ones and those that steps before it gave out. -/
def Fair (m : TypeModel) : List Step → List EntityId → Graph → Prop
  | [], _, _ => True
  | s :: rest, given, g => s.operation.Uses m given ∧
    ∀ reply g', s.run m g = .ok (reply, g') → Fair m rest (given ++ reply.numbers) g'

instance Fair.decidable (m : TypeModel) : (steps : List Step) → (given : List EntityId) →
    (g : Graph) → Decidable (Fair m steps given g)
  | [], _, _ => isTrue trivial
  | s :: rest, given, g =>
    match h : s.run m g with
    | .error _ => decidable_of_iff (s.operation.Uses m given) (by simp [Fair, h])
    | .ok (reply, g') =>
      have := Fair.decidable m rest (given ++ reply.numbers) g'
      decidable_of_iff (s.operation.Uses m given ∧ Fair m rest (given ++ reply.numbers) g')
        (by simp [Fair, h])

end Step

section
variable {m : TypeModel} {g : Graph} (hm : m.Accepted)

/-- All numbers are those of entities. -/
def Graph.Numbers (g : Graph) (ids : List EntityId) : Prop := ∀ id ∈ ids, id < g.entities.length

theorem Graph.numbers_nil (g : Graph) : g.Numbers [] := by
  intro id hid
  cases hid

theorem Graph.Numbers.extends {g g' : Graph} {ids : List EntityId} (h : g.Numbers ids)
    (hext : g.Extends g') : g'.Numbers ids :=
  fun id hid => Nat.lt_of_lt_of_le (h id hid) hext.length_le

theorem Graph.lt_of_builtTypes {id : EntityId} {ty : TypeId} (h : g.builtTypes[id]? = some ty) :
    id < g.entities.length :=
  g.length_builtTypes ▸ (List.getElem?_eq_some_iff.mp h).1

theorem Graph.Are.numbers {ids : List EntityId} {tys : List TypeId} (h : g.Are ids tys) :
    g.Numbers ids := by
  intro id hid
  induction h with
  | nil => cases hid
  | cons hty _ ih =>
    rcases List.mem_cons.mp hid with rfl | hid
    · exact lt_of_builtTypes hty
    · exact ih hid

theorem Graph.Consistent.numbers (hg : g.Consistent m) {e : Entity} (he : e ∈ g.entities) :
    g.Numbers e.numbers := by
  intro id hid
  rcases List.mem_cons.mp hid with rfl | hid
  · obtain ⟨i, hi⟩ := List.getElem?_of_mem he
    rw [hg.id_eq hi]
    exact (List.getElem?_eq_some_iff.mp hi).1
  · exact (g.are_subtypesAmong m e.typeId).numbers id (hg.links e he ▸ hid)

theorem Request.Says.numbers {acc : Account} {q : Request} {answer : Answer}
    (h : q.Says acc m g answer) : g.Numbers (Reply.answer answer).numbers := by
  cases q with
  | entity name =>
    obtain ⟨id?, ty?, rfl, -, hid⟩ := h
    intro id hmem
    obtain rfl : id? = some id := Option.mem_toList.mp hmem
    obtain ⟨ty, -, hty⟩ := Graph.is_some_iff.mp hid
    exact Graph.lt_of_builtTypes hty
  | allEntities =>
    obtain ⟨ids, rfl, hids⟩ := h
    exact hids.numbers
  | propertyType | exactPropertyType =>
    obtain ⟨a, ty, rfl, -⟩ := h
    exact g.numbers_nil
  | collection | elementType | component =>
    obtain ⟨a, rfl, -⟩ := h
    exact g.numbers_nil

include hm

/-- An operation that uses numbers of the graph succeeds, keeps the graph consistent, and gives out
numbers of the new graph. -/
theorem Operation.run_gives (fallback : Bool) (hg : g.Consistent m) {given : List EntityId}
    (hgiven : g.Numbers given) {o : Operation} (ho : o.Uses m given) :
    Gives (o.run m fallback) g fun reply g' =>
      g'.Consistent m ∧ g.Extends g' ∧ g'.Numbers reply.numbers := by
  cases o with
  | request q =>
    have hvalid : q.Valid m g := by
      cases q with
      | propertyType id | exactPropertyType id => exact hgiven id ho
      | component => exact ho
      | entity | allEntities | collection | elementType => trivial
    refine Gives.map ((Request.run_gives hm (Account.free_closed hm)
      (Account.free_maintains hm fallback) hg hvalid).mono ?_)
    rintro answer g' ⟨hg', hext, hsays⟩
    exact ⟨hg', hext, hsays.numbers⟩
  | entity id =>
    have hid := hgiven id ho
    have he : g.entity id = .ok g.entities[id] := by
      rw [Graph.entity, List.getElem?_eq_getElem hid]
    refine Gives.get_bind (Gives.lift_bind he (Gives.pure ⟨hg, .refl g, ?_⟩))
    simpa [Reply.numbers] using hg.numbers (List.getElem_mem hid)
  | entityByName name =>
    refine Gives.map ((entityByName_gives hm hg name).mono ?_)
    rintro e? g' ⟨hg', hext, he⟩
    refine ⟨hg', hext, ?_⟩
    cases e? with
    | none => exact Graph.numbers_nil g'
    | some e => simpa [Reply.numbers] using hg'.numbers (he e rfl)
  | propertyTypeByName owner path =>
    refine Gives.map ((propertyTypeByName_gives hm fallback hg owner path).mono ?_)
    rintro a g' ⟨hg', hext⟩
    exact ⟨hg', hext, Graph.numbers_nil g'⟩
  | entities =>
    refine Gives.get_bind (Gives.pure ⟨hg, .refl g, fun id hid => ?_⟩)
    obtain ⟨e, he, hid⟩ := List.mem_flatMap.mp hid
    exact hg.numbers he id hid
  | entityNames => exact Gives.pure ⟨hg, .refl g, Graph.numbers_nil g⟩

/-- What was given out stays in use: the graph only grows. -/
theorem Step.runAll_gives {steps : List Step} {given : List EntityId} (hg : g.Consistent m)
    (hgiven : g.Numbers given) (hfair : Fair m steps given g) :
    Gives (runAll m steps) g fun _ g' => g'.Consistent m := by
  induction steps generalizing g given with
  | nil => exact Gives.pure hg
  | cons s rest ih =>
    obtain ⟨huses, hrest⟩ := hfair
    obtain ⟨reply, g', hrun, hg', hext, hnumbers⟩ :
        Gives (s.run m) g fun reply g' => g'.Consistent m ∧ g.Extends g' ∧
          g'.Numbers reply.numbers :=
      Operation.run_gives hm s.fallback hg hgiven huses
    have hgiven' : g'.Numbers (given ++ reply.numbers) := fun id hid =>
      (List.mem_append.mp hid).elim (hgiven.extends hext id) (hnumbers id)
    obtain ⟨replies, g'', hruns, hg''⟩ := ih hg' hgiven' (hrest reply g' hrun)
    refine ⟨reply :: replies, g'', ?_, hg''⟩
    rw [runAll, GraphM.bind_of_eq_ok hrun, GraphM.bind_of_eq_ok hruns]
    rfl

end

/-- For an accepted list of declarations, nothing that a client does fails: all that it needs is to
use handles of the model, and numbers of entities that it was given. The types that are read in
passing, where a missing one would go unnoticed, are there as well. -/
theorem operations_succeed {ds : List Declaration} {m : Declared}
    (hbuild : Declared.build ds = .ok m) {steps : List Step}
    (hfair : Step.Fair m.toModel steps [] Graph.empty) :
    m.toModel.readEntityTypes = .ok m.toModel.entityTypes ∧
    (∀ p name, m.toModel.readNamed p name =
      .ok ((m.toModel.resolve? name).filter fun ty => (m.toModel.info? ty).any p)) ∧
    ∃ replies g, Step.runAll m.toModel steps Graph.empty = .ok (replies, g) := by
  have hm := Declared.build_accepted hbuild
  obtain ⟨replies, g, hrun, -⟩ :=
    Step.runAll_gives hm (Graph.empty_consistent m.toModel) (Graph.numbers_nil _) hfair
  exact ⟨hm.readEntityTypes_eq, hm.readNamed_eq, replies, g, hrun⟩

/-- A client of the staff model. It learns the number 0 from the first reply and the number 2 from
the third. -/
def visit : List Step :=
  [⟨.entityByName "Person", true⟩, ⟨.request (.propertyType 0 "boss.number"), true⟩,
    ⟨.request .allEntities, true⟩, ⟨.request (.exactPropertyType 2 "boss.name"), false⟩,
    ⟨.propertyTypeByName "Nobody" "name", false⟩, ⟨.request (.component 1 .property), true⟩,
    ⟨.entity 2, true⟩]

theorem operations_succeed_visit : Declared.build staff = .ok staffModel ∧
    Step.Fair staffModel.toModel visit [] Graph.empty ∧
    staffModel.toModel.readEntityTypes = .ok staffModel.toModel.entityTypes ∧
    ∃ replies g, Step.runAll staffModel.toModel visit Graph.empty = .ok (replies, g) := by
  have hfair : Step.Fair staffModel.toModel visit [] Graph.empty := by decide +kernel
  obtain ⟨htypes, -, hrun⟩ := operations_succeed build_staff hfair
  exact ⟨build_staff, hfair, htypes, hrun⟩

example : Step.runAll staffModel.toModel [⟨.entity 0, true⟩] Graph.empty = .error (.entity 0) := rfl

end EntityQuery
