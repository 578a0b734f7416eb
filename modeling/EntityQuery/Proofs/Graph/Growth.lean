import Mathlib
import EntityQuery.Proofs.Graph.History
/-!
# Growth of a graph

Lookups only add to a graph. Entities and links stay, and an answer that was entered in one of the
tables is neither taken out nor hidden by a later one: `g.Keeps g'` says this of two graphs.

`Moves R x` says that the lookup `x`, where it succeeds, leaves a graph that `R` relates to the one
before. For a preorder `R` this goes from the parts of a lookup to the whole, with no assumption on
the graph. An association's target is asked while the answer of its source is still open, so a
change is compared with the graph on which the lookup began, not with the one just before it.

Results:
* `resolveEntity_eq_ok`, `exactly_eq_ok`, `withSubtypes_eq_ok`: all that can have happened in a
  lookup that succeeded.
* `pathType_moves`, `Covers.run`: a relation that covers the single changes covers every request.
* `keeps_covers`, `Graph.LeadsTo.keeps`: requests and histories keep everything.
-/
namespace EntityQuery

/-! ## Lookups that succeeded -/

theorem resolveEntity_eq_ok {m : TypeModel} {name : String} {answer : Option EntityId}
    {g g' : Graph} (h : resolveEntity m name g = .ok (answer, g')) :
    (g.byName.lookup name = some answer ∧ g' = g) ∨
      (g.byName.lookup name = none ∧ ∃ g₁, g' = g₁.setName name answer ∧
        ((m.findEntityType? name = none ∧ answer = none ∧ g₁ = g) ∨
          ∃ ty id, m.findEntityType? name = some ty ∧ answer = some id ∧
            entityForType m ty g = .ok (id, g₁))) := by
  cases hl : g.byName.lookup name with
  | some known =>
    cases (resolveEntity_known hl).symm.trans h
    exact .inl ⟨rfl, rfl⟩
  | none =>
    refine .inr ⟨rfl, ?_⟩
    cases hf : m.findEntityType? name with
    | none =>
      cases (resolveEntity_missing hl hf).symm.trans h
      exact ⟨g, rfl, .inl ⟨rfl, rfl, rfl⟩⟩
    | some ty =>
      cases he : entityForType m ty g with
      | error err =>
        unfold resolveEntity at h
        rw [GraphM.get_bind, hl, hf] at h
        change Except.bind (Except.map _ (entityForType m ty g)) _ = _ at h
        rw [he] at h
        cases h
      | ok p =>
        cases (resolveEntity_found hl hf he).symm.trans h
        exact ⟨p.2, rfl, .inr ⟨ty, p.1, rfl, rfl, he⟩⟩

namespace Graph

/-- The answer kept for a path on an entity. -/
def kept (g : Graph) (id : EntityId) (path : Path) : Option (Option PropertyType) :=
  g.entities[id]?.bind (·.pathTypes.lookup path)

/-- The subtypes that an entity is linked to; none for a number of no entity. -/
def subtypesOf (g : Graph) (id : EntityId) : List EntityId :=
  (g.entities[id]?.map (·.subtypes)).getD []

/-- Reading an entity succeeds on numbers of the graph. -/
theorem entity_eq_ok {g g' : Graph} {id : EntityId} {e : Entity} :
    (liftM (g.entity id) : GraphM Entity) g = .ok (e, g') ↔ g.entities[id]? = some e ∧ g' = g := by
  unfold entity
  constructor
  · intro h
    split at h
    · rename_i he
      cases h
      exact ⟨he, rfl⟩
    · cases h
  · rintro ⟨he, rfl⟩
    rw [he]
    rfl

theorem kept_eq {g : Graph} {id : EntityId} {e : Entity} (h : g.entities[id]? = some e)
    (path : Path) : g.kept id path = e.pathTypes.lookup path := by
  rw [kept, h]
  rfl

theorem subtypesOf_eq {g : Graph} {id : EntityId} {e : Entity} (h : g.entities[id]? = some e) :
    g.subtypesOf id = e.subtypes := by
  rw [subtypesOf, h]
  rfl

theorem Consistent.subtypesOf_eq {m : TypeModel} {g : Graph} (hg : g.Consistent m) {id : EntityId}
    {ty : TypeId} (hid : g.builtTypes[id]? = some ty) :
    g.subtypesOf id = m.subtypesAmong g.builtTypes ty := by
  obtain ⟨e, he, rfl⟩ := exists_of_builtTypes hid
  rw [Graph.subtypesOf_eq he]
  exact hg.links e (List.mem_of_getElem? he)

end Graph

theorem exactly_of_kept {walk : Entity → GraphM (Option PropertyType)} {path : Path} {id : EntityId}
    {a : Option PropertyType} {g : Graph} (h : g.kept id path = some a) :
    exactly walk path id g = .ok (a, g) := by
  obtain ⟨e, he, hl⟩ := Option.bind_eq_some_iff.mp h
  unfold exactly
  rw [GraphM.get_bind, GraphM.bind_of_eq_ok (Graph.entity_eq_ok.mpr ⟨he, rfl⟩), hl]
  rfl

theorem exactly_of_walk {walk : Entity → GraphM (Option PropertyType)} {path : Path} {id : EntityId}
    {a : Option PropertyType} {g g₁ : Graph} {e : Entity} (h : g.kept id path = none)
    (he : g.entities[id]? = some e) (hw : walk e g = .ok (a, g₁)) :
    exactly walk path id g =
      .ok (a, if a.isSome || path.length ≤ 1 then g₁.setPathType id path a else g₁) := by
  unfold exactly
  rw [GraphM.get_bind, GraphM.bind_of_eq_ok (Graph.entity_eq_ok.mpr ⟨he, rfl⟩)]
  rw [Graph.kept_eq he] at h
  rw [h]
  dsimp only
  rw [GraphM.bind_of_eq_ok hw]
  split <;> rfl

/-- The answer was kept, or the walk has found it and it is kept now, except a failure on a path of
several segments. -/
theorem exactly_eq_ok {walk : Entity → GraphM (Option PropertyType)} {path : Path} {id : EntityId}
    {a : Option PropertyType} {g g' : Graph} (h : exactly walk path id g = .ok (a, g')) :
    (g.kept id path = some a ∧ g' = g) ∨
      (g.kept id path = none ∧ ∃ e g₁, g.entities[id]? = some e ∧ walk e g = .ok (a, g₁) ∧
        g' = if a.isSome || path.length ≤ 1 then g₁.setPathType id path a else g₁) := by
  cases hk : g.kept id path with
  | some known =>
    cases (exactly_of_kept hk).symm.trans h
    exact .inl ⟨rfl, rfl⟩
  | none =>
    refine .inr ⟨rfl, ?_⟩
    unfold exactly at h
    rw [GraphM.get_bind] at h
    obtain ⟨e, g₀, hread, hfound⟩ := GraphM.bind_eq_ok h
    obtain ⟨he, rfl⟩ := Graph.entity_eq_ok.mp hread
    rw [Graph.kept_eq he] at hk
    rw [hk] at hfound
    obtain ⟨b, g₁, hw, hend⟩ := GraphM.bind_eq_ok hfound
    refine ⟨e, g₁, he, ?_⟩
    split at hend <;> rename_i hs <;> cases hend
    · exact ⟨hw, (if_pos hs).symm⟩
    · exact ⟨hw, (if_neg hs).symm⟩

/-- The entity has answered, or it has not and the subtypes were asked that it was linked to
then. -/
theorem withSubtypes_eq_ok {fallback : Bool} {ask : EntityId → GraphM (Option PropertyType)}
    {id : EntityId} {a : Option PropertyType} {g g' : Graph}
    (h : withSubtypes fallback ask id g = .ok (a, g')) :
    ∃ own g₁, ask id g = .ok (own, g₁) ∧
      ((own = a ∧ g' = g₁ ∧ (a.isSome = true ∨ fallback = false)) ∨
        (own = none ∧ fallback = true ∧
          firstAnswer ask (g₁.subtypesOf id) g₁ = .ok (a, g'))) := by
  obtain ⟨own, g₁, hown, h⟩ := GraphM.bind_eq_ok h
  refine ⟨own, g₁, hown, ?_⟩
  cases own with
  | some t =>
    cases h
    exact .inl ⟨rfl, rfl, .inl rfl⟩
  | none =>
    cases fallback with
    | false =>
      cases h
      exact .inl ⟨rfl, rfl, .inr rfl⟩
    | true =>
      refine .inr ⟨rfl, rfl, ?_⟩
      simp only [if_true] at h
      rw [GraphM.get_bind] at h
      obtain ⟨e, g₂, hread, hfirst⟩ := GraphM.bind_eq_ok h
      obtain ⟨he, rfl⟩ := Graph.entity_eq_ok.mp hread
      rw [Graph.subtypesOf_eq he]
      exact hfirst

/-! ## Moving from graph to graph -/

/-- Where `x` succeeds, it leaves a graph that `R` relates to the one before. -/
def Moves {α : Type} (R : Graph → Graph → Prop) (x : GraphM α) : Prop :=
  ∀ ⦃g g' : Graph⦄ ⦃a : α⦄, x g = .ok (a, g') → R g g'

section
variable {α β : Type} {R : Graph → Graph → Prop}

namespace Moves

theorem map {x : GraphM α} (hx : Moves R x) (f : α → β) : Moves R (f <$> x) := by
  intro g g' b h
  change Except.map _ (x g) = _ at h
  cases hrun : x g with
  | error err => rw [hrun] at h; cases h
  | ok p =>
    rw [hrun] at h
    cases h
    exact hx hrun

theorem get_bind {f : Graph → GraphM α} (hf : ∀ g, Moves R (f g)) : Moves R (get >>= f) :=
  fun g _ _ h => hf g h

theorem lift_bind {e : Except MissingId α} {f : α → GraphM β} (hf : ∀ a, Moves R (f a)) :
    Moves R (liftM e >>= f) := by
  intro g g' b h
  cases e with
  | error err => cases h
  | ok a => exact hf a h

variable [IsPreorder Graph R]

theorem pure (a : α) : Moves R (Pure.pure a) := by
  intro g g' b h
  cases h
  exact refl_of R g

theorem bind {x : GraphM α} {f : α → GraphM β} (hx : Moves R x) (hf : ∀ a, Moves R (f a)) :
    Moves R (x >>= f) := by
  intro g g' b h
  obtain ⟨a, g₁, h₁, h₂⟩ := GraphM.bind_eq_ok h
  exact trans_of R (hx h₁) (hf a h₂)

theorem modify_bind {change : Graph → Graph} {f : PUnit → GraphM α} (hc : ∀ g, R g (change g))
    (hf : Moves R (f ⟨⟩)) : Moves R (modify change >>= f) :=
  fun g _ _ h => trans_of R (hc g) (hf h)

end Moves

/-- A lookup that succeeds also moves. -/
theorem Gives.and_moves {x : GraphM α} {g : Graph} {post : α → Graph → Prop} (h : Gives x g post)
    (hx : Moves R x) : Gives x g fun a g' => post a g' ∧ R g g' := by
  obtain ⟨a, g', hrun, hpost⟩ := h
  exact ⟨a, g', hrun, hpost, hx hrun⟩

variable [IsPreorder Graph R]

theorem componentFor_moves (hset : ∀ g ty access c, R g (g.setComponent ty access c))
    (m : TypeModel) (ty : TypeId) (inherited : Access) : Moves R (componentFor m ty inherited) := by
  unfold componentFor
  refine Moves.lift_bind fun t => Moves.get_bind fun g => ?_
  dsimp only
  split
  · exact Moves.pure _
  · exact Moves.lift_bind fun properties => Moves.modify_bind (fun g => hset g _ _ _) (Moves.pure _)

theorem typeOfProperty_moves {m : TypeModel}
    (hcomponent : ∀ ty inherited, Moves R (componentFor m ty inherited)) (owner path : String)
    (p : Property) (access : Access) : Moves R (typeOfProperty m owner path p access) := by
  unfold typeOfProperty
  split
  · exact Moves.pure _
  · exact Moves.pure _
  · split
    · exact Moves.pure _
    · exact Moves.bind (hcomponent _ _) fun c => Moves.pure _
  · exact Moves.pure _
  · split
    · exact Moves.bind (hcomponent _ _) fun c => Moves.pure _
    · exact Moves.pure _

theorem firstAnswer_moves {ask : EntityId → GraphM (Option PropertyType)}
    (hask : ∀ id, Moves R (ask id)) (ids : List EntityId) : Moves R (firstAnswer ask ids) := by
  induction ids with
  | nil => exact Moves.pure none
  | cons id ids ih =>
    unfold firstAnswer
    refine Moves.bind (hask id) fun a => ?_
    cases a with
    | some t => exact Moves.pure _
    | none => exact ih

theorem withSubtypes_moves {ask : EntityId → GraphM (Option PropertyType)}
    (hask : ∀ id, Moves R (ask id)) (fallback : Bool) (id : EntityId) :
    Moves R (withSubtypes fallback ask id) := by
  intro g g' a h
  obtain ⟨own, g₁, hown, ⟨-, rfl, -⟩ | ⟨-, -, hfirst⟩⟩ := withSubtypes_eq_ok h
  · exact hask id hown
  · exact trans_of R (hask id hown) (firstAnswer_moves hask _ hfirst)

end

namespace Graph

/-! ## Kept answers and links after a change -/

theorem getElem?_build_of {m : TypeModel} {g : Graph} {e old : Entity} {id : EntityId}
    (h : g.entities[id]? = some old) :
    (g.build m e).entities[id]? = some (linkTo m e.typeId e.id old) := by
  rw [build_entities, getElem?_concat_eq_some, List.getElem?_map, h]
  exact .inl rfl

/-- A new entity brings no answers in. -/
theorem kept_build {m : TypeModel} {g : Graph} {e : Entity} (he : e.pathTypes = [])
    (id : EntityId) (path : Path) : (g.build m e).kept id path = g.kept id path := by
  cases hi : (g.build m e).entities[id]? with
  | none =>
    have hold : g.entities[id]? = none := by
      cases h : g.entities[id]? with
      | none => rfl
      | some old => rw [getElem?_build_of h] at hi; cases hi
    rw [kept, kept, hi, hold]
  | some f =>
    rw [kept_eq hi]
    rcases getElem?_build hi with ⟨old, hold, rfl⟩ | ⟨rfl, rfl⟩
    · rw [(linkTo_frame m e.typeId e.id old).2.2.2.1, kept_eq hold]
    · rw [kept, List.getElem?_eq_none (Nat.le_refl _)]
      change e.pathTypes.lookup path = none
      rw [he]
      rfl

theorem subtypesOf_build (m : TypeModel) (g : Graph) (e : Entity) (id : EntityId) :
    g.subtypesOf id ⊆ (g.build m e).subtypesOf id := by
  cases hi : g.entities[id]? with
  | none =>
    rw [subtypesOf, hi]
    exact List.nil_subset _
  | some old =>
    rw [subtypesOf_eq hi, subtypesOf_eq (getElem?_build_of hi)]
    unfold linkTo
    split
    · exact List.subset_append_left _ _
    · exact List.Subset.refl _

theorem getElem?_setPathType_eq (g : Graph) (id i : EntityId) (path : Path)
    (a : Option PropertyType) : (g.setPathType id path a).entities[i]? =
      g.entities[i]?.map fun e =>
        if id = i then { e with pathTypes := (path, a) :: e.pathTypes } else e := by
  simp only [setPathType, List.getElem?_modify]
  cases g.entities[i]? with
  | none => rfl
  | some e => by_cases h : id = i <;> simp [h]

theorem kept_setPathType (g : Graph) (id i : EntityId) (path p : Path) (a : Option PropertyType) :
    (g.setPathType id path a).kept i p =
      if id = i ∧ p = path ∧ i < g.entities.length then some a else g.kept i p := by
  rw [kept, getElem?_setPathType_eq]
  cases hi : g.entities[i]? with
  | none =>
    have hlt : ¬ i < g.entities.length := by simpa using hi
    simp [kept, hlt]
  | some e =>
    have hlt : i < g.entities.length := (List.getElem?_eq_some_iff.mp hi).1
    rw [kept_eq hi]
    by_cases hid : id = i
    · by_cases hp : p = path
      · simp [hid, hp, hlt]
      · simp [hid, hp, List.lookup_cons, beq_false_of_ne hp]
    · simp [hid]

theorem subtypesOf_setPathType (g : Graph) (id i : EntityId) (path : Path)
    (a : Option PropertyType) : (g.setPathType id path a).subtypesOf i = g.subtypesOf i := by
  rw [subtypesOf, getElem?_setPathType_eq, subtypesOf, Option.map_map]
  congr 2
  funext e
  simp only [Function.comp_apply]
  split <;> rfl

/-! ## Graphs that keep what another holds -/

/-- What `g` holds is held by `g'`. -/
structure Keeps (g g' : Graph) : Prop where
  types : g.Extends g'
  links : ∀ id, g.subtypesOf id ⊆ g'.subtypesOf id
  names : ∀ {name : String} {answer : Option EntityId}, g.byName.lookup name = some answer →
    g'.byName.lookup name = some answer
  answers : ∀ {id : EntityId} {path : Path} {a : Option PropertyType}, g.kept id path = some a →
    g'.kept id path = some a
  collections : ∀ {role : String} {c : Collection}, g.collections.lookup role = some c →
    g'.collections.lookup role = some c

namespace Keeps

theorem refl (g : Graph) : g.Keeps g :=
  ⟨.refl g, fun _ => List.Subset.refl _, id, id, id⟩

theorem trans {g₁ g₂ g₃ : Graph} (h : g₁.Keeps g₂) (h' : g₂.Keeps g₃) : g₁.Keeps g₃ where
  types := h.types.trans h'.types
  links := fun id => List.Subset.trans (h.links id) (h'.links id)
  names := fun hl => h'.names (h.names hl)
  answers := fun hk => h'.answers (h.answers hk)
  collections := fun hl => h'.collections (h.collections hl)

instance : IsPreorder Graph Keeps where
  refl := refl
  trans _ _ _ := trans

variable {g g' : Graph}

theorem build {m : TypeModel} {e : Entity} (he : e.pathTypes = []) : g.Keeps (g.build m e) where
  types := extends_build m g e
  links := subtypesOf_build m g e
  names := fun hl => by rw [lookup_build, hl]; rfl
  answers := fun hk => by rw [kept_build he]; exact hk
  collections := fun hl => by rw [(build_tables m g e).2.1]; exact hl

/-! The following changes are made on `g'`; it is in `g` that there was no answer yet. -/

theorem setName (h : g.Keeps g') {name : String} (hnone : g.byName.lookup name = none)
    (answer : Option EntityId) : g.Keeps (g'.setName name answer) := by
  refine { h with names := ?_ }
  intro n a hl
  rw [lookup_setName]
  split
  · rename_i hn
    rw [hn, hnone] at hl
    cases hl
  · exact h.names hl

theorem setPathType (h : g.Keeps g') {id : EntityId} {path : Path} (hnone : g.kept id path = none)
    (a : Option PropertyType) : g.Keeps (g'.setPathType id path a) where
  types := h.types.trans (extends_setPathType g' id path a)
  links := fun i => by rw [subtypesOf_setPathType]; exact h.links i
  names := h.names
  answers := by
    intro i p b hk
    rw [kept_setPathType]
    split
    · rename_i hthis
      rw [← hthis.1, hthis.2.1, hnone] at hk
      cases hk
    · exact h.answers hk
  collections := h.collections

theorem setCollection (h : g.Keeps g') {role : String} (hnone : g.collections.lookup role = none)
    (c : Collection) : g.Keeps (g'.setCollection role c) := by
  refine { h with collections := ?_ }
  intro r k hl
  have hne : r ≠ role := by
    rintro rfl
    rw [hnone] at hl
    cases hl
  change List.lookup r ((role, c) :: g'.collections) = some k
  rw [List.lookup_cons, beq_false_of_ne hne]
  exact h.collections hl

theorem setComponent (g : Graph) (ty : TypeId) (access : Access) (c : Component) :
    g.Keeps (g.setComponent ty access c) :=
  { refl g with }

end Keeps

end Graph

/-! ## The rule for all lookups -/

/-- A path had no kept answer on an entity of `g`; its walk ends at `g₁` with one that is to be
kept. -/
structure Graph.Finds (m : TypeModel) (fallback : Bool) (g g₁ : Graph) (id : EntityId) (path : Path)
    (a : Option PropertyType) : Prop where
  unasked : g.kept id path = none
  walk : ∃ e, g.entities[id]? = some e ∧
    pathType m fallback path e.name "" e.typeId e.access g = .ok (a, g₁)
  lasting : a.isSome = true ∨ path.length ≤ 1

theorem exactPropertyType_of_walk {m : TypeModel} {fallback : Bool} {path : Path} {id : EntityId}
    {a : Option PropertyType} {g g₁ : Graph} {e : Entity} (h : g.kept id path = none)
    (he : g.entities[id]? = some e)
    (hw : pathType m fallback path e.name "" e.typeId e.access g = .ok (a, g₁)) :
    exactPropertyType m fallback id path g =
      .ok (a, if a.isSome || path.length ≤ 1 then g₁.setPathType id path a else g₁) :=
  exactly_of_walk h he hw

theorem Graph.Finds.exactPropertyType_eq {m : TypeModel} {fallback : Bool} {g g₁ : Graph}
    {id : EntityId} {path : Path} {a : Option PropertyType} (h : g.Finds m fallback g₁ id path a) :
    exactPropertyType m fallback id path g = .ok (a, g₁.setPathType id path a) := by
  obtain ⟨e, he, hw⟩ := h.walk
  have hset := exactPropertyType_of_walk h.unasked he hw
  rwa [if_pos (by simpa using h.lasting)] at hset

/-- `R` covers the single changes that lookups of paths make. What a walk finds is compared with
the graph on which the walk began. -/
structure CoversPaths (m : TypeModel) (fallback : Bool) (R : Graph → Graph → Prop) : Prop where
  name : ∀ name, Moves R (resolveEntity m name)
  component : ∀ ty inherited, Moves R (componentFor m ty inherited)
  answer : ∀ {g g₁ : Graph} {id : EntityId} {path : Path} {a : Option PropertyType},
    g.Finds m fallback g₁ id path a → R g g₁ → R g (g₁.setPathType id path a)

/-- `R` covers the single changes that lookups of any kind make. -/
structure Covers (m : TypeModel) (fallback : Bool) (R : Graph → Graph → Prop) : Prop
    extends CoversPaths m fallback R where
  all : Moves R (resolveAll m)
  collection : ∀ {g g₁ : Graph} {role : String} {c : Collection},
    g.collections.lookup role = none → g₁.collections.lookup role = none →
    resolveCollection m fallback role g = .ok (some c, g₁.setCollection role c) → R g g₁ →
    R g (g₁.setCollection role c)

section
variable {m : TypeModel} {fallback : Bool} {R : Graph → Graph → Prop} [IsPreorder Graph R]

theorem exactPropertyType_moves {path : Path}
    (hanswer : ∀ {g g₁ : Graph} {id : EntityId} {a : Option PropertyType},
      g.Finds m fallback g₁ id path a → R g g₁ → R g (g₁.setPathType id path a))
    (hwalk : ∀ owner above ty access, Moves R (pathType m fallback path owner above ty access))
    (id : EntityId) : Moves R (exactPropertyType m fallback id path) := by
  intro g g' a h
  rcases exactly_eq_ok h with ⟨-, rfl⟩ | ⟨hnone, e, g₁, he, hw, rfl⟩
  · exact refl_of R g'
  · have hmove := hwalk _ _ _ _ hw
    split
    · rename_i hs
      exact hanswer ⟨hnone, ⟨e, he, hw⟩, by simpa using hs⟩ hmove
    · exact hmove

/-- By induction on the path: only what is left of it is asked of other entities. -/
theorem pathType_moves (hname : ∀ name, Moves R (resolveEntity m name))
    (hcomponent : ∀ ty inherited, Moves R (componentFor m ty inherited)) (path : Path)
    (hanswer : ∀ {rest : Path}, rest.length < path.length →
      ∀ {g g₁ : Graph} {id : EntityId} {a : Option PropertyType},
        g.Finds m fallback g₁ id rest a → R g g₁ → R g (g₁.setPathType id rest a))
    (owner above : String) (ty : TypeId) (access : Access) :
    Moves R (pathType m fallback path owner above ty access) := by
  induction path generalizing owner above ty access with
  | nil => exact Moves.pure none
  | cons head path ih =>
    have ih := ih fun hlt => hanswer (Nat.lt_succ_of_lt hlt)
    cases path with
    | nil =>
      rw [pathType_single]
      refine Moves.lift_bind fun p? => ?_
      cases p? with
      | none => exact Moves.pure none
      | some p => exact typeOfProperty_moves hcomponent _ _ p access
    | cons next rest =>
      rw [pathType_cons]
      refine Moves.lift_bind fun p? => ?_
      cases p? with
      | none => exact Moves.pure none
      | some p =>
        dsimp only
        split
        · split
          · exact Moves.pure none
          · exact Moves.lift_bind fun t => ih _ _ _ _
        · refine Moves.bind (hname _) fun id? => ?_
          cases id? with
          | none => exact Moves.pure none
          | some id =>
            refine withSubtypes_moves (fun i => ?_) fallback id
            exact exactPropertyType_moves (hanswer (Nat.lt_succ_self _)) ih i
        · exact Moves.pure none

end

theorem resolveCollection_known {m : TypeModel} {fallback : Bool} {role : String} {c : Collection}
    {g : Graph} (h : g.collections.lookup role = some c) :
    resolveCollection m fallback role g = .ok (some c, g) := by
  unfold resolveCollection
  rw [GraphM.get_bind, h]
  rfl

/-- The collection was kept, or it was looked up and is kept now, if there is one. -/
theorem resolveCollection_eq_ok {m : TypeModel} {fallback : Bool} {role : String}
    {c? : Option Collection} {g g' : Graph}
    (h : resolveCollection m fallback role g = .ok (c?, g')) :
    (g.collections.lookup role = c? ∧ g' = g) ∨
      (g.collections.lookup role = none ∧ ∃ entity path g₁,
        collectionOf m fallback entity path g = .ok (c?, g₁) ∧
          g' = c?.elim g₁ (g₁.setCollection role)) := by
  cases hl : g.collections.lookup role with
  | some known =>
    cases (resolveCollection_known hl).symm.trans h
    exact .inl ⟨rfl, rfl⟩
  | none =>
    unfold resolveCollection at h
    rw [GraphM.get_bind, hl] at h
    rcases hrole : Path.ofString role with _ | ⟨entity, _ | ⟨next, rest⟩⟩ <;>
      simp only [hrole] at h
    · cases h
      exact .inl ⟨rfl, rfl⟩
    · cases h
      exact .inl ⟨rfl, rfl⟩
    · obtain ⟨found, g₁, hrun, h⟩ := GraphM.bind_eq_ok h
      refine .inr ⟨rfl, entity, next :: rest, g₁, ?_⟩
      cases found <;> cases h <;> exact ⟨hrun, rfl⟩

namespace CoversPaths

variable {m : TypeModel} {fallback : Bool} {R : Graph → Graph → Prop} [IsPreorder Graph R]
  (hR : CoversPaths m fallback R)
include hR

theorem pathType (path : Path) (owner above : String) (ty : TypeId) (access : Access) :
    Moves R (EntityQuery.pathType m fallback path owner above ty access) :=
  pathType_moves hR.name hR.component path (fun _ => hR.answer) owner above ty access

theorem exactPropertyType (id : EntityId) (path : Path) :
    Moves R (EntityQuery.exactPropertyType m fallback id path) :=
  exactPropertyType_moves hR.answer (hR.pathType path) id

theorem propertyType (id : EntityId) (path : Path) :
    Moves R (EntityQuery.propertyType m fallback id path) :=
  withSubtypes_moves (fun i => hR.exactPropertyType i path) fallback id

theorem namedType (name : String) (path : Path) :
    Moves R (EntityQuery.namedType m fallback name path) := by
  refine Moves.bind (hR.name name) fun id? => ?_
  cases id? with
  | none => exact Moves.pure none
  | some id => exact hR.propertyType id path

theorem collectionOf (entity : String) (path : Path) :
    Moves R (EntityQuery.collectionOf m fallback entity path) := by
  rw [collectionOf_eq]
  exact (hR.namedType entity path).map _

end CoversPaths

/-- Both graphs keep the same collections. -/
def Graph.SameCollections (g g' : Graph) : Prop := g'.collections = g.collections

instance : IsPreorder Graph Graph.SameCollections where
  refl _ := rfl
  trans _ _ _ h h' := h'.trans h

theorem sameCollections_coversPaths (m : TypeModel) (fallback : Bool) :
    CoversPaths m fallback Graph.SameCollections where
  name := by
    intro name g g' answer h
    rcases resolveEntity_eq_ok h with ⟨-, rfl⟩ | ⟨-, g₁, rfl, ⟨-, -, rfl⟩ | ⟨ty, id, -, -, he⟩⟩
    · rfl
    · rfl
    · rcases entityForType_eq_ok he with ⟨-, rfl⟩ | ⟨e, -, -, rfl⟩
      · rfl
      · exact (Graph.build_tables m g e).2.1
  component := componentFor_moves (fun _ _ _ _ => rfl) m
  answer := fun _ h => h

namespace Covers

variable {m : TypeModel} {fallback : Bool} {R : Graph → Graph → Prop} [IsPreorder Graph R]
  (hR : Covers m fallback R)
include hR

theorem resolveCollection (role : String) :
    Moves R (EntityQuery.resolveCollection m fallback role) := by
  intro g g' c? h
  rcases resolveCollection_eq_ok h with ⟨-, rfl⟩ | ⟨hnone, entity, path, g₁, hrun, rfl⟩
  · exact refl_of R g'
  · have hmove := hR.collectionOf entity path hrun
    cases c? with
    | none => exact hmove
    | some c =>
      have hsame := (sameCollections_coversPaths m fallback).collectionOf entity path hrun
      have hnone₁ : g₁.collections.lookup role = none := by
        rw [show g₁.collections = g.collections from hsame]
        exact hnone
      exact hR.collection hnone hnone₁ h hmove

theorem collectionElementType (role : String) (path : Path) :
    Moves R (EntityQuery.collectionElementType m fallback role path) := by
  refine Moves.bind (hR.resolveCollection role) fun c? => ?_
  cases c? with
  | none => exact Moves.pure none
  | some c =>
    dsimp only
    split
    · exact hR.namedType _ path
    · exact hR.pathType path _ _ _ _
    · exact Moves.pure none

theorem run (q : Request) : Moves R (q.run m fallback) := by
  cases q with
  | entity name => exact (hR.name name).map _
  | allEntities => exact hR.all.map _
  | propertyType id path => exact (hR.propertyType id _).map _
  | exactPropertyType id path => exact (hR.exactPropertyType id _).map _
  | collection role => exact (hR.resolveCollection role).map _
  | elementType role path => exact (hR.collectionElementType role _).map _
  | component ty inherited => exact (hR.component ty inherited).map _

theorem runAll (qs : List Request) : Moves R (Request.runAll m fallback qs) := by
  induction qs with
  | nil => exact Moves.pure []
  | cons q rest ih =>
    exact Moves.bind (hR.run q) fun answer => Moves.bind ih fun _ => Moves.pure _

end Covers

/-! ## Every lookup keeps what is there -/

section
variable (m : TypeModel) (fallback : Bool)

theorem entityForType_keeps (ty : TypeId) : Moves Graph.Keeps (entityForType m ty) := by
  intro g g' id h
  rcases entityForType_eq_ok h with ⟨-, rfl⟩ | ⟨e, hd, -, rfl⟩
  · exact .refl g'
  · exact .build (Graph.describeEntity_fields hd).2.2.2.1

theorem resolveEntity_keeps (name : String) : Moves Graph.Keeps (resolveEntity m name) := by
  intro g g' answer h
  rcases resolveEntity_eq_ok h with ⟨-, rfl⟩ | ⟨hnone, g₁, rfl, ⟨-, -, rfl⟩ | ⟨ty, id, -, -, he⟩⟩
  · exact .refl g'
  · exact Graph.Keeps.setName (.refl g₁) hnone answer
  · exact (entityForType_keeps m ty he).setName hnone answer

theorem entitiesForTypes_keeps (tys : List TypeId) :
    Moves Graph.Keeps (entitiesForTypes m tys) := by
  induction tys with
  | nil => exact Moves.pure []
  | cons ty rest ih =>
    exact Moves.bind (entityForType_keeps m ty) fun id => Moves.bind ih fun ids => Moves.pure _

theorem keeps_covers : Covers m fallback Graph.Keeps where
  name := resolveEntity_keeps m
  all := entitiesForTypes_keeps m _
  component := componentFor_moves Graph.Keeps.setComponent m
  answer := fun hfinds hkeeps => hkeeps.setPathType hfinds.unasked _
  collection := fun hnone _ _ hkeeps => hkeeps.setCollection hnone _

theorem pathType_keeps (path : Path) (owner above : String) (ty : TypeId) (access : Access) :
    Moves Graph.Keeps (pathType m fallback path owner above ty access) :=
  (keeps_covers m fallback).pathType path owner above ty access

theorem exactPropertyType_keeps (id : EntityId) (path : Path) :
    Moves Graph.Keeps (exactPropertyType m fallback id path) :=
  (keeps_covers m fallback).exactPropertyType id path

end

/-! ## From one graph to a later one -/

/-- Some history of lookups leads from `g` to `g'`. -/
def Graph.LeadsTo (m : TypeModel) (fallback : Bool) (g g' : Graph) : Prop :=
  ∃ qs answers, Request.runAll m fallback qs g = .ok (answers, g')

namespace Graph.LeadsTo

variable {m : TypeModel} {fallback : Bool} {g g' : Graph}

theorem trans {g'' : Graph} (h : g.LeadsTo m fallback g') (h' : g'.LeadsTo m fallback g'') :
    g.LeadsTo m fallback g'' := by
  obtain ⟨qs, answers, hrun⟩ := h
  obtain ⟨qs', answers', hrun'⟩ := h'
  refine ⟨qs ++ qs', answers ++ answers', ?_⟩
  induction qs generalizing g answers with
  | nil =>
    cases hrun
    exact hrun'
  | cons q rest ih =>
    obtain ⟨answer, g₁, hq, hrest⟩ := GraphM.bind_eq_ok hrun
    obtain ⟨later, g₂, hlater, hlast⟩ := GraphM.bind_eq_ok hrest
    cases hlast
    rw [List.cons_append, Request.runAll, GraphM.bind_of_eq_ok hq,
      GraphM.bind_of_eq_ok (ih _ hlater)]
    rfl

instance (m : TypeModel) (fallback : Bool) : IsPreorder Graph (LeadsTo m fallback) where
  refl _ := ⟨[], [], rfl⟩
  trans _ _ _ := trans

theorem of_run {q : Request} {answer : Answer} (h : q.run m fallback g = .ok (answer, g')) :
    g.LeadsTo m fallback g' := by
  refine ⟨[q], [answer], ?_⟩
  rw [Request.runAll, GraphM.bind_of_eq_ok h]
  rfl

/-- A path that was looked up by its dotted text. -/
theorem of_exactPropertyType {id : EntityId} {text : String} {path : Path}
    {a : Option PropertyType} (hpath : Path.ofString text = path)
    (h : exactPropertyType m fallback id path g = .ok (a, g')) : g.LeadsTo m fallback g' := by
  rw [← hpath] at h
  exact of_run (q := .exactPropertyType id text) (GraphM.map_of_eq_ok h _)

theorem keeps (h : g.LeadsTo m fallback g') : g.Keeps g' := by
  obtain ⟨qs, answers, hrun⟩ := h
  exact (keeps_covers m fallback).runAll qs hrun

theorem inv (h : g.LeadsTo m fallback g') {acc : Account} {Inv : Graph → Prop}
    (hk : acc.Maintains m fallback Inv) (hm : m.Accepted) (hc : acc.Closed m) (hg : Inv g) :
    Inv g' := by
  obtain ⟨qs, answers, hrun⟩ := h
  exact hk.runAll_inv hm hc hg hrun

theorem consistent (h : g.LeadsTo m fallback g') (hm : m.Accepted) (hg : g.Consistent m) :
    g'.Consistent m :=
  h.inv (Account.free_maintains hm fallback) hm (Account.free_closed hm) hg

end Graph.LeadsTo

end EntityQuery
