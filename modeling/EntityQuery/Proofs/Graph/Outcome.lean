import Mathlib
import EntityQuery.Graph.PathType
/-!
# Outcomes of lookups

`Gives x g post` says that the lookup `x` succeeds on the graph `g` and that its answer and the
graph it leaves satisfy `post`. Lookups are sequences of smaller ones, so their outcomes are put
together with `Gives.bind`; the three lookups that every path goes through (`exactly`,
`firstAnswer`, `withSubtypes`) get one rule each, for any invariant of graphs.

Results:
* `exactly_gives`: an answer on one entity is one that was kept, or one that the walk finds.
* `firstAnswer_gives`, `withSubtypes_gives`: the entities are asked in order until one answers.
-/
namespace EntityQuery

/-- `x` succeeds on `g`, with an answer and a graph that satisfy `post`. -/
def Gives {α : Type} (x : GraphM α) (g : Graph) (post : α → Graph → Prop) : Prop :=
  ∃ a g', x g = .ok (a, g') ∧ post a g'

namespace Gives

variable {α β : Type} {g : Graph} {post : β → Graph → Prop}

theorem pure {a : β} (h : post a g) : Gives (Pure.pure a) g post := ⟨a, g, rfl, h⟩

theorem bind {x : GraphM α} {f : α → GraphM β} {Q : α → Graph → Prop} (hx : Gives x g Q)
    (hf : ∀ a g', Q a g' → Gives (f a) g' post) : Gives (x >>= f) g post := by
  obtain ⟨a, g', hrun, hq⟩ := hx
  obtain ⟨b, g'', hrun', hpost⟩ := hf a g' hq
  refine ⟨b, g'', ?_, hpost⟩
  change Except.bind (x g) _ = _
  rw [hrun]
  exact hrun'

theorem mono {x : GraphM β} {Q : β → Graph → Prop} (hx : Gives x g Q)
    (h : ∀ a g', Q a g' → post a g') : Gives x g post := by
  obtain ⟨a, g', hrun, hq⟩ := hx
  exact ⟨a, g', hrun, h a g' hq⟩

theorem map {x : GraphM α} {f : α → β} (hx : Gives x g fun a g' => post (f a) g') :
    Gives (f <$> x) g post := by
  obtain ⟨a, g', hrun, hpost⟩ := hx
  refine ⟨f a, g', ?_, hpost⟩
  change Except.map _ (x g) = _
  rw [hrun]
  rfl

theorem get_bind {f : Graph → GraphM β} (h : Gives (f g) g post) : Gives (get >>= f) g post := h

theorem modify_bind {change : Graph → Graph} {f : PUnit → GraphM β}
    (h : Gives (f ⟨⟩) (change g) post) : Gives (modify change >>= f) g post := h

theorem lift_bind {e : Except MissingId α} {a : α} {f : α → GraphM β} (he : e = .ok a)
    (h : Gives (f a) g post) : Gives (liftM e >>= f) g post := by
  subst he
  exact h

/-- A lookup has one outcome. -/
theorem of_eq_ok {x : GraphM β} (hx : Gives x g post) {b : β} {g' : Graph}
    (hrun : x g = .ok (b, g')) : post b g' := by
  obtain ⟨a, g'', hrun', hpost⟩ := hx
  rw [hrun] at hrun'
  cases hrun'
  exact hpost

end Gives

theorem GraphM.get_bind {α : Type} (f : Graph → GraphM α) (g : Graph) :
    (get >>= f) g = f g g := rfl

theorem GraphM.bind_of_eq_ok {α β : Type} {x : GraphM α} {g g' : Graph} {a : α}
    (h : x g = .ok (a, g')) (f : α → GraphM β) : (x >>= f) g = f a g' := by
  change Except.bind (x g) (fun p => f p.1 p.2) = _
  rw [h]
  rfl

theorem GraphM.map_of_eq_ok {α β : Type} {x : GraphM α} {g g' : Graph} {a : α}
    (h : x g = .ok (a, g')) (f : α → β) : (f <$> x) g = .ok (f a, g') := by
  change Except.map _ (x g) = _
  rw [h]
  rfl

/-- Where a sequence of lookups succeeds, each of them does. -/
theorem GraphM.bind_eq_ok {α β : Type} {x : GraphM α} {f : α → GraphM β} {g g' : Graph} {b : β}
    (h : (x >>= f) g = .ok (b, g')) : ∃ a g₁, x g = .ok (a, g₁) ∧ f a g₁ = .ok (b, g') := by
  change Except.bind (x g) (fun p => f p.1 p.2) = _ at h
  cases hx : x g with
  | error e => rw [hx] at h; cases h
  | ok p => rw [hx] at h; exact ⟨p.1, p.2, rfl, h⟩

/-- One after the other is asked until one has an answer; `answers x a` says that `a` is what `x`
answers. -/
inductive FirstOf {α : Type} (answers : α → Option PropertyType → Prop) :
    List α → Option PropertyType → Prop
  | nobody : FirstOf answers [] none
  | here {x : α} {xs : List α} {t : PropertyType} (h : answers x (some t)) :
    FirstOf answers (x :: xs) (some t)
  | later {x : α} {xs : List α} {a : Option PropertyType} (h : answers x none)
    (rest : FirstOf answers xs a) : FirstOf answers (x :: xs) a

theorem FirstOf.exists_of_some {α : Type} {answers : α → Option PropertyType → Prop} {xs : List α}
    {t : PropertyType} (h : FirstOf answers xs (some t)) : ∃ x ∈ xs, answers x (some t) := by
  generalize ha : some t = a at h
  induction h with
  | nobody => cases ha
  | here h => exact ⟨_, List.mem_cons_self, ha ▸ h⟩
  | later _ _ ih =>
    obtain ⟨x, hx, h⟩ := ih ha
    exact ⟨x, List.mem_cons_of_mem _ hx, h⟩

/-- Where there is no answer, nobody had one. -/
theorem FirstOf.of_none {α : Type} {answers : α → Option PropertyType → Prop} {xs : List α}
    (h : FirstOf answers xs none) {x : α} (hx : x ∈ xs) : answers x none := by
  generalize ha : none = a at h
  induction h with
  | nobody => cases hx
  | here => cases ha
  | later h _ ih =>
    subst ha
    rcases List.mem_cons.mp hx with rfl | hx
    · exact h
    · exact ih hx rfl

/-- The answer is that of the first one who has any. -/
theorem FirstOf.of_split {α : Type} {answers : α → Option PropertyType → Prop}
    {before after : List α} {x : α} {a : Option PropertyType}
    (h : FirstOf answers (before ++ x :: after) a)
    (hbefore : ∀ y ∈ before, ∀ t, ¬ answers y (some t)) (hx : ¬ answers x none) : answers x a := by
  induction before with
  | nil =>
    cases h with
    | here h => exact h
    | later h _ => exact absurd h hx
  | cons y before ih =>
    cases h with
    | here h => exact absurd h (hbefore y List.mem_cons_self _)
    | later _ rest => exact ih rest fun z hz => hbefore z (List.mem_cons_of_mem y hz)

theorem FirstOf.mono {α : Type} {answers answers' : α → Option PropertyType → Prop} {xs : List α}
    {a : Option PropertyType} (h : FirstOf answers xs a)
    (himp : ∀ x a, answers x a → answers' x a) : FirstOf answers' xs a := by
  induction h with
  | nobody => exact .nobody
  | here h => exact .here (himp _ _ h)
  | later h _ ih => exact .later (himp _ _ h) ih

/-- The types of the entities of a graph, in order of construction. -/
def Graph.builtTypes (g : Graph) : List TypeId := g.entities.map (·.typeId)

@[simp] theorem Graph.length_builtTypes (g : Graph) : g.builtTypes.length = g.entities.length := by
  simp [Graph.builtTypes]

theorem Graph.builtTypes_getElem? {g : Graph} {id : EntityId} {e : Entity}
    (h : g.entities[id]? = some e) : g.builtTypes[id]? = some e.typeId := by
  simp [Graph.builtTypes, h]

theorem Graph.exists_of_builtTypes {g : Graph} {id : EntityId} {ty : TypeId}
    (h : g.builtTypes[id]? = some ty) : ∃ e, g.entities[id]? = some e ∧ e.typeId = ty := by
  simpa [Graph.builtTypes] using h

/-- The entities of `g` are the first ones of `g'`. -/
def Graph.Extends (g g' : Graph) : Prop := g.builtTypes <+: g'.builtTypes

namespace Graph.Extends

theorem refl (g : Graph) : g.Extends g := List.prefix_refl _

theorem trans {g₁ g₂ g₃ : Graph} (h : g₁.Extends g₂) (h' : g₂.Extends g₃) : g₁.Extends g₃ :=
  List.IsPrefix.trans h h'

theorem length_le {g g' : Graph} (h : g.Extends g') : g.entities.length ≤ g'.entities.length := by
  simpa using List.IsPrefix.length_le h

theorem subset {g g' : Graph} (h : g.Extends g') : g.builtTypes ⊆ g'.builtTypes :=
  List.IsPrefix.subset h

theorem getElem? {g g' : Graph} (h : g.Extends g') {id : EntityId} {ty : TypeId}
    (hid : g.builtTypes[id]? = some ty) : g'.builtTypes[id]? = some ty := by
  obtain ⟨rest, hrest⟩ := h
  obtain ⟨hlt, -⟩ := List.getElem?_eq_some_iff.mp hid
  rw [← hrest, List.getElem?_append_left hlt, hid]

end Graph.Extends

namespace Graph

/-- The number is that of an entity of the type, or there is neither. -/
def Is (g : Graph) (id? : Option EntityId) (ty? : Option TypeId) : Prop :=
  Option.Rel (fun id ty => g.builtTypes[id]? = some ty) id? ty?

theorem is_none_iff {g : Graph} {ty? : Option TypeId} : g.Is none ty? ↔ ty? = none := by
  cases ty? <;> simp [Is]

theorem is_some_iff {g : Graph} {id : EntityId} {ty? : Option TypeId} :
    g.Is (some id) ty? ↔ ∃ ty, ty? = some ty ∧ g.builtTypes[id]? = some ty := by
  cases ty? <;> simp [Is]

theorem Is.extends {g g' : Graph} {id? : Option EntityId} {ty? : Option TypeId} (h : g.Is id? ty?)
    (hext : g.Extends g') : g'.Is id? ty? := by
  cases h with
  | none => exact .none
  | some h => exact .some (hext.getElem? h)

/-- The entities `ids` are those of the types `tys`. -/
def Are (g : Graph) (ids : List EntityId) (tys : List TypeId) : Prop :=
  List.Forall₂ (fun id ty => g.builtTypes[id]? = some ty) ids tys

theorem Are.extends {g g' : Graph} {ids : List EntityId} {tys : List TypeId} (h : g.Are ids tys)
    (hext : g.Extends g') : g'.Are ids tys :=
  List.Forall₂.imp (fun _ _ => hext.getElem?) h

end Graph

/-! ## Answers on one entity and among several -/

section
variable {g : Graph} {Inv : Graph → Prop}

theorem exactly_gives {walk : Entity → GraphM (Option PropertyType)} {path : Path} {id : EntityId}
    {e : Entity} {good : Option PropertyType → Prop} (he : g.entities[id]? = some e)
    (hg : Inv g) (hkept : ∀ a, e.pathTypes.lookup path = some a → good a)
    (hwalk : Gives (walk e) g fun a g' => Inv g' ∧ g.Extends g' ∧ good a)
    (hset : ∀ a g', Inv g' → g.Extends g' → good a →
      Inv (g'.setPathType id path a) ∧ g'.Extends (g'.setPathType id path a)) :
    Gives (exactly walk path id) g fun a g' => Inv g' ∧ g.Extends g' ∧ good a := by
  unfold exactly
  refine Gives.get_bind (Gives.lift_bind (a := e) (by simp [Graph.entity, he]) ?_)
  split
  · rename_i a hl
    exact Gives.pure ⟨hg, .refl g, hkept a hl⟩
  · refine Gives.bind hwalk fun a g' ⟨hg', hext, ha⟩ => ?_
    obtain ⟨hinv, hext'⟩ := hset a g' hg' hext ha
    dsimp only
    split
    · exact Gives.modify_bind (Gives.pure ⟨hinv, hext.trans hext', ha⟩)
    · exact Gives.pure ⟨hg', hext, ha⟩

variable {ask : EntityId → GraphM (Option PropertyType)}
  {answers : TypeId → Option PropertyType → Prop}
  (hask : ∀ g id ty, Inv g → g.builtTypes[id]? = some ty →
    Gives (ask id) g fun a g' => Inv g' ∧ g.Extends g' ∧ answers ty a)
include hask

theorem firstAnswer_gives {ids : List EntityId} {tys : List TypeId} (hg : Inv g)
    (hids : g.Are ids tys) :
    Gives (firstAnswer ask ids) g fun a g' => Inv g' ∧ g.Extends g' ∧ FirstOf answers tys a := by
  induction ids generalizing g tys with
  | nil =>
    cases hids
    exact Gives.pure ⟨hg, .refl g, .nobody⟩
  | cons id ids ih =>
    obtain ⟨ty, tys, hid, hids', rfl⟩ := List.forall₂_cons_left_iff.mp hids
    unfold firstAnswer
    refine Gives.bind (hask g id ty hg hid) fun a g' ⟨hg', hext, ha⟩ => ?_
    cases a with
    | some t => exact Gives.pure ⟨hg', hext, .here ha⟩
    | none =>
      exact (ih hg' (Graph.Are.extends hids' hext)).mono fun b g'' ⟨h1, h2, h3⟩ =>
        ⟨h1, hext.trans h2, .later ha h3⟩

theorem withSubtypes_gives {fallback : Bool} {id : EntityId} {ty : TypeId}
    {subs : List TypeId → Prop} (hg : Inv g) (hid : g.builtTypes[id]? = some ty)
    (hlinks : ∀ g e, Inv g → g.entities[id]? = some e → e.typeId = ty →
      ∃ tys, g.Are (if fallback then e.subtypes else []) tys ∧ subs tys) :
    Gives (withSubtypes fallback ask id) g fun a g' => Inv g' ∧ g.Extends g' ∧
      ∃ tys, subs tys ∧ FirstOf answers (ty :: tys) a := by
  unfold withSubtypes
  refine Gives.bind (hask g id ty hg hid) fun a g₁ ⟨hg₁, hext, ha⟩ => ?_
  -- the links are read after the entity itself was asked, so they may be newer than `g`
  obtain ⟨e, he, hty⟩ := Graph.exists_of_builtTypes (hext.getElem? hid)
  obtain ⟨tys, hare, htys⟩ := hlinks g₁ e hg₁ he hty
  cases a with
  | some t => exact Gives.pure ⟨hg₁, hext, tys, htys, .here ha⟩
  | none =>
    dsimp only
    cases fallback with
    | false =>
      obtain rfl : tys = [] := List.forall₂_nil_left_iff.mp hare
      exact Gives.pure ⟨hg₁, hext, [], htys, .later ha .nobody⟩
    | true =>
      refine Gives.get_bind (Gives.lift_bind (a := e) (by simp [Graph.entity, he]) ?_)
      exact (firstAnswer_gives hask hg₁ hare).mono fun b g₂ ⟨h1, h2, h3⟩ =>
        ⟨h1, hext.trans h2, tys, htys, .later ha h3⟩

end

end EntityQuery
