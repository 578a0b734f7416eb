import Mathlib
import EntityQuery.Graph.Lookup
import EntityQuery.Proofs.Graph.Consistency
/-!
# Accounts of lookups

What a graph answers depends on what it was asked before. An `Account` says which answers there can
be: what a name may stand for, which subtypes an entity may be linked to, and what an entity and a
role may answer. It is closed if the answers follow from one another along walks, and an invariant
of graphs maintains it if the four tables hold nothing else.

Results:
* `pathType_eq_walk`: a path is looked up by walking to its end and going on from there.
* `Maintains.pathType_gives`, `Maintains.propertyType_gives`, `Maintains.resolveCollection_gives`,
  `Maintains.collectionElementType_gives`: every lookup succeeds, answers as the account says, and
  keeps the invariant.
-/
namespace EntityQuery

/-- The type of a path on a named entity. -/
def namedType (types : TypeModel) (fallback : Bool) (name : String) (path : Path) :
    GraphM (Option PropertyType) := do
  match ← resolveEntity types name with
  | none => return none
  | some id => propertyType types fallback id path

/-- What lookups may say. -/
structure Account where
  names : String → Option TypeId → Prop
  /-- The types of the subtypes that are asked after an entity. -/
  subs : TypeId → List TypeId → Prop
  /-- Answers to a path on exactly one entity. -/
  answers : TypeId → Path → Option PropertyType → Prop
  collections : String → Option Collection → Prop

namespace Account

section
variable (acc : Account) (m : TypeModel)

/-- An entity, or one of its subtypes, answers. -/
def WithSubtypes (ty : TypeId) (path : Path) (a : Option PropertyType) : Prop :=
  ∃ tys, acc.subs ty tys ∧ FirstOf (acc.answers · path) (ty :: tys) a

/-- A named entity, or one of its subtypes, answers. -/
def Named (name : String) (path : Path) (a : Option PropertyType) : Prop :=
  ∃ ty?, acc.names name ty? ∧
    match ty? with
    | none => a = none
    | some ty => acc.WithSubtypes ty path a

/-- The end of a walk leads to the answer. -/
def AtEnd (owner : String) : PathEnd → Option PropertyType → Prop
  | .nowhere, a => a = none
  | .found p path access, a => m.typeOf owner path p access = .ok a
  | .onward target rest, a => acc.Named target rest a

/-- A path from a type leads to the answer. -/
def Reads (path : Path) (owner above : String) (ty : TypeId) (access : Access)
    (a : Option PropertyType) : Prop :=
  ∃ stop, m.walk path above ty access = .ok stop ∧ acc.AtEnd m owner stop a

/-- A role, taken apart, leads to the collection. -/
def Role (role : String) (c? : Option Collection) : Prop :=
  match Path.ofString role with
  | entity :: next :: rest =>
    ∃ a, acc.Named entity (next :: rest) a ∧ c? = a.bind (·.collection?)
  | _ => c? = none

/-- A path within the elements of a collection leads to the answer. -/
def Element (role : String) (path : Path) (a : Option PropertyType) : Prop :=
  ∃ c?, acc.collections role c? ∧
    match c? with
    | none => a = none
    | some c =>
      match c.element with
      | .entity name => acc.Named name path a
      | .component k =>
        acc.Reads m path c.owner (Path.toString (Path.ofString role).tail) k.typeId k.access a
      | .basic _ => a = none

/-- Answers follow from one another. -/
structure Closed : Prop where
  answers : ∀ {ty : TypeId} {name : String} {own : Access} {path : Path} {a : Option PropertyType},
    m.entityHead ty = .ok (name, own) → acc.Reads m path name "" ty own a → acc.answers ty path a
  inModel : ∀ {ty : TypeId} {path : Path} {t : PropertyType},
    acc.answers ty path (some t) → t.InModel m
  collections : ∀ {role : String} {c? : Option Collection},
    acc.Role role c? → acc.collections role c?

/-- The invariant holds the tables to the account. -/
structure Maintains (fallback : Bool) (Inv : Graph → Prop) : Prop where
  consistent : ∀ {g : Graph}, Inv g → g.Consistent m
  resolve : ∀ {g : Graph} (name : String), Inv g → Gives (resolveEntity m name) g fun id? g' =>
    Inv g' ∧ g.Extends g' ∧ ∃ ty?, acc.names name ty? ∧ g'.Is id? ty?
  resolveAll : ∀ {g : Graph}, Inv g → Gives (resolveAll m) g fun ids g' =>
    Inv g' ∧ g.Extends g' ∧ g'.Are ids (m.entityTypes.map (·.1))
  links : ∀ {g : Graph} {ty : TypeId}, Inv g → ty ∈ g.builtTypes →
    acc.subs ty (m.subtypesAsked fallback g.builtTypes ty)
  kept : ∀ {g : Graph} {e : Entity} {path : Path} {a : Option PropertyType}, Inv g →
    e ∈ g.entities → e.pathTypes.lookup path = some a → acc.answers e.typeId path a
  keep : ∀ {g : Graph} {id : EntityId} {ty : TypeId} {path : Path} {a : Option PropertyType},
    Inv g → g.builtTypes[id]? = some ty → acc.answers ty path a → Inv (g.setPathType id path a)
  keptCollection : ∀ {g : Graph} {role : String} {c : Collection}, Inv g →
    g.collections.lookup role = some c → acc.collections role (some c)
  keepCollection : ∀ {g : Graph} {role : String} {c : Collection}, Inv g → c.InModel m →
    acc.collections role (some c) → Inv (g.setCollection role c)
  keepComponent : ∀ {g : Graph} {ty : TypeId} {access : Access} {c : Component}, Inv g →
    m.componentOf ty access = .ok c → Inv (g.setComponent ty access c)

end

variable {acc : Account} {m : TypeModel}

/-- Paths lead to answers of the model if entities do. -/
theorem Reads.inModel {path : Path} {owner above : String} {ty : TypeId} {access : Access}
    {t : PropertyType} (h : acc.Reads m path owner above ty access (some t)) (hm : m.Accepted)
    (hacc : ∀ ty path t, acc.answers ty path (some t) → t.InModel m) : t.InModel m := by
  obtain ⟨stop, -, hend⟩ := h
  cases stop with
  | nowhere => cases hend
  | found p full access => exact TypeModel.typeOf_inModel hm hend
  | onward target rest =>
    obtain ⟨ty?, -, hnamed⟩ := hend
    cases ty? with
    | none => cases hnamed
    | some ty =>
      obtain ⟨tys, -, hfirst⟩ := hnamed
      obtain ⟨s, -, hs⟩ := hfirst.exists_of_some
      exact hacc s rest t hs

theorem Closed.withSubtypes_inModel (hc : acc.Closed m) {ty : TypeId} {path : Path}
    {t : PropertyType} (h : acc.WithSubtypes ty path (some t)) : t.InModel m := by
  obtain ⟨tys, -, h⟩ := h
  obtain ⟨s, -, h⟩ := h.exists_of_some
  exact hc.inModel h

theorem Closed.named_inModel (hc : acc.Closed m) {name : String} {path : Path} {t : PropertyType}
    (h : acc.Named name path (some t)) : t.InModel m := by
  obtain ⟨ty?, -, h⟩ := h
  cases ty? with
  | none => cases h
  | some ty => exact hc.withSubtypes_inModel h

end Account

/-! ## The walk of a lookup -/

/-- What is looked up at the end of a walk. -/
def endType (types : TypeModel) (fallback : Bool) (owner : String) :
    PathEnd → GraphM (Option PropertyType)
  | .nowhere => return none
  | .found p path access => typeOfProperty types owner path p access
  | .onward target rest => namedType types fallback target rest

theorem liftM_ok_bind {α β : Type} (a : α) (f : α → GraphM β) :
    liftM (Except.ok a : Except MissingId α) >>= f = f a := rfl

theorem pathType_eq_walk (m : TypeModel) (fallback : Bool) (path : Path) (owner above : String)
    (ty : TypeId) (access : Access) : pathType m fallback path owner above ty access =
      liftM (m.walk path above ty access) >>= endType m fallback owner := by
  induction path generalizing above ty access with
  | nil => rfl
  | cons head path ih =>
    cases hp : m.findProperty ty head access with
    | error e =>
      cases path with
      | nil => rw [pathType_single, TypeModel.walk, hp]; rfl
      | cons next rest => rw [pathType_cons, TypeModel.walk, hp]; rfl
    | ok p? =>
      cases path with
      | nil => rw [pathType_single, TypeModel.walk, hp]; cases p? <;> rfl
      | cons next rest =>
        rw [pathType_cons, TypeModel.walk, hp]
        cases p? with
        | none => rfl
        | some p =>
          rw [liftM_ok_bind, Except.ok_bind]
          dsimp only
          cases p.kind with
          | embedded =>
            dsimp only
            cases m.resolve? p.target with
            | none => rfl
            | some target =>
              dsimp only
              cases m.info target with
              | error e => rfl
              | ok t => exact ih _ _ _
          | toOne => rfl
          | basic | toMany | elementCollection => rfl

theorem propertyTypeByName_eq (m : TypeModel) (fallback : Bool) (entity path : String) :
    propertyTypeByName m fallback entity path =
      namedType m fallback entity (Path.ofString path) := rfl

theorem collectionOf_eq (m : TypeModel) (fallback : Bool) (entity : String) (path : Path) :
    collectionOf m fallback entity path =
      (·.bind (·.collection?)) <$> namedType m fallback entity path := by
  unfold collectionOf namedType
  rw [map_bind]
  congr 1
  funext id?
  cases id? with
  | none => rfl
  | some id => rfl

/-! ## Types of properties -/

section
variable {m : TypeModel} {acc : Account} {fallback : Bool} {Inv : Graph → Prop} {g : Graph}
  (hm : m.Accepted) (hk : acc.Maintains m fallback Inv)
include hm hk

theorem Account.Maintains.componentFor_gives {ty : TypeId} (hty : ty ∈ m.ids) (inherited : Access)
    (hg : Inv g) : Gives (componentFor m ty inherited) g fun c g' =>
      Inv g' ∧ g.Extends g' ∧ m.componentIn ty inherited = .ok c := by
  obtain ⟨t, -, ht⟩ := hm.info_ok hty
  obtain ⟨ps, hps⟩ := hm.describeProperties_ok hty (t.accessFor inherited)
  have hof : m.componentOf ty (t.accessFor inherited) =
      .ok ⟨ty, t.name, t.accessFor inherited, ps⟩ := by
    rw [TypeModel.componentOf, ht, Except.ok_bind, hps]
    rfl
  rw [TypeModel.componentIn_eq ht]
  unfold componentFor
  refine Gives.lift_bind ht (Gives.get_bind ?_)
  split
  · rename_i c hl
    exact Gives.pure ⟨hg, .refl g, (hk.consistent hg).components hl⟩
  · exact Gives.lift_bind hps (Gives.modify_bind
      (Gives.pure ⟨hk.keepComponent hg hof, .refl g, hof⟩))

theorem Account.Maintains.typeOfProperty_gives (owner path : String) (p : Property)
    (access : Access) (hg : Inv g) : Gives (typeOfProperty m owner path p access) g fun a g' =>
      Inv g' ∧ g.Extends g' ∧ m.typeOf owner path p access = .ok a := by
  unfold typeOfProperty TypeModel.typeOf
  cases p.kind with
  | basic | toOne | toMany => exact Gives.pure ⟨hg, .refl g, rfl⟩
  | embedded =>
    dsimp only
    cases hr : m.resolve? p.target with
    | none => exact Gives.pure ⟨hg, .refl g, rfl⟩
    | some ty =>
      refine Gives.bind (hk.componentFor_gives hm (hm.resolve_mem _ _ hr) access hg)
        fun c g' ⟨hg', hext, hin⟩ => ?_
      refine Gives.pure ⟨hg', hext, ?_⟩
      dsimp only
      rw [hin]
      rfl
  | elementCollection =>
    dsimp only
    cases hr : (m.resolve? p.target).filter fun ty => (m.info? ty).any (·.isEmbeddable) with
    | none => exact Gives.pure ⟨hg, .refl g, rfl⟩
    | some ty =>
      have hty := hm.resolve_mem _ _ (Option.filter_eq_some_iff.mp hr).1
      refine Gives.bind (hk.componentFor_gives hm hty access hg) fun c g' ⟨hg', hext, hin⟩ => ?_
      refine Gives.pure ⟨hg', hext, ?_⟩
      dsimp only
      rw [hin]
      rfl

end

/-! ## Lookups on entities, for a path whose walks give the right answer -/

section
variable {m : TypeModel} {acc : Account} {fallback : Bool} {Inv : Graph → Prop} {g : Graph}
  (hc : acc.Closed m) (hk : acc.Maintains m fallback Inv) {path : Path}
  (hpath : ∀ {g owner above ty access}, Inv g → ty ∈ m.ids →
    Gives (pathType m fallback path owner above ty access) g fun a g' =>
      Inv g' ∧ g.Extends g' ∧ acc.Reads m path owner above ty access a)
include hc hk hpath

theorem Account.Maintains.exactPropertyType_gives_of {id : EntityId} {ty : TypeId}
    (hg : Inv g) (hid : g.builtTypes[id]? = some ty) :
    Gives (exactPropertyType m fallback id path) g fun a g' =>
      Inv g' ∧ g.Extends g' ∧ acc.answers ty path a := by
  obtain ⟨e, he, rfl⟩ := Graph.exists_of_builtTypes hid
  have hmem := List.mem_of_getElem? he
  have hhead := Graph.describeEntity_head ((hk.consistent hg).described e hmem)
  have hty := ((hk.consistent hg).entityType _ (List.mem_of_getElem? hid)).mem_ids
  refine exactly_gives he hg (fun a => hk.kept hg hmem) ?_ fun a g' hg' hext ha => ?_
  · exact (hpath hg hty).mono fun a g' h => ⟨h.1, h.2.1, hc.answers hhead h.2.2⟩
  · exact ⟨hk.keep hg' (hext.getElem? hid) ha, g'.extends_setPathType id path a⟩

theorem Account.Maintains.propertyType_gives_of {id : EntityId} {ty : TypeId}
    (hg : Inv g) (hid : g.builtTypes[id]? = some ty) :
    Gives (propertyType m fallback id path) g fun a g' =>
      Inv g' ∧ g.Extends g' ∧ acc.WithSubtypes ty path a := by
  -- the links of an entity are numbers of its strict subtypes, whenever they are read
  refine withSubtypes_gives (fun g i t hg hi => hk.exactPropertyType_gives_of hc hpath hg hi)
    hg hid fun g e hg he hty => ?_
  have hmem : ty ∈ g.builtTypes := hty ▸ List.mem_map_of_mem (List.mem_of_getElem? he)
  refine ⟨_, ?_, hk.links hg hmem⟩
  rw [(hk.consistent hg).links e (List.mem_of_getElem? he), hty]
  cases fallback with
  | false => exact .nil
  | true => exact g.are_subtypesAmong m ty

theorem Account.Maintains.namedType_gives_of (name : String) (hg : Inv g) :
    Gives (namedType m fallback name path) g fun a g' =>
      Inv g' ∧ g.Extends g' ∧ acc.Named name path a := by
  unfold namedType
  refine Gives.bind (hk.resolve name hg) fun id? g' ⟨hg', hext, ty?, hname, hrel⟩ => ?_
  cases hrel with
  | none => exact Gives.pure ⟨hg', hext, none, hname, rfl⟩
  | some hid =>
    exact (hk.propertyType_gives_of hc hpath hg' hid).mono fun a g'' ⟨h1, h2, h3⟩ =>
      ⟨h1, hext.trans h2, _, hname, h3⟩

end

/-! ## Lookups -/

section
variable {m : TypeModel} {acc : Account} {fallback : Bool} {Inv : Graph → Prop} {g : Graph}
  (hm : m.Accepted) (hc : acc.Closed m) (hk : acc.Maintains m fallback Inv)
include hm hc hk

/-- By induction on the length of the path: a walk leaves less than it was given. -/
theorem Account.Maintains.pathType_gives {path : Path} {owner above : String} {ty : TypeId}
    {access : Access} (hg : Inv g) (hty : ty ∈ m.ids) :
    Gives (pathType m fallback path owner above ty access) g fun a g' =>
      Inv g' ∧ g.Extends g' ∧ acc.Reads m path owner above ty access a := by
  induction hn : path.length using Nat.strong_induction_on
    generalizing path owner above ty access g with
  | _ n ih =>
    subst hn
    obtain ⟨stop, hstop⟩ := hm.walk_ok path above access hty
    rw [pathType_eq_walk]
    refine Gives.lift_bind hstop ?_
    cases stop with
    | nowhere => exact Gives.pure ⟨hg, .refl g, _, hstop, rfl⟩
    | found p full access =>
      exact (hk.typeOfProperty_gives hm owner full p access hg).mono fun a g' ⟨h1, h2, h3⟩ =>
        ⟨h1, h2, _, hstop, h3⟩
    | onward target rest =>
      have hlt := (TypeModel.walk_onward hstop).2.2
      exact (hk.namedType_gives_of hc (fun hg hty => ih _ hlt hg hty rfl) target hg).mono
        fun a g' ⟨h1, h2, h3⟩ => ⟨h1, h2, _, hstop, h3⟩

theorem Account.Maintains.exactPropertyType_gives {id : EntityId} {ty : TypeId} (path : Path)
    (hg : Inv g) (hid : g.builtTypes[id]? = some ty) :
    Gives (exactPropertyType m fallback id path) g fun a g' =>
      Inv g' ∧ g.Extends g' ∧ acc.answers ty path a :=
  hk.exactPropertyType_gives_of hc (hk.pathType_gives hm hc) hg hid

theorem Account.Maintains.propertyType_gives {id : EntityId} {ty : TypeId} (path : Path)
    (hg : Inv g) (hid : g.builtTypes[id]? = some ty) :
    Gives (propertyType m fallback id path) g fun a g' =>
      Inv g' ∧ g.Extends g' ∧ acc.WithSubtypes ty path a :=
  hk.propertyType_gives_of hc (hk.pathType_gives hm hc) hg hid

theorem Account.Maintains.namedType_gives (name : String) (path : Path) (hg : Inv g) :
    Gives (namedType m fallback name path) g fun a g' =>
      Inv g' ∧ g.Extends g' ∧ acc.Named name path a :=
  hk.namedType_gives_of hc (hk.pathType_gives hm hc) name hg

theorem Account.Maintains.collectionOf_gives (entity : String) (path : Path) (hg : Inv g) :
    Gives (collectionOf m fallback entity path) g fun c? g' => Inv g' ∧ g.Extends g' ∧
      ∃ a, acc.Named entity path a ∧ c? = a.bind (·.collection?) := by
  rw [collectionOf_eq]
  exact Gives.map ((hk.namedType_gives hm hc entity path hg).mono fun a g' ⟨h1, h2, h3⟩ =>
    ⟨h1, h2, a, h3, rfl⟩)

theorem Account.Maintains.resolveCollection_gives (role : String) (hg : Inv g) :
    Gives (resolveCollection m fallback role) g fun c? g' => Inv g' ∧ g.Extends g' ∧
      acc.collections role c? ∧ ∀ c, c? = some c → c.InModel m := by
  unfold resolveCollection
  refine Gives.get_bind ?_
  split
  · rename_i c hl
    refine Gives.pure ⟨hg, .refl g, hk.keptCollection hg hl, ?_⟩
    rintro _ ⟨⟩
    exact (hk.consistent hg).collections hl
  · split
    · rename_i entity next rest hrole
      refine Gives.bind (hk.collectionOf_gives hm hc entity (next :: rest) hg)
        fun c? g' ⟨hg', hext, a, ha, hc?⟩ => ?_
      have hacc : acc.collections role c? := hc.collections (by
        rw [Account.Role, hrole]
        exact ⟨a, ha, hc?⟩)
      cases c? with
      | none => exact Gives.pure ⟨hg', hext, hacc, by simp⟩
      | some c =>
        obtain ⟨t, rfl, hct⟩ := Option.bind_eq_some_iff.mp hc?.symm
        have hin : c.InModel m := hc.named_inModel ha c hct
        refine Gives.modify_bind (Gives.pure ⟨hk.keepCollection hg' hin hacc, hext, hacc, ?_⟩)
        rintro _ ⟨⟩
        exact hin
    · rename_i hrole
      refine Gives.pure ⟨hg, .refl g, hc.collections ?_, by simp⟩
      rw [Account.Role]
      split
      · rename_i entity next rest h
        exact absurd h (hrole entity next rest)
      · rfl

theorem Account.Maintains.collectionElementType_gives (role : String) (path : Path) (hg : Inv g) :
    Gives (collectionElementType m fallback role path) g fun a g' => Inv g' ∧ g.Extends g' ∧
      acc.Element m role path a := by
  unfold collectionElementType
  refine Gives.bind (hk.resolveCollection_gives hm hc role hg)
    fun c? g' ⟨hg', hext, hacc, hin⟩ => ?_
  cases c? with
  | none => exact Gives.pure ⟨hg', hext, none, hacc, rfl⟩
  | some c =>
    dsimp only
    split
    · rename_i name hel
      exact (hk.namedType_gives hm hc name path hg').mono fun a g'' ⟨h1, h2, h3⟩ =>
        ⟨h1, hext.trans h2, some c, hacc, by simpa only [hel] using h3⟩
    · rename_i k hel
      exact (hk.pathType_gives hm hc hg' (hin c rfl k hel)).mono fun a g'' ⟨h1, h2, h3⟩ =>
        ⟨h1, hext.trans h2, some c, hacc, by simpa only [hel] using h3⟩
    · rename_i b hel
      exact Gives.pure ⟨hg', hext, some c, hacc, by simp only [hel]⟩

end

end EntityQuery
