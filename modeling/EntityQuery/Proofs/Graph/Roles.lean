import Mathlib
import EntityQuery.Proofs.Graph.Settled
import EntityQuery.Proofs.Mapping.PropertyNames
/-!
# Roles of collections

A collection is called by the entity that owns it and the path from there. Its role leads back to
it where the names of entities differ and have no dots, and where no property has an empty name.

A role may be asked for in another way, through associations: the path is then longer than that of
the collection it finds. A path within the elements of the collection is put behind the longer one.

Results:
* `Settles.role`: the owner and the role of a collection.
* `collection_role`: the role of a collection that was found leads to it.
* `element_role`: the owner and the role of a collection within the elements of another.
* `element_role_asked`: the role need not extend that of the collection around it.
-/
namespace EntityQuery

/-! ## The text of a path -/

theorem extendPath_ne_empty (above : String) {head : String} (h : head ≠ "") :
    extendPath above head ≠ "" := by
  unfold extendPath
  split
  · exact h
  · intro hempty
    have hlist := congrArg String.toList hempty
    simp at hlist

theorem extendPath_of_ne {above : String} (h : above ≠ "") (head : String) :
    extendPath above head = above ++ "." ++ head := by
  simp [extendPath, h]

/-- Segments that are put behind one another make up the text of their path. -/
theorem foldl_extendPath {path : Path} (hne : path ≠ []) (h : ∀ head ∈ path, head ≠ "")
    (above : String) : path.foldl extendPath above = extendPath above (Path.toString path) := by
  induction path generalizing above with
  | nil => exact absurd rfl hne
  | cons head path ih =>
    have hhead : head ≠ "" := h head List.mem_cons_self
    cases path with
    | nil => rw [Path.toString_singleton]; rfl
    | cons next rest =>
      rw [List.foldl_cons, ih (by simp) (fun s hs => h s (List.mem_cons_of_mem head hs)),
        extendPath_of_ne (extendPath_ne_empty above hhead), Path.toString_cons head (by simp)]
      unfold extendPath
      split
      · rfl
      · simp only [String.append_assoc]

/-- A role is cut into the name of the owner and the path again. -/
theorem ofString_role {owner : String} (howner : '.' ∉ owner.toList) {text : String} {path : Path}
    (hne : path ≠ []) (hpath : path <:+ Path.ofString text) :
    Path.ofString (owner ++ "." ++ Path.toString path) = owner :: path := by
  rw [← Path.toString_cons owner hne]
  refine Path.ofString_toString (by simp) (List.forall_mem_cons.mpr ⟨howner, fun s hs => ?_⟩)
  exact Path.not_mem_of_mem_ofString (hpath.subset hs)

section
variable {rest path : Path} {text : String} (hne : rest ≠ []) (hrest : rest <:+ path)
  (hpath : path <:+ Path.ofString text)
include hne hrest hpath

theorem ofString_toString_of_suffix : Path.ofString (Path.toString path) = path :=
  Path.ofString_toString (fun h => hne (List.suffix_nil.mp (h ▸ hrest))) fun _ hs =>
    Path.not_mem_of_mem_ofString (hpath.subset hs)

/-- Of the ends of a path each is told by its text. -/
theorem toString_inj_of_suffix : Path.toString path = Path.toString rest ↔ rest = path := by
  refine ⟨fun h => ?_, fun h => by rw [h]⟩
  rw [← ofString_toString_of_suffix hne hrest hpath, h,
    ofString_toString_of_suffix hne (List.suffix_refl rest) (hrest.trans hpath)]

theorem toString_ne_empty_of_suffix (hheads : ∀ s ∈ rest, s ≠ "") : Path.toString path ≠ "" := by
  intro hempty
  have hpath' : path = [""] := by
    rw [← ofString_toString_of_suffix hne hrest hpath, hempty]
    rfl
  obtain ⟨s, hs⟩ := List.exists_mem_of_ne_nil rest hne
  exact hheads s hs (List.mem_singleton.mp (hpath' ▸ hrest.subset hs))

end

/-! ## Owners and roles -/

namespace TypeModel

variable {m : TypeModel}

theorem entityHead_name {ty : TypeId} {t : TypeInfo} (ht : (ty, t) ∈ m.entityTypes) {name : String}
    {own : Access} (h : m.entityHead ty = .ok (name, own)) : name = t.entityName := by
  obtain ⟨u, hu, h⟩ := Except.exists_of_bind_eq_ok h
  obtain ⟨chain, -, h⟩ := Except.exists_of_bind_eq_ok h
  cases h
  cases hu.symm.trans (info_eq_ok_iff.mpr (mem_entityTypes.mp ht).2.1)
  rfl

/-- A collection that an entity type settles a path with is owned by the entity, under that path. -/
theorem Settles.role {ty : TypeId} {t : TypeInfo} (ht : (ty, t) ∈ m.entityTypes) {path : Path}
    {a : PropertyType} {c : Collection} (h : m.Settles ty path (some a))
    (hc : a.collection? = some c) :
    c.owner = t.entityName ∧
      (m.FieldsNamed → c.role = c.owner ++ "." ++ Path.toString path ∧ ∀ s ∈ path, s ≠ "") := by
  obtain ⟨name, own, hhead, ⟨-, hnone⟩ | ⟨p, full, access, hwalk, htype⟩⟩ := h
  · cases hnone
  · obtain ⟨howner, hrole, -⟩ := typeOf_collection htype hc
    refine ⟨howner.trans (entityHead_name ht hhead), fun hfields => ?_⟩
    obtain ⟨hne, hfull, hfound⟩ := walk_found hwalk
    have hheads : ∀ s ∈ path, s ≠ "" := fun s hs => by
      obtain ⟨_, _, _, hp⟩ := hfound s hs
      exact hfields.name_ne_empty hp
    refine ⟨?_, hheads⟩
    rw [howner, hrole, hfull, foldl_extendPath hne hheads]
    rfl

/-- No entity name has a dot in it. -/
def UndottedEntityNames (m : TypeModel) : Prop :=
  ∀ x ∈ m.entityTypes, '.' ∉ x.2.entityName.toList

end TypeModel

theorem Declared.fieldsNamed_of_all {m : Declared}
    (h : ∀ t ∈ m.types, ∀ member ∈ t.members, member.name ≠ "") : m.toModel.FieldsNamed :=
  fun _ t ht member hmember _ => h t (List.mem_of_getElem? ht) member hmember

/-! ## The role leads back -/

/-- A collection that a path leads to has its owner and an end of the path for a role. On every
graph that grew from the model, the one that it was found on included, the role leads to it. -/
theorem collection_role {ds : List Declaration} {m : Declared} (hbuild : Declared.build ds = .ok m)
    (hnames : m.toModel.DistinctEntityNames) (hdots : m.toModel.UndottedEntityNames)
    (hfields : m.toModel.FieldsNamed) {fallback : Bool} {g g' : Graph}
    (hreach : Graph.empty.LeadsTo m.toModel fallback g) {id : EntityId} {path : String}
    {t : PropertyType} {c : Collection}
    (hrun : propertyType m.toModel fallback id (Path.ofString path) g = .ok (some t, g'))
    (hc : t.collection? = some c) :
    (∃ rest, rest ≠ [] ∧ rest <:+ Path.ofString path ∧
      c.role = c.owner ++ "." ++ Path.toString rest) ∧
    (∃ g'', resolveCollection m.toModel fallback c.role g' = .ok (some c, g'')) ∧
    ∀ {other : Bool} {h : Graph}, Graph.empty.LeadsTo m.toModel other h →
      ∃ h', resolveCollection m.toModel other c.role h = .ok (some c, h') := by
  have hm := Declared.build_accepted hbuild
  have hstep : Request.run m.toModel fallback (.propertyType id path) g = .ok (.type (some t), g') :=
    GraphM.map_of_eq_ok hrun _
  obtain ⟨ty, hid⟩ := Request.exists_getElem?_builtTypes (Request.valid_of_run_eq_ok hm hstep)
  have hg := Graph.Settled.of_leadsTo hm hreach
  -- the entity type that settles the end of the path is the one that the role names
  obtain ⟨u, rest, hu, hrest, hsettles⟩ := Account.settled_withSubtypes
    (hg.consistent.entityType ty (List.mem_of_getElem? hid))
    (((Graph.Settled.maintains hm fallback).propertyType_gives hm (Account.settled_closed hm) _ hg
      hid).of_eq_ok hrun).2.2
  obtain ⟨d, hd⟩ := TypeModel.isEntityType_iff.mp hu
  obtain ⟨howner, hrole⟩ := hsettles.role hd hc
  obtain ⟨hrole, -⟩ := hrole hfields
  have hcut : Path.ofString c.role = c.owner :: rest := by
    rw [hrole]
    exact ofString_role (howner ▸ hdots _ hd) hsettles.path_ne_nil hrest
  have hback : ∀ {other : Bool} {h : Graph}, Graph.empty.LeadsTo m.toModel other h →
      ∃ h', resolveCollection m.toModel other c.role h = .ok (some c, h') := by
    intro other h hh
    obtain ⟨c?, h', hresolve, -, -, ⟨-, hsettled⟩, -⟩ :=
      (Graph.Settled.maintains hm other).resolveCollection_gives hm (Account.settled_closed hm) c.role
        (Graph.Settled.of_leadsTo hm hh)
    have hfind := TypeModel.findEntityType?_entityName hnames hd
    rw [hsettled hnames c.owner rest u t hcut (howner ▸ hfind) hsettles, hc] at hresolve
    exact ⟨h', hresolve⟩
  exact ⟨⟨rest, hsettles.path_ne_nil, hrest, hrole⟩,
    hback (hreach.trans (Graph.LeadsTo.of_run hstep)), hback⟩

/-- The reports of a boss are those of a person, and found again by that role. -/
theorem collection_role_reports : staffModel.toModel.DistinctEntityNames ∧
    staffModel.toModel.UndottedEntityNames ∧ staffModel.toModel.FieldsNamed ∧
    ∃ g t c g', Graph.empty.LeadsTo staffModel.toModel true g ∧
      propertyType staffModel.toModel true 0 (Path.ofString "boss.reports") g = .ok (some t, g') ∧
      t.collection? = some c ∧ c.role = "Person.reports" ∧
      (∃ rest, rest ≠ [] ∧ rest <:+ Path.ofString "boss.reports" ∧
        c.role = c.owner ++ "." ++ Path.toString rest) ∧
      ∃ g'', resolveCollection staffModel.toModel true c.role g' = .ok (some c, g'') := by
  have hnames : staffModel.toModel.DistinctEntityNames := by
    show List.Nodup _
    decide +kernel
  have hdots : staffModel.toModel.UndottedEntityNames := by
    unfold TypeModel.UndottedEntityNames
    decide +kernel
  have hfields : staffModel.toModel.FieldsNamed := Declared.fieldsNamed_of_all (by decide +kernel)
  obtain ⟨as, g, hrun, t, c, g', hpath, hc, hrole⟩ : ∃ as g, Request.runAll staffModel.toModel true
      [.entity "Employee"] Graph.empty = .ok (as, g) ∧ ∃ t c g',
        propertyType staffModel.toModel true 0 (Path.ofString "boss.reports") g =
          .ok (some t, g') ∧ t.collection? = some c ∧ c.role = "Person.reports" :=
    ⟨_, _, rfl, _, _, _, rfl, rfl, rfl⟩
  obtain ⟨hend, hback, -⟩ :=
    collection_role build_staff hnames hdots hfields ⟨_, as, hrun⟩ hpath hc
  exact ⟨hnames, hdots, hfields, g, t, c, g', ⟨_, as, hrun⟩, hpath, hc, hrole, hend, hback⟩

/-! ## Roles within elements -/

/-- A collection within the elements of another has its owner; its role is that owner with the path
that was asked, put before the name. This extends the role of the collection just if the path that
was asked is the one in that role, which need only be the end of it. -/
theorem element_role {ds : List Declaration} {m : Declared} (hbuild : Declared.build ds = .ok m)
    {fallback : Bool} {g g₁ g₂ : Graph} (hreach : Graph.empty.LeadsTo m.toModel fallback g)
    {role name : String} (hname : '.' ∉ name.toList) {c c' : Collection} {k : Component}
    {t : PropertyType}
    (hcollection : resolveCollection m.toModel fallback role g = .ok (some c, g₁))
    (hcomponent : c.element = .component k)
    (helement : collectionElementType m.toModel fallback role (Path.ofString name) g =
      .ok (some t, g₂))
    (hc' : t.collection? = some c') :
    c'.owner = c.owner ∧
    c'.role = c.owner ++ "." ++ extendPath (Path.toString (Path.ofString role).tail) name ∧
    (m.toModel.FieldsNamed → ∃ rest, rest <:+ (Path.ofString role).tail ∧
      c.role = c.owner ++ "." ++ Path.toString rest ∧
      (c'.role = c.role ++ "." ++ name ↔ rest = (Path.ofString role).tail)) := by
  have hm := Declared.build_accepted hbuild
  have hk := Graph.Settled.maintains hm fallback
  have hcl := Account.settled_closed hm
  obtain ⟨hg₁, -, ⟨hends, -⟩, hin⟩ := (hk.resolveCollection_gives hm hcl role
    (Graph.Settled.of_leadsTo hm hreach)).of_eq_ok hcollection
  -- the name is looked up in the component, under the path that was asked
  obtain ⟨howner', hrole'⟩ : c'.owner = c.owner ∧
      c'.role = c.owner ++ "." ++ extendPath (Path.toString (Path.ofString role).tail) name := by
    obtain ⟨c?, g₃, hrun, hinner⟩ := GraphM.bind_eq_ok helement
    cases hrun.symm.trans hcollection
    simp only [hcomponent, Path.ofString_single hname] at hinner
    obtain ⟨stop, hwalk, hend⟩ :=
      ((hk.pathType_gives hm hcl hg₁ (hin c rfl k hcomponent)).of_eq_ok hinner).2.2
    cases TypeModel.walk_cons hwalk with
    | nowhere h => subst h; cases hend
    | property _ _ h =>
      subst h
      obtain ⟨howner, hrole, -⟩ := TypeModel.typeOf_collection hend hc'
      exact ⟨howner, hrole⟩
    | association _ hrest _ => exact absurd rfl hrest
    | component _ hrest _ => exact absurd rfl hrest
  obtain ⟨s, hs, u, rest, hu, hrest, hsettles⟩ := hends c rfl
  obtain ⟨d, hd⟩ := TypeModel.isEntityType_iff.mp hu
  obtain ⟨-, hrole⟩ := hsettles.role hd hs
  refine ⟨howner', hrole', fun hfields => ?_⟩
  obtain ⟨hrole, hheads⟩ := hrole hfields
  refine ⟨rest, hrest, hrole, ?_⟩
  have hne := hsettles.path_ne_nil
  have htail := List.tail_suffix (Path.ofString role)
  rw [hrole', hrole, extendPath_of_ne (toString_ne_empty_of_suffix hne hrest htail hheads),
    ← toString_inj_of_suffix hne hrest htail]
  constructor
  · intro h
    have hlist := congrArg String.toList h
    simp only [String.toList_append, List.append_assoc, List.append_cancel_left_eq,
      List.append_cancel_right_eq] at hlist
    exact String.toList_inj.mp hlist
  · intro h
    simp only [h, String.append_assoc]

/-- An order with its customer, who has homes with tags. -/
def customers : List Declaration :=
  let elements (name argument : String) : Member :=
    ⟨name, .field, ⟨"List", [argument]⟩, false, false, [⟨"ElementCollection", []⟩]⟩
  [.entity "Order" none [.toOne "customer" "Person"],
    .entity "Person" none [elements "homes" "Home"],
    ⟨"Home", none, [⟨"Embeddable", []⟩], [elements "tags" "String"]⟩]

def customersModel : Declared where
  types := customers.map (·.below none)
  byName := [("Home", 2), ("Person", 1), ("Order", 0)]
  bySimpleName := [("Home", 2), ("Person", 1), ("Order", 0)]

theorem build_customers : Declared.build customers = .ok customersModel := rfl

/-- What the homes of a customer are called, and the tags of these homes. -/
theorem customers_homes : ∃ c k t c' g₁ g₂,
    resolveCollection customersModel.toModel true "Order.customer.homes" Graph.empty =
      .ok (some c, g₁) ∧ c.element = .component k ∧ c.role = "Person.homes" ∧
    collectionElementType customersModel.toModel true "Order.customer.homes"
      (Path.ofString "tags") Graph.empty = .ok (some t, g₂) ∧ t.collection? = some c' ∧
    c'.role = "Person.customer.homes.tags" := by
  obtain ⟨⟨c?, g₁⟩, hcollection, hfirst⟩ := Except.exists_of_map_eq_ok <|
    show (resolveCollection customersModel.toModel true "Order.customer.homes" Graph.empty).map
      (fun p => p.1.map fun c => (c.role, c.element.text, c.element matches .component _)) =
        .ok (some ("Person.homes", "Home", true)) by decide +kernel
  obtain ⟨⟨t?, g₂⟩, helement, hsecond⟩ := Except.exists_of_map_eq_ok <|
    show (collectionElementType customersModel.toModel true "Order.customer.homes"
      (Path.ofString "tags") Graph.empty).map
        (fun p => (p.1.bind (·.collection?)).map (·.role)) =
          .ok (some "Person.customer.homes.tags") by decide +kernel
  obtain ⟨c, rfl, hc⟩ := Option.map_eq_some_iff.mp hfirst
  obtain ⟨c', ht, hrole'⟩ := Option.map_eq_some_iff.mp hsecond
  obtain ⟨t, rfl, hc'⟩ := Option.bind_eq_some_iff.mp ht
  obtain ⟨hrole, hc⟩ := Prod.mk.inj hc
  cases hel : c.element with
  | component k => exact ⟨c, k, t, c', g₁, g₂, hcollection, hel, hrole, helement, hc', hrole'⟩
  | entity _ => simp [hel] at hc
  | basic _ => simp [hel] at hc

/-- The homes of a customer are those of a person, and their tags have the same owner. -/
theorem element_role_customers : customersModel.toModel.FieldsNamed ∧ ∃ c k t c' g₁ g₂,
    resolveCollection customersModel.toModel true "Order.customer.homes" Graph.empty =
      .ok (some c, g₁) ∧ c.element = .component k ∧
    collectionElementType customersModel.toModel true "Order.customer.homes"
      (Path.ofString "tags") Graph.empty = .ok (some t, g₂) ∧ t.collection? = some c' ∧
    c'.owner = c.owner ∧ c'.role = c.owner ++ "." ++
      extendPath (Path.toString (Path.ofString "Order.customer.homes").tail) "tags" ∧
    ∃ rest, rest <:+ (Path.ofString "Order.customer.homes").tail ∧
      c.role = c.owner ++ "." ++ Path.toString rest ∧
      (c'.role = c.role ++ "." ++ "tags" ↔ rest = (Path.ofString "Order.customer.homes").tail) := by
  have hfields : customersModel.toModel.FieldsNamed :=
    Declared.fieldsNamed_of_all (by decide +kernel)
  obtain ⟨c, k, t, c', g₁, g₂, hcollection, hcomponent, -, helement, hc', -⟩ := customers_homes
  obtain ⟨howner, hrole, hrest⟩ := element_role build_customers ⟨[], [], rfl⟩ (by decide)
    hcollection hcomponent helement hc'
  exact ⟨hfields, c, k, t, c', g₁, g₂, hcollection, hcomponent, helement, hc', howner, hrole,
    hrest hfields⟩

/-- The role of a collection within elements need not extend that of the collection around it. -/
theorem element_role_asked :
    ¬ ∀ (ds : List Declaration) (m : Declared) (fallback : Bool) (g g₁ g₂ : Graph)
      (role name : String) (c c' : Collection) (k : Component) (t : PropertyType),
      Declared.build ds = .ok m → Graph.empty.LeadsTo m.toModel fallback g →
      '.' ∉ name.toList →
      resolveCollection m.toModel fallback role g = .ok (some c, g₁) →
      c.element = .component k →
      collectionElementType m.toModel fallback role (Path.ofString name) g = .ok (some t, g₂) →
      t.collection? = some c' → c'.owner = c.owner ∧ c'.role = c.role ++ "." ++ name := by
  intro h
  obtain ⟨c, k, t, c', g₁, g₂, hcollection, hcomponent, hrole, helement, hc', hrole'⟩ :=
    customers_homes
  obtain ⟨-, hsame⟩ := h customers customersModel true Graph.empty g₁ g₂ "Order.customer.homes"
    "tags" c c' k t build_customers ⟨[], [], rfl⟩ (by decide) hcollection hcomponent helement hc'
  rw [hrole, hrole'] at hsame
  exact absurd hsame (by decide)

end EntityQuery
