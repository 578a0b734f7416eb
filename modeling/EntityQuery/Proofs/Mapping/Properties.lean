import Mathlib
import EntityQuery.Mapping.Property
import EntityQuery.Proofs.Model.Hierarchy
/-!
# Properties listed and searched

The list of properties goes through the lineage from the root down and replaces what it has for a
name; the search goes from the nearest type up and stops at the first hit. Both end at the nearest
type that has the property. There the search takes the first member and the list the last, so they
agree if no type declares a property twice, as two accessors with one property name do.

Results:
* `lookup_ofPairs`: of several values given for a key, the last counts.
* `find?_properties`: the property that is listed under a name.
* `listed_property`: it is there just if the search finds one, and then of the same type.
-/
namespace EntityQuery

/-! ## Keyed lists -/

theorem Keyed.lookup_foldl_setKey {α : Type} (pairs entries : List (String × α)) (name : String) :
    (pairs.foldl (fun entries p => setKey entries p.1 p.2) entries).lookup name =
      (pairs.reverse.lookup name).or (entries.lookup name) := by
  induction pairs generalizing entries with
  | nil => rfl
  | cons p pairs ih =>
    obtain ⟨key, value⟩ := p
    rw [List.foldl_cons, ih, lookup_setKey, List.reverse_cons, List.lookup_append,
      Option.or_assoc]
    congr 1
    by_cases h : name = key
    · simp [h]
    · simp [List.lookup_cons, beq_false_of_ne h, h]

/-- Of several values given for a key, the last counts. -/
theorem Keyed.lookup_ofPairs {α : Type} (pairs : List (String × α)) (name : String) :
    (ofPairs pairs).lookup name = pairs.reverse.lookup name := by
  rw [ofPairs, lookup_foldl_setKey, List.lookup_nil, Option.or_none]

theorem Keyed.lookup_flatMap {α β : Type} (xs : List α) (f : α → List (String × β))
    (name : String) : (xs.flatMap f).lookup name = xs.findSome? fun x => (f x).lookup name := by
  induction xs with
  | nil => rfl
  | cons x xs ih =>
    rw [List.flatMap_cons, List.lookup_append, ih, List.findSome?_cons]
    cases (f x).lookup name <;> rfl

/-- What is listed under a name is the first thing that has the name. -/
theorem Keyed.lookup_filterMap_named {α : Type} (xs : List α) (named : α → Option String)
    (name : String) : (xs.filterMap fun x => (named x).map fun n => (n, x)).lookup name =
      xs.find? fun x => named x == some name := by
  induction xs with
  | nil => rfl
  | cons x xs ih =>
    cases hn : named x with
    | none => simp [hn, ih]
    | some n =>
      by_cases h : name = n
      · subst h
        simp [hn]
      · have hne : n ≠ name := fun h' => h h'.symm
        simp [hn, List.lookup_cons, beq_false_of_ne h, hne, ih]

theorem find?_reverse_of_unique {α : Type} {xs : List α} {p : α → Bool}
    (h : ∀ x ∈ xs, ∀ y ∈ xs, p x → p y → x = y) : xs.reverse.find? p = xs.find? p := by
  cases hx : xs.find? p with
  | none => simpa using hx
  | some x =>
    have hsome : (xs.reverse.find? p).isSome := by
      rw [List.find?_isSome]
      exact ⟨x, List.mem_reverse.mpr (List.mem_of_find?_eq_some hx), List.find?_some hx⟩
    obtain ⟨y, hy⟩ := Option.isSome_iff_exists.mp hsome
    rw [hy, h y (List.mem_reverse.mp (List.mem_of_find?_eq_some hy)) x
      (List.mem_of_find?_eq_some hx) (List.find?_some hy) (List.find?_some hx)]

/-! ## The member of a property -/

namespace Lineage

/-- The member for a property in a list from the root down: the nearest type that has one, and its
last. -/
def lastMember? (chain : Lineage) (property : String) (default : Access) : Option PlacedMember :=
  chain.findSome? fun (ty, t) =>
    (t.placedMembers ty).reverse.find? fun p =>
      p.member.propertyName (t.accessFor default) == some property

/-- No type of the lineage has two members for the property. -/
def DeclaresOnce (chain : Lineage) (property : String) (default : Access) : Prop :=
  ∀ x ∈ chain, ∀ p ∈ x.2.placedMembers x.1, ∀ q ∈ x.2.placedMembers x.1,
    p.member.propertyName (x.2.accessFor default) = some property →
    q.member.propertyName (x.2.accessFor default) = some property → p = q

instance (chain : Lineage) (property : String) (default : Access) :
    Decidable (chain.DeclaresOnce property default) := by
  unfold DeclaresOnce
  infer_instance

theorem lookup_propertyMembers (chain : Lineage) (property : String) (default : Access) :
    (chain.propertyMembers default).lookup property = chain.lastMember? property default := by
  rw [propertyMembers, Keyed.lookup_ofPairs, List.reverse_flatMap, List.reverse_reverse,
    Keyed.lookup_flatMap, lastMember?]
  congr 1
  funext ⟨ty, t⟩
  rw [Function.comp_apply]
  dsimp only
  rw [declaredProperties, ← List.filterMap_reverse, Keyed.lookup_filterMap_named]

theorem find?_properties (types : TypeModel) (chain : Lineage) (name : String)
    (default : Access) : (chain.properties types default).find? (·.name == name) =
      (chain.lastMember? name default).map (Property.describe types name) := by
  rw [← lookup_propertyMembers, properties]
  induction chain.propertyMembers default with
  | nil => rfl
  | cons e rest ih =>
    obtain ⟨n, p⟩ := e
    rw [List.map_cons, List.find?_cons, List.lookup_cons]
    by_cases h : name = n
    · subst h
      simp [Property.describe]
    · have hne : n ≠ name := fun h' => h h'.symm
      simp only [beq_false_of_ne h]
      simp only [Property.describe, beq_false_of_ne hne]
      exact ih

/-- A type has a last member for a property just if it has a first one. -/
theorem isSome_lastMember? (chain : Lineage) (property : String) (default : Access) :
    (chain.lastMember? property default).isSome =
      (chain.findMember? property default).isSome := by
  rw [lastMember?, findMember?, List.isSome_findSome?, List.isSome_findSome?]
  congr 1
  funext ⟨ty, t⟩
  rw [Bool.eq_iff_iff]
  simp only [List.find?_isSome, List.mem_reverse]

theorem DeclaresOnce.lastMember?_eq {chain : Lineage} {property : String} {default : Access}
    (h : chain.DeclaresOnce property default) :
    chain.lastMember? property default = chain.findMember? property default := by
  unfold lastMember? findMember?
  induction chain with
  | nil => rfl
  | cons x chain ih =>
    have hrest := ih fun y hy => h y (List.mem_cons_of_mem _ hy)
    have hsame := find?_reverse_of_unique (p := fun p : PlacedMember =>
      p.member.propertyName (x.2.accessFor default) == some property) fun p hp q hq hpn hqn =>
        h x List.mem_cons_self p hp q hq (beq_iff_eq.mp hpn) (beq_iff_eq.mp hqn)
    rw [List.findSome?_cons, List.findSome?_cons, hrest]
    dsimp only
    rw [hsame]

end Lineage

/-! ## Listed and searched -/

/-- A property is listed under a name just if the search for the name finds one. It is that of the
last member for it in the nearest type, and so the one that is found if no type declares it
twice. -/
theorem listed_property {ds : List Declaration} {m : Declared} (hbuild : Declared.build ds = .ok m)
    {ty : TypeId} (hty : ty ∈ m.toModel.ids) (name : String) (default : Access) :
    ∃ chain found listed, m.toModel.lineage ty = .ok chain ∧
      m.toModel.findProperty ty name default = .ok found ∧
      m.toModel.describeProperties ty default = .ok listed ∧
      listed.find? (·.name == name) =
        (chain.lastMember? name default).map (Property.describe m.toModel name) ∧
      (listed.find? (·.name == name)).isSome = found.isSome ∧
      (chain.DeclaresOnce name default → listed.find? (·.name == name) = found) := by
  have hm := Declared.build_accepted hbuild
  obtain ⟨chain, hchain⟩ := hm.lineage_ok hty
  have hlisted := chain.find?_properties m.toModel name default
  refine ⟨chain, chain.findProperty? m.toModel name default, chain.properties m.toModel default,
    hchain, ?_, ?_, hlisted, ?_, fun honce => ?_⟩
  · rw [TypeModel.findProperty, hchain]
    rfl
  · rw [TypeModel.describeProperties, hchain]
    rfl
  · rw [hlisted, Lineage.findProperty?, Option.isSome_map, Option.isSome_map,
      chain.isSome_lastMember?]
  · rw [hlisted, Lineage.findProperty?, honce.lastMember?_eq]

/-- An entity type with a title, and with two boolean accessors of one other property. -/
def tasks : List Declaration :=
  let accessor (name type : String) : Member := ⟨name, .method 0, ⟨type, []⟩, false, false, []⟩
  [⟨"Task", none, [⟨"Entity", []⟩], [accessor "getTitle" "String", accessor "getActive" "boolean",
    accessor "isActive" "boolean"]⟩]

def tasksModel : Declared where
  types := tasks.map fun d => ⟨d.name, none, d.annotations, d.members⟩
  byName := [("Task", 0)]
  bySimpleName := [("Task", 0)]

theorem build_tasks : Declared.build tasks = .ok tasksModel := rfl

/-- The title that is listed is the one that is found. -/
theorem listed_property_title : Declared.build tasks = .ok tasksModel ∧
    0 ∈ tasksModel.toModel.ids ∧ ∃ chain found listed,
      tasksModel.toModel.lineage 0 = .ok chain ∧ chain.DeclaresOnce "title" .property ∧
      tasksModel.toModel.findProperty 0 "title" .property = .ok found ∧
      tasksModel.toModel.describeProperties 0 .property = .ok listed ∧ found.isSome = true ∧
      listed.find? (·.name == "title") = found := by
  have hty : 0 ∈ tasksModel.toModel.ids := by decide +kernel
  obtain ⟨chain, found, listed, hchain, hfound, hlisted, -, -, hsame⟩ :=
    listed_property build_tasks hty "title" .property
  have honce : ∃ chain, tasksModel.toModel.lineage 0 = .ok chain ∧
      chain.DeclaresOnce "title" .property := ⟨_, rfl, by decide +kernel⟩
  obtain ⟨_, hchain', honce⟩ := honce
  cases hchain.symm.trans hchain'
  have hsome : (tasksModel.toModel.findProperty 0 "title" .property).map (·.isSome) = .ok true := by
    decide +kernel
  rw [hfound] at hsome
  exact ⟨build_tasks, hty, chain, found, listed, hchain, honce, hfound, hlisted,
    Except.ok.inj hsome, hsame honce⟩

/-- The search finds the first accessor of a type, and the list holds the last. -/
theorem listed_property_differs : ¬ ∀ (ds : List Declaration) (m : Declared) (ty : TypeId)
    (name : String) (default : Access), Declared.build ds = .ok m → ty ∈ m.toModel.ids →
      ∃ found listed, m.toModel.findProperty ty name default = .ok found ∧
        m.toModel.describeProperties ty default = .ok listed ∧
        listed.find? (·.name == name) = found := by
  intro h
  obtain ⟨found, listed, hfound, hlisted, hsame⟩ :=
    h tasks tasksModel 0 "active" .property build_tasks (by decide +kernel)
  have hfirst : (tasksModel.toModel.findProperty 0 "active" .property).map
      (·.map (·.member.index)) = .ok (some 1) := by decide +kernel
  have hlast : (tasksModel.toModel.describeProperties 0 .property).map
      (fun ps => (ps.find? (·.name == "active")).map (·.member.index)) = .ok (some 2) := by
    decide +kernel
  rw [hfound] at hfirst
  rw [hlisted] at hlast
  simp only [Except.map, hsame, Except.ok.injEq] at hfirst hlast
  rw [hfirst] at hlast
  cases hlast

end EntityQuery
