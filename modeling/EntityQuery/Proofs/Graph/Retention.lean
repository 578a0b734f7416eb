import Mathlib
import EntityQuery.Model.Sample
import EntityQuery.Proofs.Graph.Growth
/-!
# Answers that stay

Once a lookup has found something it finds something for ever, whatever is looked up in between: the
same entity or failure for a name, the same type for a path on exactly one entity, the same
collection for a role. A path that may fall back to subtypes keeps having a type; an entity that was
built in between may be asked before the one that answered.

Results:
* `exactPropertyType_kept`, `propertyType_answered`: what a lookup that succeeded leaves behind.
* `propertyType_isSome`: what was left behind is enough for an answer.
* `answers_not_retracted`: after any further history.
-/
namespace EntityQuery

/-- The entity, or a subtype that it may fall back to, has an answer to the path that is kept. -/
def Graph.Answered (fallback : Bool) (g : Graph) (id : EntityId) (path : Path) : Prop :=
  ∃ s t, (s = id ∨ fallback = true ∧ s ∈ g.subtypesOf id) ∧ g.kept s path = some (some t)

theorem Graph.Answered.keeps {fallback : Bool} {g g' : Graph} {id : EntityId} {path : Path}
    (h : g.Answered fallback id path) (hkeeps : g.Keeps g') : g'.Answered fallback id path := by
  obtain ⟨s, t, hs, hk⟩ := h
  exact ⟨s, t, hs.imp_right fun hl => ⟨hl.1, hkeeps.links id hl.2⟩, hkeeps.answers hk⟩

/-! ## What a lookup leaves behind -/

section
variable {m : TypeModel} {fallback : Bool} {id : EntityId} {path : Path} {g g' : Graph}

theorem exactPropertyType_kept {t : PropertyType}
    (h : exactPropertyType m fallback id path g = .ok (some t, g')) :
    g'.kept id path = some (some t) := by
  rcases exactly_eq_ok h with ⟨hk, rfl⟩ | ⟨-, e, g₁, he, hw, rfl⟩
  · exact hk
  · have hlt : id < g₁.entities.length :=
      Nat.lt_of_lt_of_le (List.getElem?_eq_some_iff.mp he).1
        (pathType_keeps m fallback path _ _ _ _ hw).types.length_le
    simp [Graph.kept_setPathType, hlt]

theorem exactPropertyType_of_kept {a : Option PropertyType} (h : g.kept id path = some a) :
    exactPropertyType m fallback id path g = .ok (a, g) := exactly_of_kept h

theorem firstAnswer_kept {ids : List EntityId} {t : PropertyType}
    (h : firstAnswer (exactPropertyType m fallback · path) ids g = .ok (some t, g')) :
    ∃ s ∈ ids, g'.kept s path = some (some t) := by
  induction ids generalizing g with
  | nil => cases h
  | cons id ids ih =>
    obtain ⟨a, g₁, hid, h⟩ := GraphM.bind_eq_ok h
    cases a with
    | some u =>
      cases h
      exact ⟨id, List.mem_cons_self, exactPropertyType_kept hid⟩
    | none =>
      obtain ⟨s, hs, hk⟩ := ih h
      exact ⟨s, List.mem_cons_of_mem _ hs, hk⟩

/-- What is found is kept, on the entity or on a subtype that it is linked to. -/
theorem propertyType_found {t : PropertyType}
    (h : propertyType m fallback id path g = .ok (some t, g')) :
    ∃ s, (s = id ∨ fallback = true ∧ s ∈ g'.subtypesOf id) ∧ g'.kept s path = some (some t) := by
  obtain ⟨own, g₁, hown, ⟨rfl, rfl, -⟩ | ⟨-, hfallback, hfirst⟩⟩ := withSubtypes_eq_ok h
  · exact ⟨id, .inl rfl, exactPropertyType_kept hown⟩
  · -- the subtypes asked were linked then, and still are
    obtain ⟨s, hs, hk⟩ := firstAnswer_kept hfirst
    have hkeeps : g₁.Keeps g' :=
      firstAnswer_moves (fun i => exactPropertyType_keeps m fallback i path) _ hfirst
    exact ⟨s, .inr ⟨hfallback, hkeeps.links id hs⟩, hk⟩

theorem propertyType_answered {t : PropertyType}
    (h : propertyType m fallback id path g = .ok (some t, g')) : g'.Answered fallback id path := by
  obtain ⟨s, hs, hk⟩ := propertyType_found h
  exact ⟨s, t, hs, hk⟩

/-! ## What is kept is found again -/

/-- One that has an answer whenever it is asked is among those that are asked. By induction on the
entities before it: they answer, or they leave alone what it depends on. -/
theorem firstAnswer_isSome {P : Graph → Prop} {ids : List EntityId} {s : EntityId}
    {a : Option PropertyType}
    (hkeep : ∀ {g g' : Graph} {i : EntityId} {b : Option PropertyType}, P g →
      exactPropertyType m fallback i path g = .ok (b, g') → P g')
    (hask : ∀ {g g' : Graph} {b : Option PropertyType}, P g →
      exactPropertyType m fallback s path g = .ok (b, g') → b.isSome = true)
    (hs : s ∈ ids) (hg : P g)
    (h : firstAnswer (exactPropertyType m fallback · path) ids g = .ok (a, g')) :
    a.isSome = true := by
  induction ids generalizing g with
  | nil => cases hs
  | cons id ids ih =>
    obtain ⟨b, g₁, hid, h⟩ := GraphM.bind_eq_ok h
    cases b with
    | some u =>
      cases h
      rfl
    | none =>
      rcases List.mem_cons.mp hs with rfl | hs
      · cases hask hg hid
      · exact ih hs (hkeep hg hid) h

theorem propertyType_isSome {a : Option PropertyType} (hanswered : g.Answered fallback id path)
    (h : propertyType m fallback id path g = .ok (a, g')) : a.isSome = true := by
  obtain ⟨s, t, hs, hk⟩ := hanswered
  obtain ⟨own, g₁, hown, hrest⟩ := withSubtypes_eq_ok h
  have hkeeps := exactPropertyType_keeps m fallback id path hown
  rcases hs with rfl | ⟨hfallback, hs⟩
  · cases (exactPropertyType_of_kept hk).symm.trans hown
    rcases hrest with ⟨rfl, -, -⟩ | ⟨hnone, -, -⟩
    · rfl
    · cases hnone
  · rcases hrest with ⟨-, -, hsome | hoff⟩ | ⟨-, -, hfirst⟩
    · exact hsome
    · rw [hfallback] at hoff
      cases hoff
    · refine firstAnswer_isSome (P := fun g => g.kept s path = some (some t))
        (fun hk h => (exactPropertyType_keeps m fallback _ path h).answers hk) (fun hk h => ?_)
        (hkeeps.links id hs) (hkeeps.answers hk) hfirst
      cases (exactPropertyType_of_kept hk).symm.trans h
      rfl

theorem resolveEntity_entered {name : String} {answer : Option EntityId}
    (h : resolveEntity m name g = .ok (answer, g')) : g'.byName.lookup name = some answer := by
  rcases resolveEntity_eq_ok h with ⟨hl, rfl⟩ | ⟨-, g₁, rfl, -⟩
  · exact hl
  · simp [Graph.lookup_setName]

theorem resolveCollection_entered {role : String} {c : Collection}
    (h : resolveCollection m fallback role g = .ok (some c, g')) :
    g'.collections.lookup role = some c := by
  rcases resolveCollection_eq_ok h with ⟨hl, rfl⟩ | ⟨-, entity, path, g₁, -, rfl⟩
  · exact hl
  · simp [Graph.setCollection]

/-- An answer that is kept is found again on a consistent graph; no later one takes its place. -/
theorem Graph.Answered.propertyType_ok (hm : m.Accepted) (hg : g.Consistent m)
    (h : g.Answered fallback id path) (hid : id < g.entities.length) :
    ∃ t g', propertyType m fallback id path g = .ok (some t, g') := by
  obtain ⟨ty, hty⟩ := Request.exists_getElem?_builtTypes hid
  obtain ⟨a, g', hrun, -⟩ := (Account.free_maintains hm fallback).propertyType_gives hm
    (Account.free_closed hm) path hg hty
  obtain ⟨t, rfl⟩ := Option.isSome_iff_exists.mp (propertyType_isSome h hrun)
  exact ⟨t, g', hrun⟩

end

/-- No answer is taken back. Between a lookup on a graph `g`, which any history may have led to, and
the same lookup on `g₂` there may be any other history; names, exact paths and roles are answered
without a change to the graph. -/
theorem answers_not_retracted {ds : List Declaration} {m : Declared}
    (hbuild : Declared.build ds = .ok m) {fallback : Bool} {g : Graph}
    (hreach : Graph.empty.LeadsTo m.toModel fallback g) :
    (∀ {name : String} {answer : Option EntityId} {g₁ g₂ : Graph},
      resolveEntity m.toModel name g = .ok (answer, g₁) → g₁.LeadsTo m.toModel fallback g₂ →
        resolveEntity m.toModel name g₂ = .ok (answer, g₂)) ∧
    (∀ {id : EntityId} {path : Path} {t : PropertyType} {g₁ g₂ : Graph},
      exactPropertyType m.toModel fallback id path g = .ok (some t, g₁) →
        g₁.LeadsTo m.toModel fallback g₂ →
        exactPropertyType m.toModel fallback id path g₂ = .ok (some t, g₂)) ∧
    (∀ {role : String} {c : Collection} {g₁ g₂ : Graph},
      resolveCollection m.toModel fallback role g = .ok (some c, g₁) →
        g₁.LeadsTo m.toModel fallback g₂ →
        resolveCollection m.toModel fallback role g₂ = .ok (some c, g₂)) ∧
    ∀ {id : EntityId} {path : Path} {t : PropertyType} {g₁ g₂ : Graph},
      propertyType m.toModel fallback id path g = .ok (some t, g₁) →
        g₁.LeadsTo m.toModel fallback g₂ →
        ∃ u g₃, propertyType m.toModel fallback id path g₂ = .ok (some u, g₃) := by
  have hm := Declared.build_accepted hbuild
  have hg := hreach.consistent hm (Graph.empty_consistent m.toModel)
  refine ⟨fun hrun hlater => ?_, fun hrun hlater => ?_, fun hrun hlater => ?_, ?_⟩
  · exact resolveEntity_known (hlater.keeps.names (resolveEntity_entered hrun))
  · exact exactPropertyType_of_kept (hlater.keeps.answers (exactPropertyType_kept hrun))
  · exact resolveCollection_known (hlater.keeps.collections (resolveCollection_entered hrun))
  · intro id path t g₁ g₂ hrun hlater
    have hlt : id < g.entities.length := by
      by_contra hno
      cases (Request.propertyType_missing hno path).symm.trans hrun
    obtain ⟨ty, hty⟩ := Request.exists_getElem?_builtTypes hlt
    have hg₁ := ((Account.free_maintains hm fallback).propertyType_gives hm
      (Account.free_closed hm) path hg hty).of_eq_ok hrun
    have hkeeps := hg₁.2.1.trans hlater.keeps.types
    exact ((propertyType_answered hrun).keeps hlater.keeps).propertyType_ok hm
      (hlater.consistent hm hg₁.1) (Nat.lt_of_lt_of_le hlt hkeeps.length_le)

/-- One lookup of each kind while contractors are not known, and again when they are. -/
theorem answers_not_retracted_staff : ∃ g, Graph.empty.LeadsTo staffModel.toModel true g ∧
    (∃ g₁ g₂, resolveEntity staffModel.toModel "Nobody" g = .ok (none, g₁) ∧
      g₁.LeadsTo staffModel.toModel true g₂ ∧ g₂.entities.length = 3 ∧
      resolveEntity staffModel.toModel "Nobody" g₂ = .ok (none, g₂)) ∧
    (∃ t g₁ g₂, exactPropertyType staffModel.toModel true 1 ["number"] g = .ok (some t, g₁) ∧
      g₁.LeadsTo staffModel.toModel true g₂ ∧ g₂.entities.length = 3 ∧
      exactPropertyType staffModel.toModel true 1 ["number"] g₂ = .ok (some t, g₂)) ∧
    (∃ c g₁ g₂, resolveCollection staffModel.toModel true "Person.reports" g = .ok (some c, g₁) ∧
      g₁.LeadsTo staffModel.toModel true g₂ ∧ g₂.entities.length = 3 ∧
      resolveCollection staffModel.toModel true "Person.reports" g₂ = .ok (some c, g₂)) ∧
    (∃ t g₁ g₂, propertyType staffModel.toModel true 0 ["number"] g = .ok (some t, g₁) ∧
      g₁.LeadsTo staffModel.toModel true g₂ ∧ g₂.entities.length = 3 ∧
      ∃ u g₃, propertyType staffModel.toModel true 0 ["number"] g₂ = .ok (some u, g₃)) := by
  -- the entities of `g` are a person and an employee; a contractor follows after each lookup
  obtain ⟨as, g, hreach, ⟨_, _, _, hname, hn, hn'⟩, ⟨_, _, _, _, hexact, he, he'⟩,
      ⟨_, _, _, _, htype, ht, ht'⟩⟩ :
      ∃ as g, Request.runAll staffModel.toModel true [.entity "Person", .entity "Employee"]
          Graph.empty = .ok (as, g) ∧
        (∃ g₁ bs g₂, resolveEntity staffModel.toModel "Nobody" g = .ok (none, g₁) ∧
          Request.runAll staffModel.toModel true [.entity "Contractor"] g₁ = .ok (bs, g₂) ∧
          g₂.entities.length = 3) ∧
        (∃ t g₁ bs g₂, exactPropertyType staffModel.toModel true 1 ["number"] g = .ok (some t, g₁) ∧
          Request.runAll staffModel.toModel true [.entity "Contractor"] g₁ = .ok (bs, g₂) ∧
          g₂.entities.length = 3) ∧
        ∃ t g₁ bs g₂, propertyType staffModel.toModel true 0 ["number"] g = .ok (some t, g₁) ∧
          Request.runAll staffModel.toModel true [.entity "Contractor"] g₁ = .ok (bs, g₂) ∧
          g₂.entities.length = 3 :=
    ⟨_, _, rfl, ⟨_, _, _, rfl, rfl, rfl⟩, ⟨_, _, _, _, rfl, rfl, rfl⟩, ⟨_, _, _, _, rfl, rfl, rfl⟩⟩
  obtain ⟨⟨_, _⟩, hrun, hr'⟩ := Except.exists_of_map_eq_ok (b := (true, 3)) <|
    show ((do
      let _ ← Request.runAll staffModel.toModel true [.entity "Person", .entity "Employee"]
      let c? ← resolveCollection staffModel.toModel true "Person.reports"
      let _ ← Request.runAll staffModel.toModel true [.entity "Contractor"]
      return c?.isSome : GraphM Bool) Graph.empty).map
        (fun p => (p.1, p.2.entities.length)) = .ok (true, 3) by decide +kernel
  obtain ⟨_, _, hfirst, hrun⟩ := GraphM.bind_eq_ok hrun
  cases hreach.symm.trans hfirst
  obtain ⟨c?, _, hrole, hrun⟩ := GraphM.bind_eq_ok hrun
  obtain ⟨_, _, hr, hrun⟩ := GraphM.bind_eq_ok hrun
  cases hrun
  obtain ⟨hsome, hr'⟩ := Prod.mk.inj hr'
  obtain ⟨c, rfl⟩ := Option.isSome_iff_exists.mp hsome
  obtain ⟨names, paths, roles, types⟩ := answers_not_retracted build_staff ⟨_, as, hreach⟩
  exact ⟨g, ⟨_, as, hreach⟩,
    ⟨_, _, hname, ⟨_, _, hn⟩, hn', names hname ⟨_, _, hn⟩⟩,
    ⟨_, _, _, hexact, ⟨_, _, he⟩, he', paths hexact ⟨_, _, he⟩⟩,
    ⟨_, _, _, hrole, ⟨_, _, hr⟩, hr', roles hrole ⟨_, _, hr⟩⟩,
    ⟨_, _, _, htype, ⟨_, _, ht⟩, ht', types htype ⟨_, _, ht⟩⟩⟩

end EntityQuery
