import Mathlib
import EntityQuery.Proofs.Graph.Routes
/-!
# Asking twice

A lookup that may fall back to subtypes builds the entities that its path leads to. One of them can
be a subtype of an entity that was asked already, with links read before it was there; when the same
question is put again it is asked as well, and the answer may differ. Where no such subtype is
built, and where the entity has an answer of its own, the second answer is the first one and the
graph stays as it is.

Results:
* `AddsNoSubtype.subtypesOf_eq`: links that stay the same.
* `settled`: what a lookup says while no subtype is added, the later graph says too, unchanged.
* `propertyType_again`: two lookups in a row.
-/
namespace EntityQuery

/-! ## Links that stay the same -/

/-- No entity that `g'` has beyond those of `g` is a subtype of one that was built before it. -/
def Graph.AddsNoSubtype (m : TypeModel) (g g' : Graph) : Prop :=
  ∀ (i j : EntityId) (s t : TypeId), g'.builtTypes[i]? = some s → g'.builtTypes[j]? = some t →
    g.entities.length ≤ j → i < j → m.isSubtype t s = false

theorem TypeModel.subtypesAmong_append_of_not {m : TypeModel} {ty : TypeId} (tys new : List TypeId)
    (h : ∀ t ∈ new, m.isSubtype t ty = false) :
    m.subtypesAmong (tys ++ new) ty = m.subtypesAmong tys ty := by
  induction new generalizing tys with
  | nil => rw [List.append_nil]
  | cons t new ih =>
    have ht : m.isSubtype t ty = false := h t List.mem_cons_self
    have hnew := ih (tys ++ [t]) fun s hs => h s (List.mem_cons_of_mem t hs)
    rw [List.append_cons, hnew, TypeModel.subtypesAmong_append, ht]
    simp

namespace Graph

theorem AddsNoSubtype.subtypesOf_eq {m : TypeModel} {g k h : Graph} (hcalm : g.AddsNoSubtype m h)
    (hgk : g.Extends k) (hkh : k.Extends h) (hk : k.Consistent m) (hh : h.Consistent m)
    {id : EntityId} (hid : id < k.entities.length) : h.subtypesOf id = k.subtypesOf id := by
  obtain ⟨ty, hty⟩ := Request.exists_getElem?_builtTypes hid
  rw [hk.subtypesOf_eq hty, hh.subtypesOf_eq (hkh.getElem? hty)]
  obtain ⟨new, hnew⟩ := hkh
  rw [← hnew]
  refine TypeModel.subtypesAmong_append_of_not _ _ fun t ht => ?_
  -- a type built after `k` has a number that is beyond those of `k`
  obtain ⟨n, hn⟩ := List.getElem?_of_mem ht
  have hi : h.builtTypes[id]? = some ty := by
    rw [← hnew, List.getElem?_append_left (by simpa using hid), hty]
  have hj : h.builtTypes[k.entities.length + n]? = some t := by
    rw [← hnew, List.getElem?_append_right (by simp), length_builtTypes, Nat.add_sub_cancel_left,
      hn]
  exact hcalm id (k.entities.length + n) ty t hi hj (Nat.le_add_right_of_le hgk.length_le)
    (Nat.lt_of_lt_of_le hid (Nat.le_add_right _ _))

end Graph

/-! ## Answers of a graph that stays as it is -/

theorem withSubtypes_of_own {ask : EntityId → GraphM (Option PropertyType)} {fallback : Bool}
    {id : EntityId} {own : Option PropertyType} {g g₁ : Graph} (hown : ask id g = .ok (own, g₁))
    (hid : id < g₁.entities.length) : withSubtypes fallback ask id g =
      if own.isSome || !fallback then .ok (own, g₁)
      else firstAnswer ask (g₁.subtypesOf id) g₁ := by
  unfold withSubtypes
  rw [GraphM.bind_of_eq_ok hown]
  cases own with
  | some t => rfl
  | none =>
    cases fallback with
    | false => rfl
    | true =>
      have he := List.getElem?_eq_getElem hid
      dsimp only
      rw [if_pos rfl, GraphM.get_bind, GraphM.bind_of_eq_ok (Graph.entity_eq_ok.mpr ⟨he, rfl⟩),
        Graph.subtypesOf_eq he]
      rfl

namespace Graph

/-- The walk of a path from the entity of a type leads to the answer, on a graph that stays as it
is. -/
def SaysOf (m : TypeModel) (fallback : Bool) (h : Graph) (ty : TypeId) (path : Path)
    (a : Option PropertyType) : Prop :=
  m.Settles ty path a ∨
    ∃ target rest, m.Onward ty path target rest ∧ namedType m fallback target rest h = .ok (a, h)

variable {m : TypeModel} {fallback : Bool} {h : Graph}

theorem SaysOf.unique {ty : TypeId} {path : Path} {a b : Option PropertyType}
    (ha : h.SaysOf m fallback ty path a) (hb : h.SaysOf m fallback ty path b) : a = b := by
  rcases ha with ha | ⟨target, rest, honward, ha⟩ <;>
    rcases hb with hb | ⟨target', rest', honward', hb⟩
  · exact ha.unique hb
  · exact absurd honward' ha.not_onward
  · exact absurd honward hb.not_onward
  · obtain ⟨rfl, rfl⟩ := honward.unique honward'
    have hsame : (.ok (a, h) : Except MissingId _) = .ok (b, h) := ha.symm.trans hb
    exact (Prod.mk.inj (Except.ok.inj hsame)).1

theorem SaysOf.pathType_none {ty : TypeId} {path : Path} {name : String} {own : Access}
    (hsaid : h.SaysOf m fallback ty path none) (hhead : m.entityHead ty = .ok (name, own)) :
    pathType m fallback path name "" ty own h = .ok (none, h) := by
  rcases hsaid with hsettles | ⟨target, rest, ⟨name', own', hhead', hwalk⟩, hnamed⟩
  · exact hsettles.pathType_none hhead
  · cases hhead.symm.trans hhead'
    rw [pathType_eq_walk, hwalk, liftM_ok_bind]
    exact hnamed

end Graph

/-! ## Lookups while no subtype is added -/

section
variable {m : TypeModel} (hm : m.Accepted) {fallback : Bool} {g h : Graph}
  (htraces : g.Traces m fallback h) (hg : g.Consistent m) (hcalm : g.AddsNoSubtype m h)
include hm htraces hg hcalm

section
variable {path : Path} (hpath : ∀ {k k' : Graph} {id : EntityId} {a : Option PropertyType},
  g.Keeps k → k.Consistent m → k'.Keeps h → exactPropertyType m fallback id path k = .ok (a, k') →
    exactPropertyType m fallback id path h = .ok (a, h))
  {k k' : Graph} {a : Option PropertyType} (hgk : g.Keeps k) (hk : k.Consistent m)
  (hkh : k'.Keeps h)
include hpath hgk hk hkh

omit htraces hg hcalm in
theorem firstAnswer_settled {ids : List EntityId}
    (hrun : firstAnswer (exactPropertyType m fallback · path) ids k = .ok (a, k')) :
    firstAnswer (exactPropertyType m fallback · path) ids h = .ok (a, h) := by
  induction ids generalizing k with
  | nil =>
    cases hrun
    rfl
  | cons id ids ih =>
    obtain ⟨b, k₁, hid, hrun⟩ := GraphM.bind_eq_ok hrun
    have hmove := (traces_covers hm fallback).exactPropertyType id path hid
    unfold firstAnswer
    cases b with
    | some t =>
      cases hrun
      rw [GraphM.bind_of_eq_ok (hpath hgk hk hkh hid)]
      rfl
    | none =>
      have hrest : k₁.Keeps k' :=
        firstAnswer_moves (fun i => exactPropertyType_keeps m fallback i path) ids hrun
      rw [GraphM.bind_of_eq_ok (hpath hgk hk (hrest.trans hkh) hid)]
      exact ih (hgk.trans hmove.keeps) (hmove.consistent hk) hrun

theorem propertyType_settled {id : EntityId}
    (hrun : propertyType m fallback id path k = .ok (a, k')) :
    propertyType m fallback id path h = .ok (a, h) := by
  obtain ⟨own, k₁, hown, hrest⟩ := withSubtypes_eq_ok hrun
  have hmove := (traces_covers hm fallback).exactPropertyType id path hown
  have hk₁ := hmove.consistent hk
  obtain ⟨ty, hty⟩ := exactPropertyType_valid hown
  obtain ⟨e, he, -⟩ := Graph.exists_of_builtTypes hty
  have hlt : id < k.entities.length := (List.getElem?_eq_some_iff.mp he).1
  have hlt₁ : id < k₁.entities.length := Nat.lt_of_lt_of_le hlt hmove.keeps.types.length_le
  have hk₁h : k₁.Keeps h := by
    rcases hrest with ⟨-, rfl, -⟩ | ⟨-, -, hfirst⟩
    · exact hkh
    · exact Graph.Keeps.trans
        (firstAnswer_moves (fun i => exactPropertyType_keeps m fallback i path) _ hfirst) hkh
  refine Eq.trans (withSubtypes_of_own (hpath hgk hk hk₁h hown)
    (Nat.lt_of_lt_of_le hlt₁ hk₁h.types.length_le)) ?_
  rcases hrest with ⟨rfl, rfl, hdone⟩ | ⟨rfl, rfl, hfirst⟩
  · rw [if_pos (by simpa using hdone)]
  · -- the links read then are those of the later graph
    rw [if_neg (by simp), hcalm.subtypesOf_eq (hgk.trans hmove.keeps).types hk₁h.types hk₁
      (htraces.consistent hg) hlt₁]
    exact firstAnswer_settled hm hpath (hgk.trans hmove.keeps) hk₁ hkh hfirst

theorem namedType_settled {name : String}
    (hrun : namedType m fallback name path k = .ok (a, k')) :
    namedType m fallback name path h = .ok (a, h) := by
  obtain ⟨id?, k₁, hname, hrun⟩ := GraphM.bind_eq_ok hrun
  have hmove := resolveEntity_traces hm fallback name hname
  have hk₁ := hmove.consistent hk
  have hk₁h : k₁.Keeps h := by
    cases id? with
    | none =>
      cases hrun
      exact hkh
    | some id => exact Graph.Keeps.trans ((keeps_covers m fallback).propertyType id path hrun) hkh
  have hname' : resolveEntity m name h = .ok (id?, h) :=
    resolveEntity_known (hk₁h.names (resolveEntity_entered hname))
  unfold namedType
  rw [GraphM.bind_of_eq_ok hname']
  cases id? with
  | none =>
    cases hrun
    rfl
  | some id =>
    exact propertyType_settled hm htraces hg hcalm hpath (hgk.trans hmove.keeps) hk₁ hkh hrun

end

/-- What the walk of a path leads to, if shorter paths are answered as on the later graph. -/
theorem pathType_settled {path : Path}
    (hshorter : ∀ {rest : Path}, rest.length < path.length → ∀ {k k' : Graph} {id : EntityId}
      {a : Option PropertyType}, g.Keeps k → k.Consistent m → k'.Keeps h →
        exactPropertyType m fallback id rest k = .ok (a, k') →
        exactPropertyType m fallback id rest h = .ok (a, h))
    {k k' : Graph} {id : EntityId} {e : Entity} {a : Option PropertyType} (hgk : g.Keeps k)
    (hk : k.Consistent m) (hkh : k'.Keeps h) (he : k.entities[id]? = some e)
    (hrun : pathType m fallback path e.name "" e.typeId e.access k = .ok (a, k')) :
    h.SaysOf m fallback e.typeId path a := by
  rcases pathType_eq_ok hm hk he hrun with hsettles | ⟨target, rest, honward, hnamed⟩
  · exact .inl hsettles
  · have hlater := namedType_settled hm htraces hg hcalm (hshorter honward.length_lt.2) hgk hk hkh
      hnamed
    exact .inr ⟨target, rest, honward, hlater⟩

/-- What an entity answers after `g` and before `h` is what it answers on `h`. By induction on the
length of the path: a walk asks other entities for less. -/
theorem settled {path : Path} {k k' : Graph} {id : EntityId} {a : Option PropertyType}
    (hgk : g.Keeps k) (hk : k.Consistent m) (hkh : k'.Keeps h)
    (hrun : exactPropertyType m fallback id path k = .ok (a, k')) :
    exactPropertyType m fallback id path h = .ok (a, h) := by
  induction hn : path.length using Nat.strong_induction_on generalizing path k k' id a with
  | _ n ih =>
    subst hn
    have hshorter : ∀ {rest : Path}, rest.length < path.length → ∀ {k k' : Graph} {id : EntityId}
        {a : Option PropertyType}, g.Keeps k → k.Consistent m → k'.Keeps h →
          exactPropertyType m fallback id rest k = .ok (a, k') →
          exactPropertyType m fallback id rest h = .ok (a, h) :=
      fun hlt _ _ _ _ hgk hk hkh hrun => ih _ hlt hgk hk hkh hrun rfl
    rcases exactly_eq_ok hrun with ⟨hkept, rfl⟩ | ⟨hnone, e, k₁, he, hw, rfl⟩
    · exact exactPropertyType_of_kept (hkh.answers hkept)
    · split at hkh
      · rename_i hs
        have hext := (pathType_keeps m fallback path _ _ _ _ hw).types
        have hlt : id < k₁.entities.length :=
          Nat.lt_of_lt_of_le (List.getElem?_eq_some_iff.mp he).1 hext.length_le
        have hkept : (k₁.setPathType id path a).kept id path = some a := by
          rw [Graph.kept_setPathType, if_pos ⟨rfl, rfl, hlt⟩]
        exact exactPropertyType_of_kept (hkh.answers hkept)
      · rename_i hs
        obtain rfl : a = none := by
          cases a with
          | none => rfl
          | some t => exact absurd rfl hs
        have hsaid := pathType_settled hm htraces hg hcalm hshorter hgk hk hkh he hw
        have hmove := (traces_covers hm fallback).pathType path _ _ _ _ hw
        have hty := (hmove.keeps.trans hkh).types.getElem? (Graph.builtTypes_getElem? he)
        cases hlater : h.kept id path with
        | none =>
          -- the failure was not kept, and the walk fails again
          obtain ⟨f, hf, hfe⟩ := Graph.exists_of_builtTypes hty
          have hwalk := hsaid.pathType_none (hfe ▸ (htraces.consistent hg).entityHead_eq hf)
          have hagain := exactPropertyType_of_walk hlater hf (by rw [hfe]; exact hwalk)
          rwa [if_neg hs] at hagain
        | some b =>
          -- an answer kept since was found by a walk that leads to the same end
          rcases htraces.kept hg hlater with hold | ⟨j, j', hgj, hj, hfinds, hjh⟩
          · rw [hgk.answers hold] at hnone
            cases hnone
          · obtain ⟨f, hf, hwj⟩ := hfinds.walk
            have hjj' := pathType_keeps m fallback path _ _ _ _ hwj
            have htyj := (hjj'.trans (hfinds.keeps.trans hjh)).types.getElem?
              (Graph.builtTypes_getElem? hf)
            have hsaid' := pathType_settled hm htraces hg hcalm hshorter hgj hj
              (hfinds.keeps.trans hjh) hf hwj
            rw [Option.some.inj (htyj.symm.trans hty)] at hsaid'
            rw [hsaid'.unique hsaid] at hlater
            exact exactPropertyType_of_kept hlater

end

/-! ## Two lookups in a row -/

/-- Where an entity has an answer of its own, its subtypes are not asked. -/
theorem propertyType_of_own {m : TypeModel} {fallback : Bool} {id : EntityId} {path : Path}
    {t : PropertyType} {g k : Graph}
    (hown : exactPropertyType m fallback id path g = .ok (some t, k)) :
    propertyType m fallback id path g = .ok (some t, k) := by
  unfold propertyType withSubtypes
  rw [GraphM.bind_of_eq_ok hown]
  rfl

/-- The same lookup twice, after any history: where the entity has an answer of its own, or where
the first builds no subtype of an entity that was built before, the second has its answer and leaves
the graph as it is. In any case what was found once is not lost. -/
theorem propertyType_again {ds : List Declaration} {m : Declared}
    (hbuild : Declared.build ds = .ok m) {g : Graph}
    (hreach : Graph.empty.LeadsTo m.toModel true g) {id : EntityId}
    (hid : id < g.entities.length) (path : Path) :
    ∃ a g₁ b g₂, propertyType m.toModel true id path g = .ok (a, g₁) ∧
      propertyType m.toModel true id path g₁ = .ok (b, g₂) ∧
      (∀ t k, exactPropertyType m.toModel true id path g = .ok (some t, k) →
        a = some t ∧ b = a ∧ g₂ = g₁) ∧
      (g.AddsNoSubtype m.toModel g₁ → b = a ∧ g₂ = g₁) ∧ (a.isSome → b.isSome) := by
  have hm := Declared.build_accepted hbuild
  have hg := hreach.consistent hm (Graph.empty_consistent m.toModel)
  have hgives : ∀ {k : Graph}, k.Consistent m.toModel → id < k.entities.length →
      Gives (propertyType m.toModel true id path) k fun _ k' =>
        k'.Consistent m.toModel ∧ k.Extends k' := by
    intro k hk hlt
    obtain ⟨ty, hty⟩ := Request.exists_getElem?_builtTypes hlt
    exact ((Account.free_maintains hm true).propertyType_gives hm (Account.free_closed hm) path hk
      hty).mono fun _ _ h => ⟨h.1, h.2.1⟩
  obtain ⟨a, g₁, hfirst, hg₁, hext⟩ := hgives hg hid
  obtain ⟨b, g₂, hsecond, -⟩ := hgives hg₁ (Nat.lt_of_lt_of_le hid hext.length_le)
  refine ⟨a, g₁, b, g₂, hfirst, hsecond, fun t k hown => ?_, fun hcalm => ?_, fun ha => ?_⟩
  · cases (propertyType_of_own hown).symm.trans hfirst
    have hkept := exactPropertyType_kept hown
    cases (propertyType_of_own (exactPropertyType_of_kept hkept)).symm.trans hsecond
    exact ⟨rfl, rfl, rfl⟩
  · have htraces := (traces_covers hm true).propertyType id path hfirst
    have hagain := propertyType_settled hm htraces hg hcalm
      (fun hgk hk hkh hrun => settled hm htraces hg hcalm hgk hk hkh hrun) (.refl g) hg
      (.refl g₁) hfirst
    exact Prod.mk.inj (Except.ok.inj (hsecond.symm.trans hagain))
  · obtain ⟨t, rfl⟩ := Option.isSome_iff_exists.mp ha
    exact propertyType_isSome (propertyType_answered hfirst) hsecond

/-- Employees have managers as mentors, and managers sponsors. -/
def mentors : List Declaration :=
  [.entity "Person" none [], .entity "Employee" (some "Person") [.toOne "mentor" "Manager"],
    .entity "Manager" (some "Person") [.toOne "mentor" "Sponsor"],
    .entity "Sponsor" none [.plain "email" "String"]]

def mentorsModel : Declared where
  types := List.zipWith Declaration.below mentors [none, some 0, some 0, none]
  byName := [("Sponsor", 3), ("Manager", 2), ("Employee", 1), ("Person", 0)]
  bySimpleName := [("Sponsor", 3), ("Manager", 2), ("Employee", 1), ("Person", 0)]

theorem build_mentors : Declared.build mentors = .ok mentorsModel := rfl

/-- Where managers are known, the mentor's address is asked of them at once. Sponsors are built on
the way, but they are no persons. Where managers are not known, an employee's own mentor is built,
as a further person; the employee has an answer all the same. -/
theorem propertyType_again_mentors : Declared.build mentors = .ok mentorsModel ∧
    (∃ as g, Request.runAll mentorsModel.toModel true
        [.entity "Person", .entity "Employee", .entity "Manager"] Graph.empty = .ok (as, g) ∧
      0 < g.entities.length ∧ ∃ g₁ b g₂,
        propertyType mentorsModel.toModel true 0 ["mentor", "email"] g =
          .ok (some (.basic (.ofName "String")), g₁) ∧
        g₁.entities.length = g.entities.length + 1 ∧
        g.AddsNoSubtype mentorsModel.toModel g₁ ∧
        propertyType mentorsModel.toModel true 0 ["mentor", "email"] g₁ = .ok (b, g₂) ∧
        b = some (.basic (.ofName "String")) ∧ g₂ = g₁) ∧
    ∃ as h, Request.runAll mentorsModel.toModel true [.entity "Person", .entity "Employee"]
        Graph.empty = .ok (as, h) ∧
      1 < h.entities.length ∧ ∃ h₁ b h₂,
        propertyType mentorsModel.toModel true 1 ["mentor", "mentor", "email"] h =
          .ok (some (.basic (.ofName "String")), h₁) ∧
        ¬ h.AddsNoSubtype mentorsModel.toModel h₁ ∧
        propertyType mentorsModel.toModel true 1 ["mentor", "mentor", "email"] h₁ = .ok (b, h₂) ∧
        b = some (.basic (.ofName "String")) ∧ h₂ = h₁ := by
  refine ⟨build_mentors, ?_, ?_⟩
  · obtain ⟨as, g, hrun, hlen, g₁, hfirst, hnew, htypes⟩ : ∃ as g,
        Request.runAll mentorsModel.toModel true
          [.entity "Person", .entity "Employee", .entity "Manager"] Graph.empty = .ok (as, g) ∧
        g.entities.length = 3 ∧ ∃ g₁,
        propertyType mentorsModel.toModel true 0 ["mentor", "email"] g =
          .ok (some (.basic (.ofName "String")), g₁) ∧
        g₁.entities.length = g.entities.length + 1 ∧ g₁.builtTypes = [0, 1, 2, 3] :=
      ⟨_, _, rfl, rfl, _, rfl, rfl, rfl⟩
    have hid : 0 < g.entities.length := by simp [hlen]
    have hcalm : g.AddsNoSubtype mentorsModel.toModel g₁ := by
      intro i j s t hs ht hj hij
      rw [htypes] at hs ht
      rw [hlen] at hj
      obtain rfl : j = 3 :=
        Nat.le_antisymm (Nat.le_of_lt_succ (List.getElem?_eq_some_iff.mp ht).1) hj
      cases ht
      interval_cases i <;> cases hs <;> rfl
    obtain ⟨a, g₁', b, g₂, hfirst', hsecond, -, hsame, -⟩ :=
      propertyType_again build_mentors ⟨_, as, hrun⟩ hid ["mentor", "email"]
    cases hfirst.symm.trans hfirst'
    obtain ⟨hb, hg₂⟩ := hsame hcalm
    exact ⟨as, g, hrun, hid, g₁, b, g₂, hfirst, hnew, hcalm, hsecond, hb, hg₂⟩
  · obtain ⟨as, h, hrun, hlen, h₁, hown, htypes⟩ : ∃ as h,
        Request.runAll mentorsModel.toModel true [.entity "Person", .entity "Employee"]
          Graph.empty = .ok (as, h) ∧
        h.entities.length = 2 ∧ ∃ h₁,
        exactPropertyType mentorsModel.toModel true 1 ["mentor", "mentor", "email"] h =
          .ok (some (.basic (.ofName "String")), h₁) ∧ h₁.builtTypes = [0, 1, 2, 3] :=
      ⟨_, _, rfl, rfl, _, rfl, rfl⟩
    have hid : 1 < h.entities.length := by simp [hlen]
    have hadds : ¬ h.AddsNoSubtype mentorsModel.toModel h₁ := by
      intro hcalm
      have hmanager : mentorsModel.toModel.isSubtype 2 0 = false :=
        hcalm 0 2 0 2 (by simp [htypes]) (by simp [htypes]) (by simp [hlen]) (by decide)
      exact absurd hmanager (by decide)
    obtain ⟨a, h₁', b, h₂, hfirst, hsecond, hanswer, -⟩ :=
      propertyType_again build_mentors ⟨_, as, hrun⟩ hid ["mentor", "mentor", "email"]
    obtain ⟨rfl, hb, rfl⟩ := hanswer _ _ hown
    cases (propertyType_of_own hown).symm.trans hfirst
    exact ⟨as, h, hrun, hid, _, b, _, hfirst, hadds, hsecond, hb, rfl⟩

/-- The second answer may differ: a manager is built only while employees are asked for their
mentor, and asked as a person when the question is put again. -/
theorem propertyType_changed : ¬ ∀ (ds : List Declaration) (m : Declared) (g : Graph)
    (id : EntityId) (path : Path), Declared.build ds = .ok m →
      Graph.empty.LeadsTo m.toModel true g → id < g.entities.length →
      ∃ a g₁ g₂, propertyType m.toModel true id path g = .ok (a, g₁) ∧
        propertyType m.toModel true id path g₁ = .ok (a, g₂) := by
  intro h
  obtain ⟨as, g, hrun, hlen, g₁, g₂, hfirst, hsecond⟩ : ∃ as g,
      Request.runAll mentorsModel.toModel true [.entity "Person", .entity "Employee"] Graph.empty =
        .ok (as, g) ∧ g.entities.length = 2 ∧ ∃ g₁ g₂,
      propertyType mentorsModel.toModel true 0 ["mentor", "email"] g = .ok (none, g₁) ∧
      propertyType mentorsModel.toModel true 0 ["mentor", "email"] g₁ =
        .ok (some (.basic (.ofName "String")), g₂) := ⟨_, _, rfl, rfl, _, _, rfl, rfl⟩
  obtain ⟨a, g₁', g₂', hfirst', hsecond'⟩ :=
    h mentors mentorsModel g 0 ["mentor", "email"] build_mentors ⟨_, as, hrun⟩ (by simp [hlen])
  cases hfirst.symm.trans hfirst'
  cases hsecond.symm.trans hsecond'

end EntityQuery
