import Mathlib
import EntityQuery.Proofs.Graph.Twins
/-!
# The answers that are kept

A path that was found is not looked up again, so a kept answer is one of an earlier graph. Compared
with the same graph without its answers, a lookup finds something just if it would find something
there, on a route that the later graph has as well. It may be another route, if there are two
associations on the path and the target of the first has subtypes: one of them may be asked first
that had no answer before the target of the second gained a subtype.

Results:
* `Recalls.firstOf`: an answer beyond an association, as the first of those asked.
* `Steady.eq`: where only the last association leaves a choice, the kept answers of two graphs are
  the same.
* `exactPropertyType_forgotten`: an exact lookup, with the answers kept and without.
-/
namespace EntityQuery

/-! ## The first of several -/

theorem FirstOf.of_prefix {α : Type} {answers : α → Option PropertyType → Prop} {xs ys : List α}
    {t : PropertyType} (h : FirstOf answers xs (some t)) (hfront : xs <+: ys) :
    FirstOf answers ys (some t) := by
  obtain ⟨more, rfl⟩ := hfront
  induction xs with
  | nil => cases h
  | cons x xs ih =>
    cases h with
    | here h => exact .here h
    | later h rest => exact .later h (ih rest)

theorem FirstOf.unique {α : Type} {answers : α → Option PropertyType → Prop} {xs : List α}
    (hanswers : ∀ x a b, answers x a → answers x b → a = b) {a b : Option PropertyType}
    (ha : FirstOf answers xs a) (hb : FirstOf answers xs b) : a = b := by
  induction ha with
  | nobody =>
    cases hb
    rfl
  | here h =>
    cases hb with
    | here h' => exact hanswers _ _ _ h h'
    | later h' _ => cases hanswers _ _ _ h h'
  | later h _ ih =>
    cases hb with
    | here h' => cases hanswers _ _ _ h h'
    | later _ rest => exact ih rest

/-! ## Beyond the last association -/

section
variable {m : TypeModel} (hm : m.Accepted) {fallback : Bool} {g : Graph} (hg : g.Consistent m)
  (hr : g.Recalls m fallback) {path : Path} {k k' : Graph} {a : Option PropertyType}
  (hk : k.Consistent m) (hkg : k'.Keeps g)
include hm hg hr hk hkg

theorem settles_of_exactPropertyType {id : EntityId} {s : TypeId}
    (hid : k.builtTypes[id]? = some s) (hno : ∀ target rest, ¬ m.Onward s path target rest)
    (hrun : exactPropertyType m fallback id path k = .ok (a, k')) : m.Settles s path a := by
  have hext := ((exactPropertyType_keeps m fallback id path hrun).trans hkg).types
  rcases exactly_eq_ok hrun with ⟨hkept, rfl⟩ | ⟨-, e, k₁, he, hw, -⟩
  · have hlater := hkg.answers hkept
    cases a with
    | none => exact hr.settles_none hm (hext.getElem? hid) hlater
    | some t =>
      rcases hr.step hm hg (hext.getElem? hid) hlater with h | ⟨target, rest, honward, -⟩
      · exact h
      · exact absurd honward (hno target rest)
  · obtain ⟨f, hf, rfl⟩ := Graph.exists_of_builtTypes hid
    cases he.symm.trans hf
    rcases pathType_eq_ok hm hk he hw with h | ⟨target, rest, honward, -⟩
    · exact h
    · exact absurd honward (hno target rest)

theorem settles_of_firstAnswer {ids : List EntityId} {tys : List TypeId} (hids : k.Are ids tys)
    (hno : ∀ s ∈ tys, ∀ target rest, ¬ m.Onward s path target rest)
    (hrun : firstAnswer (exactPropertyType m fallback · path) ids k = .ok (a, k')) :
    FirstOf (m.Settles · path) tys a := by
  induction ids generalizing k tys with
  | nil =>
    cases hids
    cases hrun
    exact .nobody
  | cons id ids ih =>
    obtain ⟨s, tys, hid, hids', rfl⟩ := List.forall₂_cons_left_iff.mp hids
    obtain ⟨own, k₁, hown, hrun⟩ := GraphM.bind_eq_ok hrun
    have hmove := (traces_covers hm fallback).exactPropertyType id path hown
    have hno' := hno s List.mem_cons_self
    cases own with
    | some t =>
      cases hrun
      exact .here (settles_of_exactPropertyType hm hg hr hk hkg hid hno' hown)
    | none =>
      have hrest : k₁.Keeps k' :=
        firstAnswer_moves (fun i => exactPropertyType_keeps m fallback i path) ids hrun
      have hnone := settles_of_exactPropertyType hm hg hr hk (hrest.trans hkg) hid hno' hown
      exact .later hnone (ih (hmove.consistent hk) (Graph.Are.extends hids' hmove.keeps.types)
        (fun s hs => hno s (List.mem_cons_of_mem _ hs)) hrun)

/-- The subtypes asked then are the first of those that may be asked now. -/
theorem settles_of_propertyType {id : EntityId} {ty : TypeId} (hid : k.builtTypes[id]? = some ty)
    (hno : ∀ s ∈ ty :: m.subtypesAsked fallback g.builtTypes ty, ∀ target rest,
      ¬ m.Onward s path target rest)
    (hrun : propertyType m fallback id path k = .ok (a, k')) :
    ∃ tys, tys <+: m.subtypesAsked fallback g.builtTypes ty ∧
      FirstOf (m.Settles · path) (ty :: tys) a := by
  obtain ⟨own, k₁, hown, hrest⟩ := withSubtypes_eq_ok hrun
  have hmove := (traces_covers hm fallback).exactPropertyType id path hown
  have hno' := hno ty List.mem_cons_self
  rcases hrest with ⟨rfl, rfl, -⟩ | ⟨rfl, rfl, hfirst⟩
  · have hsettles := settles_of_exactPropertyType hm hg hr hk hkg hid hno' hown
    refine ⟨[], List.nil_prefix, ?_⟩
    cases own with
    | some t => exact .here hsettles
    | none => exact .later hsettles .nobody
  · have hkeeps : k₁.Keeps k' :=
      firstAnswer_moves (fun i => exactPropertyType_keeps m true i path) _ hfirst
    have hk₁ := hmove.consistent hk
    have hids : k₁.Are (k₁.subtypesOf id) (m.strictSubtypes k₁.builtTypes ty) := by
      rw [hk₁.subtypesOf_eq (hmove.keeps.types.getElem? hid)]
      exact k₁.are_subtypesAmong m ty
    have hfront := Graph.subtypesAsked_front m true (hkeeps.trans hkg).types ty
    refine ⟨_, hfront, .later ?_ ?_⟩
    · exact settles_of_exactPropertyType hm hg hr hk (hkeeps.trans hkg) hid hno' hown
    · exact settles_of_firstAnswer hm hg hr hk₁ hkg hids
        (fun s hs => hno s (List.mem_cons_of_mem _ (hfront.subset hs))) hfirst

end

/-- A kept answer beyond an association is that of the first who has one, if the types of those who
may be asked decide their answers. -/
theorem Graph.Recalls.firstOf {m : TypeModel} (hm : m.Accepted) {fallback : Bool} {g : Graph}
    (hg : g.Consistent m) (hr : g.Recalls m fallback) {id : EntityId} {ty : TypeId}
    {path rest : Path} {target : String} {t : PropertyType} (hid : g.builtTypes[id]? = some ty)
    (honward : m.Onward ty path target rest)
    (hno : ∀ s, g.Asks m fallback target s → ∀ target' rest', ¬ m.Onward s rest target' rest')
    (hk : g.kept id path = some (some t)) :
    ∃ i u tys, g.byName.lookup target = some (some i) ∧ g.builtTypes[i]? = some u ∧
      tys <+: m.subtypesAsked fallback g.builtTypes u ∧
      FirstOf (m.Settles · rest) (u :: tys) (some t) := by
  obtain ⟨j, j', hj, hfinds, hlater⟩ := hr id path (some t) hk
  obtain ⟨e, he, hw⟩ := hfinds.walk
  have hkeeps : j'.Keeps g := hfinds.keeps.trans hlater
  have hext := ((pathType_keeps m fallback path _ _ _ _ hw).trans hkeeps).types
  cases (hext.getElem? (Graph.builtTypes_getElem? he)).symm.trans hid
  rcases pathType_eq_ok hm hj he hw with hsettles | ⟨target', rest', honward', hrun⟩
  · exact absurd honward hsettles.not_onward
  · obtain ⟨rfl, rfl⟩ := honward.unique honward'
    obtain ⟨id?, k, hname, hrun⟩ := GraphM.bind_eq_ok hrun
    cases id? with
    | none => cases hrun
    | some i =>
      have hkg : k.Keeps g :=
        Graph.Keeps.trans ((keeps_covers m fallback).propertyType i rest hrun) hkeeps
      have hk := (resolveEntity_traces hm fallback _ hname).consistent hj
      obtain ⟨f, hf, -⟩ := hk.found (resolveEntity_entered hname)
      have hi := Graph.builtTypes_getElem? hf
      have hnamed := hkg.names (resolveEntity_entered hname)
      obtain ⟨tys, hfront, hfirst⟩ := settles_of_propertyType hm hg hr hk hkeeps hi
        (fun s hs => hno s ⟨i, f.typeId, hnamed, hkg.types.getElem? hi, hs⟩) hrun
      exact ⟨i, f.typeId, tys, hnamed, hkg.types.getElem? hi, hfront, hfirst⟩

/-! ## Steady paths -/

/-- Of the associations on the path only the last one leaves a choice of whom to ask. -/
inductive TypeModel.Steady (m : TypeModel) (asks : String → TypeId → Prop) : TypeId → Path → Prop
  | inside {ty : TypeId} {path : Path} (h : ∀ target rest, ¬ m.Onward ty path target rest) :
    Steady m asks ty path
  | last {ty : TypeId} {path rest : Path} {target : String} (h : m.Onward ty path target rest)
    (hlast : ∀ s, asks target s → ∀ target' rest', ¬ m.Onward s rest target' rest') :
    Steady m asks ty path
  | sole {ty : TypeId} {path rest : Path} {target : String} (h : m.Onward ty path target rest)
    (hsole : ∀ s s', asks target s → asks target s' → s = s')
    (hrest : ∀ s, asks target s → Steady m asks s rest) : Steady m asks ty path

namespace TypeModel.Steady

variable {m : TypeModel}

/-- After an association a path of two segments has one left, which is a property. -/
theorem of_length_le_two {asks : String → TypeId → Prop} {ty : TypeId} {path : Path}
    (hlen : path.length ≤ 2) : m.Steady asks ty path := by
  by_cases h : ∃ target rest, m.Onward ty path target rest
  · obtain ⟨target, rest, honward⟩ := h
    refine .last honward fun s _ target' rest' honward' => ?_
    have hlt := honward.length_lt
    have hlt' := honward'.length_lt
    omega
  · exact .inside fun target rest honward => h ⟨target, rest, honward⟩

/-- Two graphs within a third may keep answers to a path that were found at different times. If the
path is steady in the third, they are the same. -/
theorem eq (hm : m.Accepted) {fallback : Bool} {g k h : Graph} (hg : g.Consistent m)
    (hr : g.Recalls m fallback) (hgh : g.Within h) (hk : k.Consistent m)
    (hrk : k.Recalls m fallback) (hkh : k.Within h) {ty : TypeId} {path : Path}
    (hsteady : m.Steady (h.Asks m fallback) ty path) {i j : EntityId} {t t' : PropertyType}
    (hi : g.builtTypes[i]? = some ty) (hj : k.builtTypes[j]? = some ty)
    (ht : g.kept i path = some (some t)) (ht' : k.kept j path = some (some t')) : t = t' := by
  induction hsteady generalizing i j with
  | inside hno =>
    rcases hr.step hm hg hi ht with hsettles | ⟨_, _, honward, -⟩
    · rcases hrk.step hm hk hj ht' with hsettles' | ⟨_, _, honward, -⟩
      · exact Option.some.inj (hsettles.unique hsettles')
      · exact absurd honward (hno _ _)
    · exact absurd honward (hno _ _)
  | last honward hlast =>
    -- whom the target stands for is the same, and fewer were asked than may be asked in `h`
    obtain ⟨u, uty, tys, hname, hu, hfront, hfirst⟩ := hr.firstOf hm hg hi honward
      (fun s hs => hlast s (hs.within hgh)) ht
    obtain ⟨v, vty, tys', hname', hv, hfront', hfirst'⟩ := hrk.firstOf hm hk hj honward
      (fun s hs => hlast s (hs.within hkh)) ht'
    cases (hgh.names hname).symm.trans (hkh.names hname')
    cases (hgh.types.getElem? hu).symm.trans (hkh.types.getElem? hv)
    have hall := hfront.trans (Graph.subtypesAsked_front m fallback hgh.types uty)
    have hall' := hfront'.trans (Graph.subtypesAsked_front m fallback hkh.types uty)
    have hfirst := hfirst.of_prefix ((List.prefix_cons_inj uty).mpr hall)
    have hfirst' := hfirst'.of_prefix ((List.prefix_cons_inj uty).mpr hall')
    exact Option.some.inj (hfirst.unique (fun _ _ _ h h' => h.unique h') hfirst')
  | sole honward hsole _ ih =>
    rcases hr.step hm hg hi ht with hsettles | ⟨target, rest, honward', i', s, hs, hi', hti'⟩
    · exact absurd honward hsettles.not_onward
    · rcases hrk.step hm hk hj ht' with hsettles | ⟨target', rest', h'', j', s', hs', hj', htj'⟩
      · exact absurd honward hsettles.not_onward
      · obtain ⟨rfl, rfl⟩ := honward.unique honward'
        obtain ⟨rfl, rfl⟩ := honward.unique h''
        obtain rfl := hsole _ _ (hs.within hgh) (hs'.within hkh)
        exact ih _ (hs.within hgh) hi' hj' hti' htj'

end TypeModel.Steady

/-! ## Lookups with and without kept answers -/

/-- An exact lookup after any history, compared with the same lookup on the same entities and links
with no answers kept: both find something or neither does. What they find lies on routes of one
graph; it is the same without fallback, and where only the last association on the path leaves a
choice. -/
theorem exactPropertyType_forgotten {ds : List Declaration} {m : Declared}
    (hbuild : Declared.build ds = .ok m) {fallback : Bool} {g : Graph}
    (hreach : Graph.empty.LeadsTo m.toModel fallback g) {id : EntityId} {e : Entity}
    (he : g.entities[id]? = some e) (path : Path) :
    ∃ a g₁ b g₂, exactPropertyType m.toModel fallback id path g = .ok (a, g₁) ∧
      exactPropertyType m.toModel fallback id path g.forgotten = .ok (b, g₂) ∧
      a.isSome = b.isSome ∧
      (∀ t, a = some t ∨ b = some t →
        m.toModel.Route (g₂.Asks m.toModel fallback) e.typeId path t) ∧
      (fallback = false ∨ m.toModel.Steady (g₂.Asks m.toModel fallback) e.typeId path →
        a = b) := by
  have hm := Declared.build_accepted hbuild
  have hg := hreach.consistent hm (Graph.empty_consistent m.toModel)
  have hr := hreach.recalls hm
  have ht : g.Twin m.toModel fallback g.forgotten := Graph.twin_forgotten hg hr
  have hid := Graph.builtTypes_getElem? he
  have hid' := ht.getElem? hid
  have hgives : ∀ {k : Graph}, k.Consistent m.toModel → k.builtTypes[id]? = some e.typeId →
      ∃ a k', exactPropertyType m.toModel fallback id path k = .ok (a, k') := by
    intro k hk hid
    obtain ⟨a, k', hrun, -⟩ := (Account.free_maintains hm fallback).exactPropertyType_gives hm
      (Account.free_closed hm) path hk hid
    exact ⟨a, k', hrun⟩
  obtain ⟨a, g₁, hrun⟩ := hgives hg hid
  obtain ⟨b, g₂, hrun'⟩ := hgives ht.consistent' hid'
  have hmatch := exactPropertyType_matches hm ht hrun hrun'
  have htraces := (traces_covers hm fallback).exactPropertyType id path hrun
  have htraces' := (traces_covers hm fallback).exactPropertyType id path hrun'
  have hroutes : ∀ t, a = some t ∨ b = some t →
      m.toModel.Route (g₂.Asks m.toModel fallback) e.typeId path t := by
    rintro t (rfl | rfl)
    · exact (exactPropertyType_route hm hg hr hid hrun).mono
        fun _ _ hasks => hasks.within hmatch.within
    · exact exactPropertyType_route hm ht.consistent' ht.recalls' hid' hrun'
  refine ⟨a, g₁, b, g₂, hrun, hrun', hmatch.isSome, hroutes, fun hone => ?_⟩
  have hsome := hmatch.isSome
  cases a with
  | none =>
    cases b with
    | none => rfl
    | some t' => cases hsome
  | some t =>
    cases b with
    | none => cases hsome
    | some t' =>
      rcases hone with rfl | hsteady
      · have hsame := (hroutes t (.inl rfl)).unique (fun _ _ _ h h' => h.unique h')
          (hroutes t' (.inr rfl))
        rw [hsame]
      · rw [hsteady.eq hm (htraces.consistent hg) (htraces.recalls hg hr) hmatch.within
          (htraces'.consistent ht.consistent') (htraces'.recalls ht.consistent' ht.recalls')
          (Graph.Keeps.refl g₂).within (htraces.keeps.types.getElem? hid)
          (htraces'.keeps.types.getElem? hid') (exactPropertyType_kept hrun)
          (exactPropertyType_kept hrun')]

/-- Companies have offices as addresses, and a suite is an address with a floor. -/
def offices : List Declaration :=
  [.entity "Order" none [.toOne "customer" "Customer"],
    .entity "Customer" none [.toOne "address" "Address"],
    .entity "Company" (some "Customer") [.toOne "address" "Office"], .entity "Address" none [],
    .entity "Office" none [.plain "floor" "int"],
    .entity "Suite" (some "Address") [.plain "floor" "String"]]

def officesModel : Declared where
  types := List.zipWith Declaration.below offices [none, none, some 1, none, none, some 3]
  byName := [("Suite", 5), ("Office", 4), ("Address", 3), ("Company", 2), ("Customer", 1),
    ("Order", 0)]
  bySimpleName := [("Suite", 5), ("Office", 4), ("Address", 3), ("Company", 2), ("Customer", 1),
    ("Order", 0)]

theorem build_offices : Declared.build offices = .ok officesModel := rfl

/-- The floor of an address was looked up when only a suite was known. It is kept, and it is found
again without that. -/
theorem exactPropertyType_forgotten_offices : ∃ g e, Declared.build offices = .ok officesModel ∧
    Graph.empty.LeadsTo officesModel.toModel true g ∧ g.entities[0]? = some e ∧
    g.kept 0 ["address", "floor"] = some (some (.basic (.ofName "String"))) ∧
    ∃ a g₁ g₂, exactPropertyType officesModel.toModel true 0 ["address", "floor"] g =
        .ok (a, g₁) ∧
      exactPropertyType officesModel.toModel true 0 ["address", "floor"] g.forgotten =
        .ok (a, g₂) := by
  obtain ⟨as, g₀, hrun, g, hfloor, e, he⟩ : ∃ as g₀, Request.runAll officesModel.toModel true
      [.entity "Customer", .entity "Suite"] Graph.empty = .ok (as, g₀) ∧
      ∃ g, exactPropertyType officesModel.toModel true 0 ["address", "floor"] g₀ =
        .ok (some (.basic (.ofName "String")), g) ∧ ∃ e, g.entities[0]? = some e :=
    ⟨_, _, rfl, _, rfl, _, rfl⟩
  have hreach : Graph.empty.LeadsTo officesModel.toModel true g :=
    Graph.LeadsTo.trans ⟨_, as, hrun⟩
      (.of_exactPropertyType (show Path.ofString "address.floor" = _ by decide +kernel) hfloor)
  obtain ⟨a, g₁, b, g₂, hwith, hwithout, -, -, hsame⟩ :=
    exactPropertyType_forgotten build_offices hreach he ["address", "floor"]
  obtain rfl := hsame (.inr (.of_length_le_two (Nat.le_refl 2)))
  exact ⟨g, e, build_offices, hreach, he, exactPropertyType_kept hfloor, a, g₁, g₂, hwith, hwithout⟩

/-- What is kept may differ from what would be found. The floor of a company's office was found when
no suite was known, and customers have no floor then; since there is a suite, they do. -/
theorem exactPropertyType_outdated : ¬ ∀ (ds : List Declaration) (m : Declared) (fallback : Bool)
    (g : Graph) (id : EntityId) (path : Path), Declared.build ds = .ok m →
      Graph.empty.LeadsTo m.toModel fallback g → id < g.entities.length →
      ∃ a g₁ g₂, exactPropertyType m.toModel fallback id path g = .ok (a, g₁) ∧
        exactPropertyType m.toModel fallback id path g.forgotten = .ok (a, g₂) := by
  intro h
  have hrun : ((do
      let _ ← Request.runAll officesModel.toModel true [.entity "Order", .entity "Company"]
      let kept ← exactPropertyType officesModel.toModel true 0 ["customer", "address", "floor"]
      let _ ← Request.runAll officesModel.toModel true [.entity "Suite"]
      let size := (← get).entities.length
      modify Graph.forgotten
      let found ← exactPropertyType officesModel.toModel true 0 ["customer", "address", "floor"]
      return (kept, size, found) : GraphM _) Graph.empty).map Prod.fst =
        .ok (some (.basic (.ofName "int")), 6, some (.basic (.ofName "String"))) := by
    decide +kernel
  obtain ⟨⟨_, _⟩, hrun, hfound⟩ := Except.exists_of_map_eq_ok hrun
  obtain ⟨as, g₀, hfirst, hrun⟩ := GraphM.bind_eq_ok hrun
  obtain ⟨kept, g₁, hfloor, hrun⟩ := GraphM.bind_eq_ok hrun
  obtain ⟨bs, g, hsuite, hrun⟩ := GraphM.bind_eq_ok hrun
  obtain ⟨_, _, hget, hrun⟩ := GraphM.bind_eq_ok hrun
  cases hget
  obtain ⟨_, _, hforget, hrun⟩ := GraphM.bind_eq_ok hrun
  cases hforget
  obtain ⟨found, g₂, hwithout, hrun⟩ := GraphM.bind_eq_ok hrun
  cases hrun
  simp only [Prod.mk.injEq] at hfound
  obtain ⟨rfl, hsize, rfl⟩ := hfound
  have hlater : g₁.LeadsTo officesModel.toModel true g := ⟨_, bs, hsuite⟩
  have hreach : Graph.empty.LeadsTo officesModel.toModel true g :=
    (Graph.LeadsTo.trans ⟨_, as, hfirst⟩ (.of_exactPropertyType
      (show Path.ofString "customer.address.floor" = _ by decide +kernel) hfloor)).trans hlater
  obtain ⟨a, g₁', g₂', hwith', hwithout'⟩ := h offices officesModel true g 0
    ["customer", "address", "floor"] build_offices hreach (by simp [hsize])
  have hkept := hlater.keeps.answers (exactPropertyType_kept hfloor)
  cases (exactPropertyType_of_kept hkept).symm.trans hwith'
  have hsame := (Prod.mk.inj (Except.ok.inj (hwithout.symm.trans hwithout'))).1
  revert hsame
  decide

end EntityQuery
