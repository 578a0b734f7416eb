import Mathlib
import EntityQuery.Proofs.Checker.Reports
import EntityQuery.Proofs.Graph.Resolution
/-!
# Checking a site after others

What is reported on a site depends on the sites checked before it only through paths: the text that
is analysed, its root and its bindings are the same, and entity names stand for the same types. A
path without a type is an error. The entities that other sites have built answer for more paths, but
an answer found early may also keep a lookup from building an entity that a later path of the site
needs. So an error may be new, if the site checked alone relies on subtypes that it builds itself.

Results:
* `finalText_eq`: the text of a site does not depend on the graph.
* `checkPaths_unresolved`, `checkPaths_resolved`: which paths are reported and which are not.
* `check_after`: what is reported after other sites, compared with the site alone.
-/
namespace EntityQuery

/-! ## What a site brings up itself -/

namespace CallSite

/-- The text to analyse and what is reported on the way, as the model decides. -/
def textIn (m : TypeModel) (site : CallSite) : Option Expansion × Diagnostics :=
  match site.shorthandCall? with
  | .error _ => (none, [])
  | .ok none => (site.literal.map fun text => ⟨text, 0⟩, [])
  | .ok (some call) =>
    if (m.findEntityType? call.entity).isSome then expand call []
    else (none, [.report .unknownEntity site.literalRange (some call.entity)])

/-- The site is analysed as the text, a query with this root. -/
def HasRoot (m : TypeModel) (site : CallSite) (e : Expansion) (root : RootEntity.Root) : Prop :=
  (site.textIn m).1 = some e ∧ RootEntity.rootOf (QueryWord.wordsOf e.text) = .ok root

/-- The site names an entity of the type: the one of its call or the root of its query. -/
def Names (m : TypeModel) (site : CallSite) (ty : TypeId) : Prop :=
  (∃ call, site.shorthandCall? = .ok (some call) ∧ m.findEntityType? call.entity = some ty) ∨
    ∃ e root, site.HasRoot m e root ∧ m.findEntityType? root.entity.text = some ty

/-- At this range of the source the site asks for a path of an entity. -/
def AsksAt (m : TypeModel) (site : CallSite) (range : TextRange) (entity path : String) : Prop :=
  ∃ e root w, site.HasRoot m e root ∧
    (QueryWord.wordsOf e.text).any (·.isWord "join") = false ∧
    w ∈ root.candidates (QueryWord.wordsOf e.text) ∧ root.pathOf w = some path ∧
    entity = root.entity.text ∧ range = LiteralOrigin.remap ⟨site.literalStart, e.offset⟩ w.range

end CallSite

/-! ## The text and the root -/

/-- A site that is no shorthand call has its text without a look at the graph. -/
theorem finalText_of_no_call {m : TypeModel} {config : CheckConfig} {site : CallSite}
    (hno : ∀ call, site.shorthandCall? ≠ .ok (some call)) :
    Checker.finalText m config site = pure (site.textIn m) := by
  cases hs : site.shorthandCall? with
  | error err => rw [Checker.finalText, CallSite.textIn, hs]
  | ok call? =>
    cases call? with
    | none => rw [Checker.finalText, CallSite.textIn, hs]
    | some call => exact absurd hs (hno call)

section
variable {m : TypeModel} (hm : m.Accepted) (hnames : m.DistinctEntityNames) {g g' : Graph}
  (hg : g.Consistent m)
include hm hnames hg

/-- The text of a site does not depend on the graph, and its call's entity is there in the end. -/
theorem finalText_eq {site : CallSite} {r : Option Expansion × Diagnostics}
    (hrun : Checker.finalText m .default site g = .ok (r, g')) :
    r = site.textIn m ∧ ∀ call ty, site.shorthandCall? = .ok (some call) →
      m.findEntityType? call.entity = some ty → ty ∈ g'.builtTypes := by
  by_cases hcall : ∃ call, site.shorthandCall? = .ok (some call)
  · obtain ⟨call, hs⟩ := hcall
    rw [Checker.finalText_call hs] at hrun
    obtain ⟨known, g₁, hknown, hrun⟩ := GraphM.bind_eq_ok hrun
    cases hrun
    obtain ⟨⟨id?, _⟩, hname, hpair⟩ := Except.exists_of_map_eq_ok hknown
    cases hpair
    have hg' := ((resolveEntity_leadsTo m true _) hname).consistent hm hg
    have hl := resolveEntity_entered hname
    refine ⟨by rw [CallSite.textIn, hs, hg'.isSome_of_lookup hnames hl], fun call' ty h hty => ?_⟩
    cases hs.symm.trans h
    have his := hg'.is_of_lookup hnames hl
    rw [hty] at his
    cases his with
    | some hid => exact List.mem_of_getElem? hid
  · have hno := not_exists.mp hcall
    rw [finalText_of_no_call hno] at hrun
    cases hrun
    exact ⟨rfl, fun call ty h => absurd h (hno call)⟩

/-- The entity behind a name is of the type that the name stands for, or there is neither. -/
theorem entityByName_is {name : String} {e? : Option Entity}
    (hrun : entityByName m name g = .ok (e?, g')) :
    (e? = none ∧ m.findEntityType? name = none) ∨
      ∃ e, e? = some e ∧ e ∈ g'.entities ∧ m.findEntityType? name = some e.typeId := by
  obtain ⟨id?, g₁, hname, hrun⟩ := GraphM.bind_eq_ok hrun
  have hg₁ := ((resolveEntity_leadsTo m true name) hname).consistent hm hg
  have his := hg₁.is_of_lookup hnames (resolveEntity_entered hname)
  cases id? with
  | none =>
    cases hrun
    exact .inl ⟨rfl, Graph.is_none_iff.mp his⟩
  | some id =>
    dsimp only at hrun
    rw [GraphM.get_bind] at hrun
    obtain ⟨e, g₂, hread, hend⟩ := GraphM.bind_eq_ok hrun
    obtain ⟨he, rfl⟩ := Graph.entity_eq_ok.mp hread
    cases hend
    obtain ⟨ty, hty, hid⟩ := Graph.is_some_iff.mp his
    cases hid.symm.trans (Graph.builtTypes_getElem? he)
    exact .inr ⟨e, rfl, List.mem_of_getElem? he, hty⟩

end

/-! ## Paths that are reported -/

section
variable {m : TypeModel} (hm : m.Accepted) (hnames : m.DistinctEntityNames) {g : Graph}
  (hg : g.Consistent m) (hr : g.Recalls m true) {entity : String}
  {paths : List (QueryWord × String)} {findings : List Finding}
include hm hnames hg hr

/-- A path that is reported does not resolve by types that were built before. -/
theorem checkPaths_unresolved {known : TypeId → Prop} (hknown : ∀ s, known s → s ∈ g.builtTypes)
    {k k' : Graph} (hk : g.Traces m true k)
    (hrun : RootEntity.checkPaths (lookupIn m true) entity paths k = .ok (findings, k'))
    {f : Finding} (hf : f ∈ findings) : ∃ p ∈ paths, f = RootEntity.missing entity p ∧
      ¬ m.Resolves known entity (Path.ofString p.2) := by
  induction paths generalizing k findings with
  | nil =>
    cases hrun
    cases hf
  | cons p rest ih =>
    obtain ⟨a, k₁, later, hpath, hrest, rfl⟩ := checkPaths_cons_eq_ok hrun
    have hk₁ := hk.trans ((traces_covers hm true).namedType _ _ hpath)
    have hlater : f ∈ later → ∃ q ∈ p :: rest, f = RootEntity.missing entity q ∧
        ¬ m.Resolves known entity (Path.ofString q.2) := by
      intro hf
      obtain ⟨q, hq, hmissing⟩ := ih hk₁ hrest hf
      exact ⟨q, List.mem_cons_of_mem p hq, hmissing⟩
    split at hf
    · exact hlater hf
    · rename_i hnone
      rcases List.mem_cons.mp hf with rfl | hf
      · exact ⟨p, List.mem_cons_self, rfl, fun hresolves =>
          hnone (Graph.namedType_isSome hm hnames hg hr hknown hresolves hk hpath)⟩
      · exact hlater hf

/-- A path that is not reported resolves by the types that are built in the end. -/
theorem checkPaths_resolved {g' : Graph}
    (hrun : RootEntity.checkPaths (lookupIn m true) entity paths g = .ok (findings, g'))
    {p : QueryWord × String} (hp : p ∈ paths) : RootEntity.missing entity p ∈ findings ∨
      m.Resolves (· ∈ g'.builtTypes) entity (Path.ofString p.2) := by
  induction paths generalizing g findings with
  | nil => cases hp
  | cons q rest ih =>
    obtain ⟨a, g₁, later, hpath, hrest, rfl⟩ := checkPaths_cons_eq_ok hrun
    have htraces := (traces_covers hm true).namedType _ _ hpath
    rcases List.mem_cons.mp hp with rfl | hp
    · cases a with
      | none => exact .inl List.mem_cons_self
      | some t =>
        have hext := ((checkPaths_leadsTo m true entity rest) hrest).keeps.types
        exact .inr ((Graph.namedType_resolves hm hnames hg hr hpath).mono
          fun s hs => hext.subset hs.2)
    · rcases ih (htraces.consistent hg) (htraces.recalls hg hr) hrest hp with hmem | hresolves
      · refine .inl ?_
        split
        · exact hmem
        · exact List.mem_cons_of_mem _ hmem
      · exact .inr hresolves

end

/-! ## Two checks of one site -/

/-- At this range the query asks for a path on its root that resolves by the types in `built` and
not by those in `known`. -/
def RootEntity.Root.Gap (m : TypeModel) (root : RootEntity.Root) (words : List QueryWord)
    (known built : TypeId → Prop) (range : TextRange) : Prop :=
  words.any (·.isWord "join") = false ∧ ∃ w ∈ root.candidates words, ∃ path,
    root.pathOf w = some path ∧ range = w.range ∧
    m.Resolves built root.entity.text (Path.ofString path) ∧
    ¬ m.Resolves known root.entity.text (Path.ofString path)

section
variable {m : TypeModel} (hm : m.Accepted) (hnames : m.DistinctEntityNames) {k k' f f' : Graph}
  (hk : k.Consistent m) (hrk : k.Recalls m true) (hf : f.Consistent m) (hrf : f.Recalls m true)
include hm hnames hk hrk hf hrf

theorem analyseRoot_after {words : List QueryWord} {root : RootEntity.Root}
    {later fresh : List Finding}
    (hlater : RootEntity.analyseRoot (lookupIn m true) words root k = .ok (later, k'))
    (hfresh : RootEntity.analyseRoot (lookupIn m true) words root f = .ok (fresh, f'))
    {x : Finding} (hx : x ∈ later) :
    x ∈ fresh ∨ root.Gap m words
      (fun ty => ty ∈ k.builtTypes ∨ m.findEntityType? root.entity.text = some ty)
      (· ∈ f'.builtTypes) x.range := by
  obtain ⟨e?, k₁, hentity, hlater⟩ := GraphM.bind_eq_ok hlater
  obtain ⟨e'?, f₁, hentity', hfresh⟩ := GraphM.bind_eq_ok hfresh
  have hkk₁ := ((entityByName_leadsTo m true _) hentity).traces hm
  have hff₁ := ((entityByName_leadsTo m true _) hentity').traces hm
  rcases entityByName_is hm hnames hk hentity with ⟨rfl, hty⟩ | ⟨e, rfl, he, hty⟩ <;>
    rcases entityByName_is hm hnames hf hentity' with ⟨rfl, hty'⟩ | ⟨e', rfl, he', hty'⟩
  · cases hlater
    cases hfresh
    exact .inl hx
  · cases hty.symm.trans hty'
  · cases hty.symm.trans hty'
  · -- both entities are of the type that the root stands for, and have its name
    have hsame : e'.typeId = e.typeId := Option.some.inj (hty'.symm.trans hty)
    obtain ⟨i, hi⟩ := List.getElem?_of_mem he
    obtain ⟨i', hi'⟩ := List.getElem?_of_mem he'
    have hhead := (hkk₁.consistent hk).entityHead_eq hi
    have hhead' := (hff₁.consistent hf).entityHead_eq hi'
    rw [hsame] at hhead'
    have hname : e'.name = e.name :=
      (Prod.mk.inj (Except.ok.inj (hhead'.symm.trans hhead))).1
    have hroot : m.findEntityType? e.name = m.findEntityType? root.entity.text :=
      ((hkk₁.consistent hk).findEntityType?_name hnames he).trans hty.symm
    dsimp only at hlater hfresh
    cases hjoin : words.any (·.isWord "join") with
    | true =>
      rw [hjoin] at hlater
      cases hlater
      cases hx
    | false =>
      rw [hjoin] at hlater hfresh
      rw [hname] at hfresh
      have hknown : ∀ s, s ∈ k.builtTypes ∨ m.findEntityType? root.entity.text = some s →
          s ∈ k₁.builtTypes := by
        rintro s (hs | hs)
        · exact hkk₁.keeps.types.subset hs
        · cases hs.symm.trans hty
          exact List.mem_map_of_mem he
      obtain ⟨p, hp, rfl, hno⟩ := checkPaths_unresolved hm hnames (hkk₁.consistent hk)
        (hkk₁.recalls hk hrk) hknown (.refl k₁) hlater hx
      rcases checkPaths_resolved hm hnames (hff₁.consistent hf) (hff₁.recalls hf hrf) hfresh hp
        with hmem | hyes
      · exact .inl hmem
      · rw [TypeModel.resolves_congr hroot] at hno hyes
        obtain ⟨w, hw, hword⟩ := List.mem_filterMap.mp hp
        obtain ⟨path, hpath, rfl⟩ := Option.map_eq_some_iff.mp hword
        exact .inr ⟨hjoin, w, hw, path, hpath, rfl, hyes, hno⟩

theorem analyse_after {query : String} {later fresh : List Finding}
    (hlater : RootEntity.analyse (lookupIn m true) query k = .ok (later, k'))
    (hfresh : RootEntity.analyse (lookupIn m true) query f = .ok (fresh, f'))
    {x : Finding} (hx : x ∈ later) :
    x ∈ fresh ∨ ∃ root, RootEntity.rootOf (QueryWord.wordsOf query) = .ok root ∧
      root.Gap m (QueryWord.wordsOf query)
        (fun ty => ty ∈ k.builtTypes ∨ m.findEntityType? root.entity.text = some ty)
        (· ∈ f'.builtTypes) x.range := by
  unfold RootEntity.analyse at hlater hfresh
  cases hroot : RootEntity.rootOf (QueryWord.wordsOf query) with
  | error reason =>
    rw [hroot] at hlater hfresh
    cases reason <;>
    · cases hlater
      cases hfresh
      exact .inl hx
  | ok root =>
    rw [hroot] at hlater hfresh
    rcases analyseRoot_after hm hnames hk hrk hf hrf hlater hfresh hx with hmem | hgap
    · exact .inl hmem
    · exact .inr ⟨root, rfl, hgap⟩

end

/-- What is reported on a site after other sites is reported on the site alone, except for an error
on a path that the site asks for: one that resolves by subtypes that the check of the site alone has
built, but not by those that the other sites have built or the site names. Where the texts of the
site fit, both checks come to their end. -/
theorem check_after {ds : List Declaration} {m : Declared} (hbuild : Declared.build ds = .ok m)
    (hnames : m.toModel.DistinctEntityNames) {sites : List CallSite}
    {each : List Diagnostics × Unit} {g : Graph}
    (hstate : Checker.checkEach m.toModel RootEntity.analyser .default sites () Graph.empty =
      .ok (each, g)) (site : CallSite) :
    ∃ later g₁ fresh g₂,
      Checker.check m.toModel RootEntity.analyser .default site () g = .ok ((later, ()), g₁) ∧
      Checker.check m.toModel RootEntity.analyser .default site () Graph.empty =
        .ok ((fresh, ()), g₂) ∧
      (∀ d ∈ later, d ∈ fresh ∨
        d.kind = .invalidQuery ∧ ∃ entity path, site.AsksAt m.toModel d.range entity path ∧
          m.toModel.Resolves (· ∈ g₂.builtTypes) entity (Path.ofString path) ∧
          ¬ m.toModel.Resolves (fun ty => ty ∈ g.builtTypes ∨ site.Names m.toModel ty) entity
            (Path.ofString path)) ∧
      (site.Fits →
        Checker.Completes m.toModel RootEntity.analyser .default [site] () g [later] ∧
        Checker.Completes m.toModel RootEntity.analyser .default [site] () Graph.empty
          [fresh]) := by
  have hm := Declared.build_accepted hbuild
  have hempty := Graph.empty_consistent m.toModel
  have hreach : Graph.empty.LeadsTo m.toModel true g :=
    (checkEach_leadsTo m.toModel .default sites) hstate
  have hg := hreach.consistent hm hempty
  have hruns : ∀ {k : Graph}, k.Consistent m.toModel → ∃ ds k',
      Checker.check m.toModel RootEntity.analyser .default site () k = .ok ((ds, ()), k') := by
    intro k hk
    obtain ⟨⟨ds, ⟨⟩⟩, k', hrun, -⟩ : Gives
      (Checker.check m.toModel RootEntity.analyser .default site ()) k _ := check_gives hm hk site
    exact ⟨ds, k', hrun⟩
  obtain ⟨later, g₁, hlater⟩ := hruns hg
  obtain ⟨fresh, g₂, hfresh⟩ := hruns hempty
  refine ⟨later, g₁, fresh, g₂, hlater, hfresh, fun d hd => ?_, fun hfits =>
    ⟨Checker.completes_site_of_fits hlater hfits, Checker.completes_site_of_fits hfresh hfits⟩⟩
  obtain ⟨r, k, htext, hreport⟩ := Checker.check_eq_ok hlater
  obtain ⟨r', f, htext', hreport'⟩ := Checker.check_eq_ok hfresh
  have hgk := (finalText_leadsTo m.toModel true .default site) htext
  have hf := (finalText_leadsTo m.toModel true .default site) htext'
  obtain ⟨rfl, hcall⟩ := finalText_eq hm hnames hg htext
  obtain ⟨rfl, -⟩ := finalText_eq hm hnames hempty htext'
  rcases hreport with ⟨hnone, rfl⟩ | ⟨e, findings, hsome, hfindings, rfl⟩ <;>
    rcases hreport' with ⟨hnone', rfl⟩ | ⟨e', findings', hsome', hfindings', rfl⟩
  · exact .inl hd
  · cases hnone.symm.trans hsome'
  · cases hsome.symm.trans hnone'
  · cases hsome.symm.trans hsome'
    rcases Checker.mem_reported hd with hsame | ⟨x, hx, hkeep, hkind, hrange⟩
    · exact .inl (hsame findings')
    · rcases analyse_after hm hnames (hgk.consistent hm hg) ((hreach.trans hgk).recalls hm)
        (hf.consistent hm hempty) (hf.recalls hm) hfindings hfindings' hx with
        hmem | ⟨root, hroot, hjoin, w, hw, path, hpath, hword, hyes, hno⟩
      · exact .inl (hkeep findings' hmem)
      · refine .inr ⟨hkind, root.entity.text, path, ?_, hyes, fun hknown => hno ?_⟩
        · exact ⟨e, root, w, ⟨hsome, hroot⟩, hjoin, hw, hpath, rfl, by rw [hrange, hword]⟩
        · refine hknown.mono ?_
          rintro s (hs | ⟨call, hc, hs⟩ | ⟨e', root', ⟨htext, hroot'⟩, hs⟩)
          · exact .inl (hgk.keeps.types.subset hs)
          · exact .inl (hcall call s hc hs)
          · cases htext.symm.trans hsome
            cases hroot'.symm.trans hroot
            exact .inr hs

/-- A literal that is a whole query, at the start of its source. -/
def CallSite.ofQuery (text : String) : CallSite := { CallSite.blank with literal := some text }

/-- Persons have employees as bosses. Employees and visitors have desks, at a contractor's and in a
room. -/
def visits : List Declaration :=
  [.entity "Person" none [.toOne "boss" "Employee"],
    .entity "Employee" (some "Person") [.plain "grade" "int", .toOne "desk" "Contractor"],
    .entity "Contractor" (some "Person") [.plain "fee" "int"],
    .entity "Visitor" (some "Person") [.toOne "desk" "Room"],
    .entity "Room" none [.plain "floor" "int"]]

def visitsModel : Declared where
  types := List.zipWith Declaration.below visits [none, some 0, some 0, some 0, none]
  byName := [("Room", 4), ("Visitor", 3), ("Contractor", 2), ("Employee", 1), ("Person", 0)]
  bySimpleName := [("Room", 4), ("Visitor", 3), ("Contractor", 2), ("Employee", 1), ("Person", 0)]

theorem build_visits : Declared.build visits = .ok visitsModel := rfl

theorem visits_distinct : visitsModel.toModel.DistinctEntityNames := by
  unfold TypeModel.DistinctEntityNames
  decide

/-- What is said about a site after others, and the types built before and after that. -/
def Checker.messagesAfter (m : TypeModel) (sites : List CallSite) (site : CallSite) :
    GraphM (List TypeId × List String × List TypeId) := do
  let _ ← checkEach m RootEntity.analyser .default sites ()
  let before := (← get).builtTypes
  let (ds, _) ← check m RootEntity.analyser .default site ()
  return (before, ds.map (·.message), (← get).builtTypes)

theorem messagesAfter_eq_ok {m : TypeModel} {sites : List CallSite} {site : CallSite}
    {before after : List TypeId} {messages : List String}
    (hrun : (Checker.messagesAfter m sites site Graph.empty).map Prod.fst =
      .ok (before, messages, after)) :
    ∃ each g ds g', Checker.checkEach m RootEntity.analyser .default sites () Graph.empty =
        .ok (each, g) ∧ g.builtTypes = before ∧
      Checker.check m RootEntity.analyser .default site () g = .ok ((ds, ()), g') ∧
      ds.map (·.message) = messages ∧ g'.builtTypes = after := by
  obtain ⟨⟨_, _⟩, hrun, hresult⟩ := Except.exists_of_map_eq_ok hrun
  obtain ⟨each, g, hstate, hrun⟩ := GraphM.bind_eq_ok hrun
  obtain ⟨_, _, hget, hrun⟩ := GraphM.bind_eq_ok hrun
  cases hget
  obtain ⟨⟨ds, ⟨⟩⟩, g', hcheck, hrun⟩ := GraphM.bind_eq_ok hrun
  cases hrun
  cases hresult
  exact ⟨each, g, ds, _, hstate, rfl, hcheck, rfl, rfl⟩

/-- Where visitors are known, only the fee of a person is missing, and it is without them. -/
theorem check_after_visits : ∃ each g later g₁ fresh g₂,
    Checker.checkEach visitsModel.toModel RootEntity.analyser .default
      [.ofQuery "FROM Visitor", .ofQuery "FROM Person"] () Graph.empty = .ok (each, g) ∧
    Checker.check visitsModel.toModel RootEntity.analyser .default
      (.ofQuery "FROM Person WHERE desk.floor = 2 AND fee = 3") () g = .ok ((later, ()), g₁) ∧
    Checker.check visitsModel.toModel RootEntity.analyser .default
      (.ofQuery "FROM Person WHERE desk.floor = 2 AND fee = 3") () Graph.empty =
        .ok ((fresh, ()), g₂) ∧
    later.map (·.message) = ["Person has no mapped fee"] ∧ ∀ d ∈ later, d ∈ fresh := by
  obtain ⟨each, g, ds, g₁, hstate, hbefore, hcheck, hmessages, -⟩ := messagesAfter_eq_ok
    (show (Checker.messagesAfter visitsModel.toModel
      [.ofQuery "FROM Visitor", .ofQuery "FROM Person"]
      (.ofQuery "FROM Person WHERE desk.floor = 2 AND fee = 3") Graph.empty).map Prod.fst =
        .ok ([3, 0], ["Person has no mapped fee"], [3, 0, 4]) by decide +kernel)
  obtain ⟨_, _, alone, g₂, hnothing, -, halone, -, hafter⟩ := messagesAfter_eq_ok
    (show (Checker.messagesAfter visitsModel.toModel []
      (.ofQuery "FROM Person WHERE desk.floor = 2 AND fee = 3") Graph.empty).map Prod.fst =
        .ok ([], ["Person has no mapped desk.floor", "Person has no mapped fee"], [0]) by
      decide +kernel)
  cases hnothing
  obtain ⟨later, g₁', fresh, g₂', hlater, hfresh, hcompare, -⟩ :=
    check_after build_visits visits_distinct hstate
      (.ofQuery "FROM Person WHERE desk.floor = 2 AND fee = 3")
  cases hcheck.symm.trans hlater
  cases halone.symm.trans hfresh
  refine ⟨each, g, ds, g₁, alone, g₂, hstate, hcheck, halone, hmessages, fun d hd => ?_⟩
  rcases hcompare d hd with hmem | ⟨-, entity, path, -, hyes, hno⟩
  · exact hmem
  · -- the site alone builds persons only, which are known
    refine absurd (hyes.mono fun s hs => .inl ?_) hno
    rw [hafter] at hs
    rw [hbefore]
    exact List.mem_cons_of_mem 3 hs

/-- An error may be new. A site alone finds the grade of a boss, an employee; looking for the floor
of an employee's desk it builds contractors, and finds their fee. Where visitors are known, one of
them has the floor, no contractor is built, and there is no fee. -/
theorem check_after_new_error : ¬ ∀ (ds : List Declaration) (m : Declared) (sites : List CallSite)
    (site : CallSite) (each : List Diagnostics × Unit) (later fresh : Diagnostics)
    (g g₁ g₂ : Graph), Declared.build ds = .ok m → m.toModel.DistinctEntityNames →
      Checker.checkEach m.toModel RootEntity.analyser .default sites () Graph.empty =
        .ok (each, g) →
      Checker.check m.toModel RootEntity.analyser .default site () g = .ok ((later, ()), g₁) →
      Checker.check m.toModel RootEntity.analyser .default site () Graph.empty =
        .ok ((fresh, ()), g₂) →
      ∀ d ∈ later, d ∈ fresh := by
  intro h
  obtain ⟨each, g, later, g₁, hstate, -, hlater, hmessages, -⟩ := messagesAfter_eq_ok
    (show (Checker.messagesAfter visitsModel.toModel [.ofQuery "FROM Visitor"]
      (.ofQuery "FROM Person WHERE boss.grade = 1 AND desk.floor = 2 AND fee = 3")
        Graph.empty).map Prod.fst =
        .ok ([3], ["Person has no mapped fee"], [3, 0, 1, 4]) by decide +kernel)
  obtain ⟨_, _, fresh, g₂, hnothing, -, hfresh, hmessages', -⟩ := messagesAfter_eq_ok
    (show (Checker.messagesAfter visitsModel.toModel []
      (.ofQuery "FROM Person WHERE boss.grade = 1 AND desk.floor = 2 AND fee = 3")
        Graph.empty).map Prod.fst =
        .ok ([], ["Person has no mapped desk.floor"], [0, 1, 2]) by decide +kernel)
  cases hnothing
  have hall := h visits visitsModel _ _ _ _ _ _ _ _ build_visits visits_distinct hstate hlater
    hfresh
  have hmem : "Person has no mapped fee" ∈ later.map (·.message) := by
    rw [hmessages]
    exact List.mem_singleton_self _
  obtain ⟨d, hd, hmessage⟩ := List.mem_map.mp hmem
  have hmem' := List.mem_map_of_mem (f := (·.message)) (hall d hd)
  rw [hmessages', hmessage] at hmem'
  revert hmem'
  decide

end EntityQuery
