import Mathlib
import EntityQuery.Proofs.Checker.SideBySide
import EntityQuery.Proofs.Graph.Alike
/-!
# Checks that report unknown entities and checks that do not

Where unknown entities are reported, the entity of a shorthand call is asked for before the call is
expanded. This is more than a test: the entity is built and linked, and paths of later sites may
fall back to it. So the reports may differ although all entities are known. They differ on paths
only, and not at all where calls are on entities below no other or on roots of queries.

Results:
* `finalText_unreported`, `finalText_reported`: the text of a call on a known entity is the same.
* `check_alike`: two checks of one site that report the same.
* `checkEach_harmless`: checks of sites whose calls are harmless.
* `check_lacks`: how the reports on a site differ otherwise.
* `check_unknownEntity`: a site after others, with unknown entities reported and without.
* `checkEach_unknownEntity_differs`: two lists of sites that make a difference.
-/
namespace EntityQuery

/-! ## Sites on known entities -/

namespace CallSite

/-- The type of the entity that a shorthand call is on. -/
def calledType? (m : TypeModel) (site : CallSite) : Option TypeId :=
  match site.shorthandCall? with
  | .ok (some call) => m.findEntityType? call.entity
  | _ => none

theorem calledType?_eq_none {m : TypeModel} {site : CallSite}
    (hno : ∀ call, site.shorthandCall? ≠ .ok (some call)) : site.calledType? m = none := by
  unfold calledType?
  split
  · rename_i call hs
    exact absurd hs (hno call)
  · rfl

/-- If the site is a shorthand call, its entity is known. -/
def CallsKnown (m : TypeModel) (site : CallSite) : Prop :=
  ∀ call, site.shorthandCall? = .ok (some call) → (m.findEntityType? call.entity).isSome = true

/-- The site is analysed as a query with a root of the type. -/
def Roots (m : TypeModel) (site : CallSite) (ty : TypeId) : Prop :=
  ∃ e root, site.HasRoot m e root ∧ m.findEntityType? root.entity.text = some ty

theorem names_iff {m : TypeModel} {site : CallSite} {ty : TypeId} :
    site.Names m ty ↔ site.calledType? m = some ty ∨ site.Roots m ty := by
  refine or_congr_left ⟨?_, fun h => ?_⟩
  · rintro ⟨call, hcall, hty⟩
    rw [calledType?, hcall]
    exact hty
  · unfold calledType? at h
    split at h
    · rename_i call hcall
      exact ⟨call, hcall, h⟩
    · cases h

end CallSite

namespace Checker

/-- The switches, with unknown entities reported or not. -/
abbrev reporting (config : CheckConfig) (on : Bool) : CheckConfig :=
  { config with reportUnknownEntity := on }

variable {m : TypeModel} {config : CheckConfig} {site : CallSite} {g g' : Graph}
  {r : Option Expansion × Diagnostics}

/-- Where unknown entities are not reported, the graph is left alone. -/
theorem finalText_unreported (hknown : site.CallsKnown m) :
    finalText m (reporting config false) site g = .ok (site.textIn m, g) := by
  by_cases hcall : ∃ call, site.shorthandCall? = .ok (some call)
  · obtain ⟨call, hs⟩ := hcall
    rw [finalText_call hs, CallSite.textIn, hs]
    simp only [hknown call hs, if_true]
    rfl
  · rw [finalText_of_no_call (not_exists.mp hcall)]
    rfl

/-- Where they are reported, the entity of a call is added. -/
theorem finalText_reported (hm : m.Accepted) (hnames : m.DistinctEntityNames)
    (hg : g.Consistent m) (hrun : finalText m (reporting config true) site g = .ok (r, g')) :
    r = site.textIn m ∧ g.Grows m g' (site.calledType? m) := by
  refine ⟨(finalText_eq hm hnames hg hrun).1, ?_⟩
  by_cases hcall : ∃ call, site.shorthandCall? = .ok (some call)
  · obtain ⟨call, hs⟩ := hcall
    rw [finalText_call hs] at hrun
    obtain ⟨known, g₁, hknown, hend⟩ := GraphM.bind_eq_ok hrun
    cases hend
    obtain ⟨⟨id?, _⟩, hname, hpair⟩ := Except.exists_of_map_eq_ok hknown
    cases hpair
    rw [CallSite.calledType?, hs]
    exact resolveEntity_grows hm hnames hg hname
  · have hno := not_exists.mp hcall
    rw [finalText_of_no_call hno] at hrun
    cases hrun
    rw [CallSite.calledType?_eq_none hno]
    exact ⟨hg, rfl, fun _ _ => rfl⟩

end Checker

/-! ## Checks that report the same -/

section
variable {m : TypeModel} (hm : m.Accepted) (hnames : m.DistinctEntityNames) {fallback : Bool}
  {g h : Graph} (ha : g.Alike m fallback h)
include hm hnames ha

theorem propertyTypeByName_alike (entity path : String) :
    Both (propertyTypeByName m fallback entity path) g (propertyTypeByName m fallback entity path) h
      fun a g' b h' => a.isSome = b.isSome ∧ g'.Alike m fallback h' := by
  refine Both.of_runs (propertyTypeByName_gives hm fallback ha.consistent entity path)
    (propertyTypeByName_gives hm fallback ha.consistent' entity path) fun hrun hrun' => ?_
  obtain ⟨rfl, ha'⟩ := namedType_alike hm hnames ha hrun hrun'
  exact ⟨rfl, ha'⟩

end

/-- Reading an entity leaves the graph as resolving its name does. -/
theorem entityByName_grows {m : TypeModel} (hm : m.Accepted) (hnames : m.DistinctEntityNames)
    {g g' : Graph} (hg : g.Consistent m) {name : String} {e? : Option Entity}
    (hrun : entityByName m name g = .ok (e?, g')) : g.Grows m g' (m.findEntityType? name) := by
  obtain ⟨id?, g₁, hname, hrun⟩ := GraphM.bind_eq_ok hrun
  have hgrows := resolveEntity_grows hm hnames hg hname
  cases id? with
  | none =>
    cases hrun
    exact hgrows
  | some id =>
    dsimp only at hrun
    rw [GraphM.get_bind] at hrun
    obtain ⟨e, g₂, hread, hend⟩ := GraphM.bind_eq_ok hrun
    obtain ⟨-, rfl⟩ := Graph.entity_eq_ok.mp hread
    cases hend
    exact hgrows

theorem analyseRoot_builds {m : TypeModel} (hm : m.Accepted) (hnames : m.DistinctEntityNames)
    {fallback : Bool} {words : List QueryWord} {root : RootEntity.Root} {g g' : Graph}
    {findings : List Finding} (hg : g.Consistent m)
    (hrun : RootEntity.analyseRoot (lookupIn m fallback) words root g = .ok (findings, g'))
    {ty : TypeId} (hty : m.findEntityType? root.entity.text = some ty) : ty ∈ g'.builtTypes := by
  obtain ⟨e?, g₁, hentity, hrest⟩ := GraphM.bind_eq_ok hrun
  have hgrows := entityByName_grows hm hnames hg hentity
  have hmem : ty ∈ g₁.builtTypes := by
    rw [hgrows.types]
    exact TypeModel.mem_withType.mpr (.inr hty)
  cases e? with
  | none =>
    cases hrest
    exact hmem
  | some e =>
    dsimp only at hrest
    split at hrest
    · cases hrest
      exact hmem
    · exact ((checkPaths_leadsTo m fallback e.name _) hrest).keeps.types.subset hmem

/-- An entity is read on graphs that answer alike. It may be there on the first already, as long as
both graphs have it in the end. -/
theorem entityByName_alike {m : TypeModel} (hm : m.Accepted) (hnames : m.DistinctEntityNames)
    {fallback : Bool} {g g₁ h : Graph} (ha : g.Alike m fallback h) (hg₁ : g₁.Consistent m)
    {name : String} (hlater : ∀ {g' : Graph}, g₁.Grows m g' (m.findEntityType? name) →
      g.Grows m g' (m.findEntityType? name)) :
    Both (entityByName m name) g₁ (entityByName m name) h
      fun e? g' e?' h' => e?.map (·.name) = e?'.map (·.name) ∧ g'.Alike m fallback h' := by
  refine Both.of_runs (entityByName_gives hm hg₁ name) (entityByName_gives hm ha.consistent' name)
    fun hrun hrun' => ⟨entityByName_names hm hnames hg₁ ha.consistent' hrun hrun', ?_⟩
  exact ha.grow (hlater (entityByName_grows hm hnames hg₁ hrun))
    (entityByName_grows hm hnames ha.consistent' hrun')

section
variable {m : TypeModel} (hm : m.Accepted) (hnames : m.DistinctEntityNames) {config : CheckConfig}
  {site : CallSite} (hknown : site.CallsKnown m)
include hm hnames hknown

/-- A check that reports unknown entities and one that does not, on graphs that answer alike. They
report the same on a call whose entity is there on both graphs, or is asked by nobody, or is the
root of the query that the call stands for. -/
theorem check_alike {g h : Graph} (ha : g.Alike m config.fallbackToSubtypes h)
    (hcalled : ∀ ty, site.calledType? m = some ty → ty ∈ h.builtTypes ∨
      (config.fallbackToSubtypes = true → m.IsTop ty) ∨ site.Roots m ty) :
    Both (Checker.check m RootEntity.analyser (Checker.reporting config true) site ()) g
      (Checker.check m RootEntity.analyser (Checker.reporting config false) site ()) h
      fun p g' q h' => p.1 = q.1 ∧ g'.Alike m config.fallbackToSubtypes h' := by
  refine Checker.check_both Eq (fun _ => rfl) (fun _ _ _ _ hsame => hsame ▸ rfl) ?_
  refine Both.of_runs (finalText_gives hm ha.consistent site)
    (finalText_gives hm ha.consistent' site) fun {r g₁ r' h₁} hrun hrun' => ?_
  obtain ⟨rfl, hgrows⟩ := Checker.finalText_reported hm hnames ha.consistent hrun
  cases (Checker.finalText_unreported hknown).symm.trans hrun'
  refine ⟨rfl, ?_⟩
  by_cases hroots : ∃ ty, site.calledType? m = some ty ∧ site.Roots m ty
  · -- the entity of the call is built with the root, if not before
    obtain ⟨ty, hty, e, root, ⟨htext, hroot⟩, hrootType⟩ := hroots
    refine ⟨fun hnone => ?_, fun e' he' => ?_⟩
    · cases htext.symm.trans hnone
    · cases htext.symm.trans he'
      unfold RootEntity.analyse
      dsimp only
      rw [hroot]
      refine RootEntity.analyseRoot_both pathByPath_eq
        (fun ha => propertyTypeByName_alike hm hnames ha _ _) ?_
      rw [hty, ← hrootType] at hgrows
      exact entityByName_alike hm hnames ha hgrows.consistent hgrows.again
  · have ha₁ := ha.grow_left hgrows fun ty hty => by
      rcases hcalled ty hty with hbuilt | htop | hroot
      · exact .inl hbuilt
      · exact .inr htop
      · exact absurd ⟨ty, hty, hroot⟩ hroots
    refine ⟨fun _ => ha₁, fun e _ => ?_⟩
    exact RootEntity.analyse_both pathByPath_eq
      (fun ha => propertyTypeByName_alike hm hnames ha _ _)
      (fun ha => entityByName_alike hm hnames ha ha.consistent id) e.text ha₁

/-- The root of a query is built when its site is checked. -/
theorem check_builds_root {h h' : Graph} (hh : h.Consistent m) {p : Diagnostics × Unit}
    (hrun : Checker.check m RootEntity.analyser (Checker.reporting config false) site () h =
      .ok (p, h')) {ty : TypeId} (hroots : site.Roots m ty) : ty ∈ h'.builtTypes := by
  obtain ⟨ds, ⟨⟩⟩ := p
  obtain ⟨r, h₁, htext, hreport⟩ := Checker.check_eq_ok hrun
  cases (Checker.finalText_unreported hknown).symm.trans htext
  obtain ⟨e, root, ⟨hsome, hroot⟩, hty⟩ := hroots
  rcases hreport with ⟨hnone, -⟩ | ⟨e', findings, hsome', hfindings, -⟩
  · cases hsome.symm.trans hnone
  · cases hsome.symm.trans hsome'
    unfold RootEntity.analyse at hfindings
    dsimp only at hfindings
    rw [hroot] at hfindings
    exact analyseRoot_builds hm hnames hh hfindings hty

end

/-! ## Lists of sites -/

/-- Every shorthand call is on an entity below no other, or on the root of a query that is among the
sites up to this one. -/
def Checker.HarmlessCalls (m : TypeModel) (sites : List CallSite) : Prop :=
  ∀ before site after, sites = before ++ site :: after → ∀ ty, site.calledType? m = some ty →
    m.IsTop ty ∨ ∃ s ∈ before ++ [site], s.Roots m ty

section
variable {m : TypeModel} (hm : m.Accepted) (hnames : m.DistinctEntityNames) {config : CheckConfig}
  {sites : List CallSite} (hknown : ∀ s ∈ sites, s.CallsKnown m)
  (hharmless : config.fallbackToSubtypes = true → Checker.HarmlessCalls m sites)
  {before : List CallSite} {g h : Graph} (ha : g.Alike m config.fallbackToSubtypes h)
  (hroots : ∀ s ∈ before, ∀ ty, s.Roots m ty → ty ∈ h.builtTypes)
include hm hnames hknown hharmless ha hroots

theorem check_harmless {site : CallSite} {after : List CallSite}
    (hsites : sites = before ++ site :: after) :
    Both (Checker.check m RootEntity.analyser (Checker.reporting config true) site ()) g
      (Checker.check m RootEntity.analyser (Checker.reporting config false) site ()) h
      fun p g' q h' => p.1 = q.1 ∧ g'.Alike m config.fallbackToSubtypes h' ∧
        ∀ s ∈ before ++ [site], ∀ ty, s.Roots m ty → ty ∈ h'.builtTypes := by
  have hsite := hknown site (by simp [hsites])
  refine ((check_alike hm hnames hsite ha fun ty hty => ?_).and_right
    (P := fun _ h' => ∀ s ∈ before ++ [site], ∀ ty, s.Roots m ty → ty ∈ h'.builtTypes) ?_).mono
    fun ⟨⟨hsame, ha'⟩, hroots'⟩ => ⟨hsame, ha', hroots'⟩
  · cases hfallback : config.fallbackToSubtypes with
    | false => exact .inr (.inl fun h => by cases h)
    | true =>
      rcases hharmless hfallback before site after hsites ty hty with htop | ⟨s, hs, hroot⟩
      · exact .inr (.inl fun _ => htop)
      · rcases List.mem_append.mp hs with hs | hs
        · exact .inl (hroots s hs ty hroot)
        · exact .inr (.inr (List.mem_singleton.mp hs ▸ hroot))
  · intro p h' hrun s hs ty hroot
    rcases List.mem_append.mp hs with hs | hs
    · exact ((check_leadsTo m _ site) hrun).keeps.types.subset (hroots s hs ty hroot)
    · rw [List.mem_singleton.mp hs] at hroot
      exact check_builds_root hm hnames hsite ha.consistent' hrun hroot

/-- By induction on the sites to check: the roots of those before are built. -/
theorem checkEach_harmless {rest after : List CallSite} (hsites : sites = before ++ rest ++ after) :
    Both (Checker.checkEach m RootEntity.analyser (Checker.reporting config true) rest ()) g
      (Checker.checkEach m RootEntity.analyser (Checker.reporting config false) rest ()) h
      fun p g' q h' => p.1 = q.1 ∧ g'.Alike m config.fallbackToSubtypes h' ∧
        ∀ s ∈ before ++ rest, ∀ ty, s.Roots m ty → ty ∈ h'.builtTypes := by
  induction rest generalizing before g h with
  | nil => exact Both.pure ⟨rfl, ha, by simpa using hroots⟩
  | cons site rest ih =>
    have hsite : sites = before ++ site :: (rest ++ after) := by simpa using hsites
    refine Both.bind (check_harmless hm hnames hknown hharmless ha hroots hsite)
      fun ⟨hsame, ha', hroots'⟩ => ?_
    refine Both.bind (ih ha' hroots' (by simpa using hsites)) fun ⟨hrest, ha'', hroots''⟩ => ?_
    exact Both.pure ⟨by rw [hsame, hrest], ha'', by simpa using hroots''⟩

end

/-! ## How reports differ -/

/-- The finding is an error on a path that the site asks for: one that resolves by the types in
`built`, and not by those in `known`. -/
def CallSite.Lacks (m : TypeModel) (site : CallSite) (known built : TypeId → Prop)
    (d : Diagnostic) : Prop :=
  d.kind = .invalidQuery ∧ ∃ entity path, site.AsksAt m d.range entity path ∧
    m.Resolves built entity (Path.ofString path) ∧ ¬ m.Resolves known entity (Path.ofString path)

theorem CallSite.Lacks.mono {m : TypeModel} {site : CallSite} {known known' built : TypeId → Prop}
    {d : Diagnostic} (h : site.Lacks m known built d) (hknown : ∀ ty, known' ty → known ty) :
    site.Lacks m known' built d := by
  obtain ⟨hkind, entity, path, hasks, hyes, hno⟩ := h
  exact ⟨hkind, entity, path, hasks, hyes, fun h => hno (h.mono hknown)⟩

/-- Of two checks of a site with the same text, one reports what the other does not only if a path
lacks types on the graph of the one that are built on the graph of the other. -/
theorem check_lacks {m : TypeModel} (hm : m.Accepted) (hnames : m.DistinctEntityNames)
    {config config' : CheckConfig} (hfallback : config.fallbackToSubtypes = true)
    (hfallback' : config'.fallbackToSubtypes = true)
    (hbindings : config.checkBindings = config'.checkBindings) {site : CallSite}
    {k k₀ k₁ f f₀ f₁ : Graph} (hk : Graph.empty.LeadsTo m true k₀)
    (hf : Graph.empty.LeadsTo m true f₀)
    (htext : Checker.finalText m config site k = .ok (site.textIn m, k₀))
    (htext' : Checker.finalText m config' site f = .ok (site.textIn m, f₀))
    {found found' : Diagnostics}
    (hrun : Checker.check m RootEntity.analyser config site () k = .ok ((found, ()), k₁))
    (hrun' : Checker.check m RootEntity.analyser config' site () f = .ok ((found', ()), f₁))
    {d : Diagnostic} (hd : d ∈ found) : d ∈ found' ∨
      site.Lacks m (fun ty => ty ∈ k₀.builtTypes ∨ site.Roots m ty) (· ∈ f₁.builtTypes) d := by
  have hempty := Graph.empty_consistent m
  obtain ⟨r, _, hr, hreport⟩ := Checker.check_eq_ok hrun
  cases htext.symm.trans hr
  obtain ⟨r', _, hr', hreport'⟩ := Checker.check_eq_ok hrun'
  cases htext'.symm.trans hr'
  have hsame : ∀ e findings, Checker.reported config' site (site.textIn m).2 e findings =
      Checker.reported config site (site.textIn m).2 e findings := fun e findings => by
    unfold Checker.reported Checker.reportOn Checker.bindingFindings
    rw [hbindings]
  rcases hreport with ⟨hnone, rfl⟩ | ⟨e, findings, hsome, hfindings, rfl⟩ <;>
    rcases hreport' with ⟨hnone', rfl⟩ | ⟨e', findings', hsome', hfindings', rfl⟩
  · exact .inl hd
  · cases hnone.symm.trans hsome'
  · cases hsome.symm.trans hnone'
  · cases hsome.symm.trans hsome'
    rw [hfallback] at hfindings
    rw [hfallback'] at hfindings'
    rw [hsame]
    rcases Checker.mem_reported hd with hmem | ⟨x, hx, hkeep, hkind, hrange⟩
    · exact .inl (hmem findings')
    · rcases analyse_after hm hnames (hk.consistent hm hempty) (hk.recalls hm)
        (hf.consistent hm hempty) (hf.recalls hm) hfindings hfindings' hx with
        hmem | ⟨root, hroot, hjoin, w, hw, path, hpath, hword, hyes, hno⟩
      · exact .inl (hkeep findings' hmem)
      · refine .inr ⟨hkind, root.entity.text, path, ?_, hyes, fun hresolves => hno ?_⟩
        · exact ⟨e, root, w, ⟨hsome, hroot⟩, hjoin, hw, hpath, rfl, by rw [hrange, hword]⟩
        · refine hresolves.mono fun ty hty => hty.imp_right ?_
          rintro ⟨e', root', ⟨htext, hroot'⟩, hty⟩
          cases htext.symm.trans hsome
          cases hroot'.symm.trans hroot
          exact hty

section
variable {m : TypeModel} (hm : m.Accepted) (hnames : m.DistinctEntityNames) {config : CheckConfig}
  {sites : List CallSite} {site : CallSite} (hknown : ∀ s ∈ sites ++ [site], s.CallsKnown m)
  {each each' : List Diagnostics} {found found' : Diagnostics} {g g₁ h h₁ : Graph}
  (hsites : Checker.checkEach m RootEntity.analyser (Checker.reporting config true) sites ()
    Graph.empty = .ok ((each, ()), g))
  (hrun : Checker.check m RootEntity.analyser (Checker.reporting config true) site () g =
    .ok ((found, ()), g₁))
  (hsites' : Checker.checkEach m RootEntity.analyser (Checker.reporting config false) sites ()
    Graph.empty = .ok ((each', ()), h))
  (hrun' : Checker.check m RootEntity.analyser (Checker.reporting config false) site () h =
    .ok ((found', ()), h₁))
include hm hnames hknown hsites hrun hsites' hrun'

/-- Where calls are harmless, nothing differs. -/
theorem found_eq_of_harmless (hharmless : config.fallbackToSubtypes = true →
    Checker.HarmlessCalls m (sites ++ [site])) : each = each' ∧ found = found' := by
  obtain ⟨_, _, hbefore, _, _, hbefore', hsame, ha, hroots⟩ :=
    checkEach_harmless hm hnames hknown hharmless (.refl (Graph.empty_consistent m))
      (fun _ hs => absurd hs List.not_mem_nil)
      (show sites ++ [site] = [] ++ sites ++ [site] from rfl)
  cases hsites.symm.trans hbefore
  cases hsites'.symm.trans hbefore'
  obtain ⟨_, _, hlast, _, _, hlast', hsame', -⟩ :=
    check_harmless hm hnames hknown hharmless ha hroots
      (show sites ++ [site] = ([] ++ sites) ++ site :: [] from rfl)
  cases hrun.symm.trans hlast
  cases hrun'.symm.trans hlast'
  exact ⟨hsame, hsame'⟩

/-- With fallback, what differs is about paths that lack types. -/
theorem found_lacks (hfallback : config.fallbackToSubtypes = true) :
    (∀ d ∈ found, d ∈ found' ∨ site.Lacks m
      (fun ty => ty ∈ g.builtTypes ∨ site.Names m ty) (· ∈ h₁.builtTypes) d) ∧
    ∀ d ∈ found', d ∈ found ∨ site.Lacks m
      (fun ty => ty ∈ h.builtTypes ∨ site.Roots m ty) (· ∈ g₁.builtTypes) d := by
  have hg := (checkEach_leadsTo m _ sites) hsites
  have hh := (checkEach_leadsTo m _ sites) hsites'
  rw [hfallback] at hg hh
  obtain ⟨r, g₀, htext, -⟩ := Checker.check_eq_ok hrun
  have hg₀ : g.LeadsTo m true g₀ := (finalText_leadsTo m true _ site) htext
  obtain ⟨rfl, hgrows⟩ := Checker.finalText_reported hm hnames
    (hg.consistent hm (Graph.empty_consistent m)) htext
  have htext' : Checker.finalText m (Checker.reporting config false) site h = _ :=
    Checker.finalText_unreported (hknown site (by simp))
  have hon : (Checker.reporting config true).fallbackToSubtypes = true := hfallback
  have hoff : (Checker.reporting config false).fallbackToSubtypes = true := hfallback
  constructor
  · intro d hd
    refine (check_lacks hm hnames hon hoff rfl (hg.trans hg₀) hh htext htext' hrun hrun'
      hd).imp_right fun hlacks => hlacks.mono fun ty hty => ?_
    rw [hgrows.types, TypeModel.mem_withType, or_assoc]
    exact hty.imp_right CallSite.names_iff.mp
  · intro d hd
    exact check_lacks hm hnames hoff hon rfl hh (hg.trans hg₀) htext' htext hrun' hrun hd

end

/-- A site after others, all calls being on known entities, with unknown entities reported and
without. Both checks come to their end if the texts fit. Where calls are harmless or paths do not
fall back, the reports are the same on every site. In any case a report of one check that is not one
of the other is an error on a path that lacks types which only the other has built. -/
theorem check_unknownEntity {ds : List Declaration} {m : Declared}
    (hbuild : Declared.build ds = .ok m) (hnames : m.toModel.DistinctEntityNames)
    (config : CheckConfig) (sites : List CallSite) (site : CallSite)
    (hknown : ∀ s ∈ sites ++ [site], s.CallsKnown m.toModel) :
    let on : CheckConfig := { config with reportUnknownEntity := true }
    let off : CheckConfig := { config with reportUnknownEntity := false }
    ∃ each g found g₁ each' h found' h₁,
      Checker.checkEach m.toModel RootEntity.analyser on sites () Graph.empty =
        .ok ((each, ()), g) ∧
      Checker.check m.toModel RootEntity.analyser on site () g = .ok ((found, ()), g₁) ∧
      Checker.checkEach m.toModel RootEntity.analyser off sites () Graph.empty =
        .ok ((each', ()), h) ∧
      Checker.check m.toModel RootEntity.analyser off site () h = .ok ((found', ()), h₁) ∧
      ((∀ s ∈ sites ++ [site], s.Fits) →
        Checker.Completes m.toModel RootEntity.analyser on (sites ++ [site]) () Graph.empty
          (each ++ [found]) ∧
        Checker.Completes m.toModel RootEntity.analyser off (sites ++ [site]) () Graph.empty
          (each' ++ [found'])) ∧
      ((config.fallbackToSubtypes = true → Checker.HarmlessCalls m.toModel (sites ++ [site])) →
        each = each' ∧ found = found') ∧
      (∀ d ∈ found, d ∈ found' ∨ site.Lacks m.toModel
        (fun ty => ty ∈ g.builtTypes ∨ site.Names m.toModel ty) (· ∈ h₁.builtTypes) d) ∧
      ∀ d ∈ found', d ∈ found ∨ site.Lacks m.toModel
        (fun ty => ty ∈ h.builtTypes ∨ site.Roots m.toModel ty) (· ∈ g₁.builtTypes) d := by
  intro on off
  have hm := Declared.build_accepted hbuild
  have hempty := Graph.empty_consistent m.toModel
  have hsite := hknown site (by simp)
  obtain ⟨⟨each, ⟨⟩⟩, g, hsites, hg⟩ : Gives (Checker.checkEach m.toModel RootEntity.analyser on
    sites ()) Graph.empty _ := checkEach_gives hm hempty sites
  obtain ⟨⟨each', ⟨⟩⟩, h, hsites', hh⟩ : Gives (Checker.checkEach m.toModel RootEntity.analyser off
    sites ()) Graph.empty _ := checkEach_gives hm hempty sites
  obtain ⟨⟨found, ⟨⟩⟩, g₁, hrun, -⟩ : Gives (Checker.check m.toModel RootEntity.analyser on site ())
    g _ := check_gives hm hg site
  obtain ⟨⟨found', ⟨⟩⟩, h₁, hrun', -⟩ : Gives (Checker.check m.toModel RootEntity.analyser off site
    ()) h _ := check_gives hm hh site
  have hequal := found_eq_of_harmless hm hnames hknown hsites hrun hsites' hrun'
  have hcompletes := fun hfits : ∀ s ∈ sites ++ [site], s.Fits =>
    And.intro (Checker.completes_of_fits (Checker.checkEach_concat hsites hrun) hfits)
      (Checker.completes_of_fits (Checker.checkEach_concat hsites' hrun') hfits)
  refine ⟨each, g, found, g₁, each', h, found', h₁, hsites, hrun, hsites', hrun', hcompletes,
    hequal, ?_⟩
  cases hfallback : config.fallbackToSubtypes with
  | false =>
    obtain ⟨-, rfl⟩ := hequal fun htrue => absurd (hfallback.symm.trans htrue) Bool.false_ne_true
    exact ⟨fun d hd => .inl hd, fun d hd => .inl hd⟩
  | true => exact found_lacks hm hnames hknown hsites hrun hsites' hrun' hfallback

/-! ## Calls that are seen later -/

/-- An update of an entity, without a query. -/
def CallSite.updateOf (entity : String) : CallSite :=
  { CallSite.blank with verb := some "update", entity := some entity }

/-- Persons of a number. -/
def numberQuery : CallSite := .ofQuery "FROM Person WHERE number = 1"

theorem callsKnown_of_all {m : TypeModel} {sites : List CallSite}
    (h : ∀ s ∈ sites, (match s.shorthandCall? with
      | .ok (some call) => (m.findEntityType? call.entity).isSome
      | _ => true) = true) : ∀ s ∈ sites, s.CallsKnown m := by
  intro s hs call hcall
  have hsite := h s hs
  rw [hcall] at hsite
  exact hsite

theorem staff_callsKnown :
    ∀ s ∈ [.updateOf "Employee"] ++ [numberQuery], s.CallsKnown staffModel.toModel :=
  callsKnown_of_all (by decide +kernel)

theorem staff_reporting : Checker.messagesEach staffModel.toModel
    (Checker.reporting .default true) ([.updateOf "Employee"] ++ [numberQuery]) =
      .ok [[], []] := by
  decide +kernel

theorem staff_not_reporting : Checker.messagesEach staffModel.toModel
    (Checker.reporting .default false) ([.updateOf "Employee"] ++ [numberQuery]) =
      .ok [[], ["Person has no mapped number"]] := by
  decide +kernel

/-- After an update of employees, that persons have no number is said only if the update has not
made employees known. -/
theorem check_unknownEntity_staff : ∃ (each each' : List Diagnostics) (found found' : Diagnostics)
    (g₁ h : Graph), found = [] ∧ found'.map (·.message) = ["Person has no mapped number"] ∧
      Checker.Completes staffModel.toModel RootEntity.analyser (Checker.reporting .default true)
        ([.updateOf "Employee"] ++ [numberQuery]) () Graph.empty (each ++ [found]) ∧
      Checker.Completes staffModel.toModel RootEntity.analyser (Checker.reporting .default false)
        ([.updateOf "Employee"] ++ [numberQuery]) () Graph.empty (each' ++ [found']) ∧
      ∀ d ∈ found', numberQuery.Lacks staffModel.toModel
        (fun ty => ty ∈ h.builtTypes ∨ numberQuery.Roots staffModel.toModel ty)
        (· ∈ g₁.builtTypes) d := by
  obtain ⟨each, g, found, g₁, each', h, found', h₁, hsites, hrun, hsites', hrun', hcompletes, -, -,
    hlacks⟩ := check_unknownEntity build_staff staff_distinct .default [.updateOf "Employee"]
      numberQuery staff_callsKnown
  obtain ⟨hon, hoff⟩ := hcompletes (by decide +kernel)
  have hfound : found.map (·.message) = [] :=
    (Option.some.inj (Checker.messages_of_last staff_reporting hsites hrun)).symm
  have hfound' : found'.map (·.message) = ["Person has no mapped number"] :=
    (Option.some.inj (Checker.messages_of_last staff_not_reporting hsites' hrun')).symm
  refine ⟨each, each', found, found', g₁, h, List.map_eq_nil_iff.mp hfound, hfound', hon, hoff,
    fun d hd => ?_⟩
  rw [List.map_eq_nil_iff.mp hfound] at hlacks
  exact (hlacks d hd).resolve_left List.not_mem_nil

/-- Checks that report unknown entities and checks that do not say the same on every site. -/
def Checker.SameReports (m : TypeModel) (config : CheckConfig) (sites : List CallSite) : Prop :=
  ∀ each each' g h,
    checkEach m RootEntity.analyser (reporting config true) sites () Graph.empty =
      .ok ((each, ()), g) →
    checkEach m RootEntity.analyser (reporting config false) sites () Graph.empty =
      .ok ((each', ()), h) → each = each'

theorem Checker.not_sameReports {m : TypeModel} {config : CheckConfig} {sites : List CallSite}
    {messages messages' : List (List String)}
    (hon : messagesEach m (reporting config true) sites = .ok messages)
    (hoff : messagesEach m (reporting config false) sites = .ok messages')
    (hne : messages ≠ messages') : ¬ SameReports m config sites := by
  intro hsame
  obtain ⟨⟨⟨each, ⟨⟩⟩, g⟩, hrun, heach⟩ := Except.exists_of_map_eq_ok hon
  obtain ⟨⟨⟨each', ⟨⟩⟩, h⟩, hrun', heach'⟩ := Except.exists_of_map_eq_ok hoff
  cases hsame each each' g h hrun hrun'
  exact hne (heach.symm.trans heach')

/-- Two entity types with one simple name and different fields. -/
def measuredItems : List Declaration :=
  [.entity "a.Item" none [.plain "width" "int"], .entity "b.Item" none [.plain "depth" "int"]]

def measuredItemsModel : Declared where
  types := measuredItems.map (·.below none)
  byName := [("b.Item", 1), ("a.Item", 0)]
  bySimpleName := [("Item", 0)]

theorem build_measuredItems : Declared.build measuredItems = .ok measuredItemsModel := rfl

/-- That every call is on a known entity does not give the same reports. Distinct entity names alone
are not enough, nor is it enough that paths do not fall back: the entity of an update may be found
by the name of another one. -/
theorem checkEach_unknownEntity_differs :
    (¬ ∀ (ds : List Declaration) (m : Declared) (config : CheckConfig) (sites : List CallSite),
      Declared.build ds = .ok m → m.toModel.DistinctEntityNames →
      (∀ s ∈ sites, s.CallsKnown m.toModel) → Checker.SameReports m.toModel config sites) ∧
    ¬ ∀ (ds : List Declaration) (m : Declared) (config : CheckConfig) (sites : List CallSite),
      Declared.build ds = .ok m → config.fallbackToSubtypes = false →
      (∀ s ∈ sites, s.CallsKnown m.toModel) → Checker.SameReports m.toModel config sites := by
  constructor
  · intro h
    exact Checker.not_sameReports staff_reporting staff_not_reporting (by decide)
      (h staff staffModel .default _ build_staff staff_distinct staff_callsKnown)
  · intro h
    let exact : CheckConfig := { CheckConfig.default with fallbackToSubtypes := false }
    let sites : List CallSite := [.updateOf "b.Item", .ofQuery "FROM Item WHERE depth = 1"]
    have hon : Checker.messagesEach measuredItemsModel.toModel (Checker.reporting exact true)
        sites = .ok [[], []] := by decide +kernel
    have hoff : Checker.messagesEach measuredItemsModel.toModel (Checker.reporting exact false)
        sites = .ok [[], ["Item has no mapped depth"]] := by decide +kernel
    exact Checker.not_sameReports hon hoff (by decide)
      (h measuredItems measuredItemsModel exact sites build_measuredItems rfl
        (callsKnown_of_all (by decide +kernel)))

end EntityQuery
