import Mathlib
import EntityQuery.Proofs.Checker.SideBySide
/-!
# Checks with and without fallback

Without fallback a path is answered only if it resolves by the types that it names. Such a path is
answered with fallback, too, whatever else is built by then. So letting paths fall back to subtypes
takes findings away and adds none, although the two checks build different entities as they go on.

Results:
* `propertyTypeByName_both`: what is answered without fallback is answered with it.
* `check_fallback`: one site, in states that checks with and without fallback lead to.
* `checkEach_fallback`: any sites.
-/
namespace EntityQuery

/-- The graphs are such as requests with fallback, and requests without it, lead to. -/
structure Graph.Reached (m : TypeModel) (g h : Graph) : Prop where
  falling : Graph.empty.LeadsTo m true g
  strict : Graph.empty.LeadsTo m false h

section
variable {m : TypeModel} (hm : m.Accepted) (hnames : m.DistinctEntityNames) {g h : Graph}
  (hR : Graph.Reached m g h)
include hm hnames hR

theorem entityByName_both (name : String) :
    Both (entityByName m name) g (entityByName m name) h
      fun e? g' e?' h' => e?.map (·.name) = e?'.map (·.name) ∧ Graph.Reached m g' h' := by
  have hg := hR.falling.consistent hm (Graph.empty_consistent m)
  have hh := hR.strict.consistent hm (Graph.empty_consistent m)
  refine Both.of_runs (entityByName_gives hm hg name) (entityByName_gives hm hh name)
    fun hrun hrun' => ⟨entityByName_names hm hnames hg hh hrun hrun', ?_⟩
  exact ⟨hR.falling.trans ((entityByName_leadsTo m true name) hrun),
    hR.strict.trans ((entityByName_leadsTo m false name) hrun')⟩

/-- What is answered without fallback is answered with it. -/
theorem propertyTypeByName_both (entity path : String) :
    Both (propertyTypeByName m true entity path) g (propertyTypeByName m false entity path) h
      fun a g' b h' => (b.isSome = true → a.isSome = true) ∧ Graph.Reached m g' h' := by
  have hg := hR.falling.consistent hm (Graph.empty_consistent m)
  have hh := hR.strict.consistent hm (Graph.empty_consistent m)
  refine Both.of_runs (propertyTypeByName_gives hm true hg entity path)
    (propertyTypeByName_gives hm false hh entity path) fun {a g' b h'} hrun hrun' => ⟨?_, ?_⟩
  · intro hsome
    obtain ⟨t, rfl⟩ := Option.isSome_iff_exists.mp hsome
    have hresolves : m.Resolves (fun _ => False) entity (Path.ofString path) :=
      (Graph.namedType_resolves hm hnames hh (hR.strict.recalls hm) hrun').mono
        fun _ hs => absurd hs.1 Bool.false_ne_true
    exact Graph.namedType_isSome hm hnames hg (hR.falling.recalls hm) (fun _ hs => hs.elim)
      hresolves (.refl g) hrun
  · exact ⟨hR.falling.trans ((propertyTypeByName_leadsTo m true entity path) hrun),
      hR.strict.trans ((propertyTypeByName_leadsTo m false entity path) hrun')⟩

/-- A name is known to both or to neither. -/
theorem resolveEntity_both (name : String) :
    Both (resolveEntity m name) g (resolveEntity m name) h
      fun id? g' id?' h' => id?.isSome = id?'.isSome ∧ Graph.Reached m g' h' := by
  have hg := hR.falling.consistent hm (Graph.empty_consistent m)
  have hh := hR.strict.consistent hm (Graph.empty_consistent m)
  refine Both.of_runs (resolveEntity_gives hm hg name) (resolveEntity_gives hm hh name)
    fun {id? g' id?' h'} hrun hrun' => ?_
  have hgg' := (resolveEntity_leadsTo m true name) hrun
  have hhh' := (resolveEntity_leadsTo m false name) hrun'
  refine ⟨?_, hR.falling.trans hgg', hR.strict.trans hhh'⟩
  rw [(hgg'.consistent hm hg).isSome_of_lookup hnames (resolveEntity_entered hrun),
    (hhh'.consistent hm hh).isSome_of_lookup hnames (resolveEntity_entered hrun')]

variable {config config' : CheckConfig}

theorem finalText_both (hunknown : config.reportUnknownEntity = config'.reportUnknownEntity)
    (site : CallSite) :
    Both (Checker.finalText m config site) g (Checker.finalText m config' site) h
      fun r g' r' h' => r = r' ∧ Graph.Reached m g' h' := by
  by_cases hcall : ∃ call, site.shorthandCall? = .ok (some call)
  · obtain ⟨call, hs⟩ := hcall
    rw [Checker.finalText_call hs, Checker.finalText_call hs, ← hunknown]
    refine Both.bind (Q := fun a g' b h' => a = b ∧ Graph.Reached m g' h') ?_
      fun hstep => Both.pure ⟨by rw [hstep.1], hstep.2⟩
    split
    · exact Both.map (resolveEntity_both hm hnames hR call.entity)
    · exact Both.pure ⟨rfl, hR⟩
  · rw [finalText_of_no_call (not_exists.mp hcall), finalText_of_no_call (not_exists.mp hcall)]
    exact Both.pure ⟨rfl, hR⟩

end

/-! ## Sites -/

/-- Fewer findings on a text make fewer reports; those on bindings are the same. -/
theorem Checker.reported_sublist {config config' : CheckConfig}
    (hbindings : config.checkBindings = config'.checkBindings) (site : CallSite)
    (early : Diagnostics) (e : Expansion) {fs fs' : List Finding} (hsub : fs.Sublist fs') :
    (reported config site early e fs).Sublist (reported config' site early e fs') := by
  refine List.Sublist.append_left (List.Sublist.map _ ?_) _
  unfold reportOn bindingFindings Bindings.check
  rw [← hbindings]
  split
  · exact ((hsub.map Finding.toDiagnostic).append_right _).append_right _
  · exact hsub.map Finding.toDiagnostic

section
variable {m : TypeModel} (hm : m.Accepted) (hnames : m.DistinctEntityNames) {g h : Graph}
  (hR : Graph.Reached m g h) (config : CheckConfig)
include hm hnames hR

/-- On one site, what is reported with fallback is among what is reported without it. -/
theorem check_fallback (site : CallSite) :
    Both (Checker.check m RootEntity.analyser { config with fallbackToSubtypes := true } site ()) g
      (Checker.check m RootEntity.analyser { config with fallbackToSubtypes := false } site ()) h
      fun p g' q h' => List.Sublist p.1 q.1 ∧ Graph.Reached m g' h' := by
  refine Checker.check_both List.Sublist List.Sublist.refl ?_ ?_
  · exact fun early e _ _ hsub => Checker.reported_sublist rfl site early e hsub
  refine (finalText_both hm hnames hR rfl site).mono fun ⟨hsame, hR'⟩ => ?_
  refine ⟨hsame, fun _ => hR', fun e _ => ?_⟩
  exact RootEntity.analyse_both pathByPath_sublist
    (fun hR => propertyTypeByName_both hm hnames hR _ _)
    (fun hR => entityByName_both hm hnames hR _) e.text hR'

/-- By induction on the sites: after each of them the graphs are still such as requests lead to. -/
theorem checkEach_sublists (sites : List CallSite) :
    Both (Checker.checkEach m RootEntity.analyser { config with fallbackToSubtypes := true } sites
        ()) g
      (Checker.checkEach m RootEntity.analyser { config with fallbackToSubtypes := false } sites
        ()) h
      fun p _ q _ => List.Forall₂ List.Sublist p.1 q.1 := by
  induction sites generalizing g h with
  | nil => exact Both.pure .nil
  | cons site rest ih =>
    refine Both.bind (check_fallback hm hnames hR config site) fun ⟨hsub, hR'⟩ => ?_
    exact Both.bind (ih hR') fun hrest => Both.pure (.cons hsub hrest)

end

/-- Sites checked from the start, with fallback and without it: on each site, what is reported with
fallback is among what is reported without it, in the same order. Both checks come to their end if
the texts fit. -/
theorem checkEach_fallback {ds : List Declaration} {m : Declared}
    (hbuild : Declared.build ds = .ok m) (hnames : m.toModel.DistinctEntityNames)
    (config : CheckConfig) (sites : List CallSite) : ∃ falling g strict h,
      Checker.checkEach m.toModel RootEntity.analyser { config with fallbackToSubtypes := true }
        sites () Graph.empty = .ok ((falling, ()), g) ∧
      Checker.checkEach m.toModel RootEntity.analyser { config with fallbackToSubtypes := false }
        sites () Graph.empty = .ok ((strict, ()), h) ∧
      List.Forall₂ List.Sublist falling strict ∧
      ((∀ site ∈ sites, site.Fits) →
        Checker.Completes m.toModel RootEntity.analyser { config with fallbackToSubtypes := true }
          sites () Graph.empty falling ∧
        Checker.Completes m.toModel RootEntity.analyser { config with fallbackToSubtypes := false }
          sites () Graph.empty strict) := by
  have hm := Declared.build_accepted hbuild
  have hempty : Graph.Reached m.toModel Graph.empty Graph.empty :=
    ⟨refl_of (Graph.LeadsTo m.toModel true) _, refl_of (Graph.LeadsTo m.toModel false) _⟩
  obtain ⟨⟨falling, ⟨⟩⟩, g, hrun, ⟨strict, ⟨⟩⟩, h, hrun', hsubs⟩ :=
    checkEach_sublists hm hnames hempty config sites
  exact ⟨falling, g, strict, h, hrun, hrun', hsubs, fun hfits =>
    ⟨Checker.completes_of_fits hrun hfits, Checker.completes_of_fits hrun' hfits⟩⟩

/-- Employees, and persons of a number and a size. -/
def numberSites : List CallSite :=
  [.ofQuery "FROM Employee", .ofQuery "FROM Person WHERE number = 1 AND size = 2"]

/-- Nobody has a size. Without fallback a person has no number either, although employees are
known. -/
theorem checkEach_fallback_staff : ∃ falling g strict h,
    Checker.checkEach staffModel.toModel RootEntity.analyser
      { CheckConfig.default with fallbackToSubtypes := true } numberSites () Graph.empty =
        .ok ((falling, ()), g) ∧
    Checker.checkEach staffModel.toModel RootEntity.analyser
      { CheckConfig.default with fallbackToSubtypes := false } numberSites () Graph.empty =
        .ok ((strict, ()), h) ∧
    falling.map (·.map (·.message)) = [[], ["Person has no mapped size"]] ∧
    strict.map (·.map (·.message)) =
      [[], ["Person has no mapped number", "Person has no mapped size"]] ∧
    List.Forall₂ List.Sublist falling strict ∧
    Checker.Completes staffModel.toModel RootEntity.analyser
      { CheckConfig.default with fallbackToSubtypes := true } numberSites () Graph.empty falling ∧
    Checker.Completes staffModel.toModel RootEntity.analyser
      { CheckConfig.default with fallbackToSubtypes := false } numberSites () Graph.empty
        strict := by
  have hfalling : Checker.messagesEach staffModel.toModel
      { CheckConfig.default with fallbackToSubtypes := true } numberSites =
      .ok [[], ["Person has no mapped size"]] := by decide +kernel
  have hstrict : Checker.messagesEach staffModel.toModel
      { CheckConfig.default with fallbackToSubtypes := false } numberSites =
      .ok [[], ["Person has no mapped number", "Person has no mapped size"]] := by decide +kernel
  obtain ⟨falling, g, strict, h, hrun, hrun', hsubs, hcompletes⟩ :=
    checkEach_fallback build_staff staff_distinct .default numberSites
  exact ⟨falling, g, strict, h, hrun, hrun', Checker.messages_of_run hfalling hrun,
    Checker.messages_of_run hstrict hrun', hsubs, hcompletes (by decide +kernel)⟩

end EntityQuery
