import Mathlib
import EntityQuery.Proofs.Analysis.SingleCondition
import EntityQuery.Proofs.Checker.Reports
import EntityQuery.Proofs.Graph.Resolution
import EntityQuery.Proofs.Shorthand.SingleName
/-!
# Calls that compare one property

A shorthand call with one property for a filter is expanded, analysed and moved back as one: nothing
is reported if the entity has the property, and otherwise one error, on the filter. What the graph
was asked before changes neither this nor the answer on the property.

Results:
* `resolveEntity_ownName`: where entity names differ, an entity's name leads back to it.
* `finalText_single`: the text of such a call.
* `check_single`: what the check reports, in every graph that checking leaves.
-/
namespace EntityQuery

/-- A shorthand call on `n`, with `p` for a filter and one value bound by position. -/
structure CallSite.Compares (site : CallSite) (n p : String) : Prop where
  verb : ∃ name v, site.verb = some name ∧ Verb.ofName name = .ok v ∧ v.isSupported = true
  entity : site.entity = some n
  literal : site.literal = some p
  bindings : site.bindings.toList = [.positional 1]
  sort : site.sort = []
  entityName : QueryWord.IsName n
  filterName : QueryWord.IsName p
  /-- Positions in the source fit. -/
  literalFits : site.literalStart + 1 + byteLength p ≤ Text.maxOffset
  /-- Positions in the expansion fit. -/
  textFits : ∀ {call : ShorthandCall} {e : Expansion}, site.shorthandCall? = .ok (some call) →
    Expansion.ofCall call = .ok e → byteLength e.text < 2 ^ 32

/-- The texts of such a call fit. -/
theorem CallSite.Compares.fits {site : CallSite} {n p : String} (h : site.Compares n p) :
    site.Fits := by
  intro text htext
  rcases CallSite.mem_texts_iff.mp htext with rfl | ⟨call, e, hcall, he, rfl⟩
  · rw [CallSite.contents, h.literal, Option.getD_some]
    exact (Nat.le_add_left _ _).trans h.literalFits
  · exact Nat.le_of_lt_succ (h.textFits hcall he)

section
variable {m : TypeModel} {g g₁ : Graph} {id : EntityId}

/-- Where entity names differ, an entity's own name stands for it, and asking changes nothing. -/
theorem resolveEntity_ownName (hg : g.Consistent m) (hnames : m.DistinctEntityNames) {e : Entity}
    (he : g.entities[id]? = some e) : resolveEntity m e.name g = .ok (some id, g) := by
  have hmem := List.mem_of_getElem? he
  obtain ⟨found, hl⟩ := hg.named e hmem
  obtain ⟨ty, hty, hfound⟩ := Graph.is_some_iff.mp (hg.is_of_lookup hnames hl)
  cases hty.symm.trans (hg.findEntityType?_name hnames hmem)
  have hid : found = id := hg.eq_of_builtTypes hfound (Graph.builtTypes_getElem? he)
  rw [resolveEntity_known hl, hid]

/-- A name that was resolved is answered at once. -/
theorem resolveEntity_again (hm : m.Accepted) (hg : g.Consistent m) {n : String}
    (h : resolveEntity m n g = .ok (some id, g₁)) :
    g₁.Consistent m ∧ resolveEntity m n g₁ = .ok (some id, g₁) ∧
      ∃ e, g₁.entities[id]? = some e := by
  obtain ⟨hg₁, -, hl, hlt⟩ := (resolveEntity_gives hm hg n).of_eq_ok h
  exact ⟨hg₁, resolveEntity_known hl, _, List.getElem?_eq_getElem (hlt id rfl)⟩

theorem entityByName_of_resolveEntity {g₀ : Graph} {n : String} {e : Entity}
    (h : resolveEntity m n g₀ = .ok (some id, g₁)) (he : g₁.entities[id]? = some e) :
    entityByName m n g₀ = .ok (some e, g₁) := by
  unfold entityByName
  rw [GraphM.bind_of_eq_ok h]
  change Except.bind (Except.bind (g₁.entity id) _) _ = _
  rw [Graph.entity, he]
  rfl

/-- A path is looked up alike by all names of an entity. -/
theorem propertyTypeByName_congr {fallback : Bool} {g₀ : Graph} {n own : String} (path : String)
    (h : resolveEntity m n g₀ = .ok (some id, g₁))
    (hown : resolveEntity m own g₁ = .ok (some id, g₁)) :
    propertyTypeByName m fallback own path g₁ = propertyTypeByName m fallback n path g₀ := by
  rw [propertyTypeByName_eq, propertyTypeByName_eq]
  unfold namedType
  rw [GraphM.bind_of_eq_ok h, GraphM.bind_of_eq_ok hown]

end

/-- The text of a call that compares a property, whether its entity was asked for before or not. -/
theorem finalText_single {types : TypeModel} (config : CheckConfig) {site : CallSite}
    {n p : String} (hsite : site.Compares n p) {g g₁ : Graph} {id : EntityId}
    (hres : resolveEntity types n g = .ok (some id, g₁))
    (hagain : resolveEntity types n g₁ = .ok (some id, g₁)) :
    ∃ (count : Bool) (g₀ : Graph),
      Checker.finalText types config site g = .ok ((some ⟨QueryWord.singleQuery count n p,
        byteLength (QueryWord.singleStart count n)⟩, []), g₀) ∧
      resolveEntity types n g₀ = .ok (some id, g₁) := by
  obtain ⟨name, v, hverb, hofName, hsupported⟩ := hsite.verb
  have hcall : site.shorthandCall? =
      .ok (some ⟨v, n, some p, site.bindings, site.sort⟩) := by
    rw [CallSite.shorthandCall?, hverb, hsite.entity, hsite.literal]
    simp only [hofName]
  have hexp := Expansion.ofCall_single ⟨v, n, some p, site.bindings, site.sort⟩
    hsite.filterName hsupported rfl hsite.bindings hsite.sort
  have hlen := hsite.textFits hcall hexp
  have hstart : byteLength (QueryWord.singleStart v.isCount n) ≤ Text.maxOffset := by
    simp only [QueryWord.singleQuery, byteLength_append] at hlen
    unfold Text.maxOffset
    omega
  dsimp only at hexp
  rw [Text.narrow_of_le hstart] at hexp
  have hexpand : expand ⟨v, n, some p, site.bindings, site.sort⟩ [] = (some
      ⟨QueryWord.singleQuery v.isCount n p, byteLength (QueryWord.singleStart v.isCount n)⟩,
      []) := by
    rw [expand, hexp]
  rw [Checker.finalText_call hcall]
  -- only where unknown entities are reported is the entity asked for here
  cases config.reportUnknownEntity with
  | true =>
    have hknown : (Option.isSome <$> resolveEntity types n : GraphM Bool) g = .ok (true, g₁) :=
      GraphM.map_of_eq_ok hres _
    refine ⟨v.isCount, g₁, ?_, hagain⟩
    simp only [if_true]
    rw [GraphM.bind_of_eq_ok hknown]
    simp only [if_true, hexpand]
    rfl
  | false =>
    refine ⟨v.isCount, g, ?_, hres⟩
    simp only [Bool.false_eq_true, if_false, pure_bind, if_true, hexpand]
    rfl

/-- A check step by step: the text, what the analyser finds in it, and the bindings. -/
theorem check_of_analyse {types : TypeModel} {config : CheckConfig} {site : CallSite}
    {g g₀ g' : Graph} {e : Expansion} {findings : List Finding}
    (htext : Checker.finalText types config site g = .ok ((some e, []), g₀))
    (hfindings : RootEntity.analyse (lookupIn types config.fallbackToSubtypes) e.text g₀ =
      .ok (findings, g'))
    (hbindings : ∀ ds, (site.bindings.check e.text ds).2 = ds) :
    Checker.check types RootEntity.analyser config site () g =
      .ok ((Diagnostics.remapped (findings.map Finding.toDiagnostic)
        ⟨site.literalStart, e.offset⟩, ()), g') := by
  have hanalyser : RootEntity.analyser.analyse (lookupIn types config.fallbackToSubtypes) e.text ()
      g₀ = .ok ((findings, ()), g') := by
    change (RootEntity.analyse _ e.text >>= fun fs => pure (fs, ()) : GraphM _) g₀ = _
    rw [GraphM.bind_of_eq_ok hfindings]
    rfl
  have hreport : Checker.report types RootEntity.analyser config site () g =
      .ok ((⟨site.literalStart, [], e.offset, findings.map Finding.toDiagnostic⟩, ()), g') := by
    unfold Checker.report
    rw [GraphM.bind_of_eq_ok htext]
    dsimp only
    rw [GraphM.bind_of_eq_ok hanalyser]
    simp only [Checker.bindingFindings, hbindings, ite_self]
    rfl
  unfold Checker.check
  rw [GraphM.bind_of_eq_ok hreport]
  rfl

/-- The place of the filter in the expansion is the place of the literal in the source. -/
theorem remap_filter {literalStart offset : Nat} {p : String}
    (hfits : literalStart + 1 + byteLength p ≤ Text.maxOffset) :
    LiteralOrigin.remap ⟨literalStart, offset⟩ (QueryWord.range ⟨p, offset, false⟩) =
      ⟨literalStart + 1, literalStart + 1 + byteLength p⟩ := by
  rw [QueryWord.range, LiteralOrigin.remap,
    remap_of_within _ (Nat.le_refl _) (Nat.le_add_right _ _) (by dsimp only; omega)]
  simp

/-- A call that compares one property, checked on any graph that checking leaves: nothing is
reported if the property has a type there, and otherwise one error on the literal. The check comes
to its end in both cases. -/
theorem check_single {ds : List Declaration} {m : Declared} (hbuild : Declared.build ds = .ok m)
    (hnames : m.toModel.DistinctEntityNames) {config : CheckConfig}
    {sites : List CallSite} {each : List Diagnostics × Unit} {g : Graph}
    (hstate : Checker.checkEach m.toModel RootEntity.analyser config sites () Graph.empty =
      .ok (each, g))
    {site : CallSite} {n p : String} (hsite : site.Compares n p)
    (hresolves : ∃ id g₁, resolveEntity m.toModel n g = .ok (some id, g₁)) :
    ∃ answer g', propertyTypeByName m.toModel config.fallbackToSubtypes n p g = .ok (answer, g') ∧
      (answer.isSome = true →
        Checker.check m.toModel RootEntity.analyser config site () g = .ok (([], ()), g') ∧
        Checker.Completes m.toModel RootEntity.analyser config [site] () g [[]]) ∧
      (answer = none → ∃ d : Diagnostic,
        Checker.check m.toModel RootEntity.analyser config site () g = .ok (([d], ()), g') ∧
        Checker.Completes m.toModel RootEntity.analyser config [site] () g [[d]] ∧
        d.kind = .invalidQuery ∧ d.severity = .error ∧
        d.range = ⟨site.literalStart + 1, site.literalStart + 1 + byteLength p⟩) := by
  have hm := Declared.build_accepted hbuild
  have hg := checkEach_consistent hm hstate
  obtain ⟨id, g₁, hres⟩ := hresolves
  obtain ⟨hg₁, hagain, e, he⟩ := resolveEntity_again hm hg hres
  obtain ⟨answer, g', hanswer, -⟩ :=
    propertyTypeByName_gives hm config.fallbackToSubtypes hg n p
  obtain ⟨count, g₀, htext, hres₀⟩ := finalText_single config hsite hres hagain
  have hpath : propertyTypeByName m.toModel config.fallbackToSubtypes e.name p g₁ =
      .ok (answer, g') := by
    rw [propertyTypeByName_congr p hres (resolveEntity_ownName hg₁ hnames he), hanswer]
  have hfindings := RootEntity.analyse_single hsite.entityName hsite.filterName count
    (lookupIn m.toModel config.fallbackToSubtypes) (entityByName_of_resolveEntity hres₀ he) hpath
  have hbindings : ∀ found,
      (site.bindings.check (QueryWord.singleQuery count n p) found).2 = found := by
    obtain ⟨k, hscan⟩ := Placeholder.scan_single hsite.entityName hsite.filterName count
    exact Bindings.check_eq_of_scan fun q => by rw [hscan, hsite.bindings]; simp
  have hcheck := check_of_analyse htext hfindings hbindings
  refine ⟨answer, g', hanswer, fun hsome => ?_, fun hnone => ?_⟩
  · rw [hsome] at hcheck
    exact ⟨hcheck, Checker.completes_site_of_fits hcheck hsite.fits⟩
  · subst hnone
    refine ⟨_, hcheck, Checker.completes_site_of_fits hcheck hsite.fits, rfl, rfl, ?_⟩
    exact remap_filter hsite.literalFits

/-- A call on all employees. -/
def employeesSite : CallSite :=
  { CallSite.blank with verb := some "list", entity := some "Employee" }

/-- Persons with one value for a property. -/
def personsBy (property : String) : CallSite where
  literal := some property
  literalStart := 10
  verb := some "find"
  entity := some "Person"
  bindings := .ofCount 1
  sort := []

theorem personsBy_compares {p : String} (hp : QueryWord.IsName p) (hshort : byteLength p < 100) :
    (personsBy p).Compares "Person" p := by
  have hperson : QueryWord.IsName "Person" :=
    ⟨⟨'P', ['e', 'r', 's', 'o', 'n'], rfl, rfl, List.all_eq_true.mp rfl⟩, by decide +kernel⟩
  refine ⟨⟨"find", .find, rfl, rfl, rfl⟩, rfl, rfl, rfl, rfl, hperson, hp, ?_, ?_⟩
  · simp only [personsBy, Text.maxOffset]
    omega
  · intro call e hcall hexp
    cases hcall
    have hthis := Expansion.ofCall_single ⟨.find, "Person", some p, .ofCount 1, []⟩ hp rfl rfl rfl
      rfl
    cases hthis.symm.trans hexp
    have hstart : byteLength (QueryWord.singleStart false "Person") = 18 := by decide +kernel
    have hbehind : byteLength " = ?1" = 5 := by decide +kernel
    dsimp only [QueryWord.singleQuery, Verb.isCount]
    rw [byteLength_append, byteLength_append]
    omega

/-- After a call on employees a person has their number, by fallback. A size has nobody. -/
theorem check_single_staff : ∃ each g g' k d,
    Checker.checkEach staffModel.toModel RootEntity.analyser .default [employeesSite] ()
      Graph.empty = .ok (each, g) ∧
    Checker.check staffModel.toModel RootEntity.analyser .default (personsBy "number") () g =
      .ok (([], ()), g') ∧
    Checker.check staffModel.toModel RootEntity.analyser .default (personsBy "size") () g =
      .ok (([d], ()), k) ∧
    Checker.Completes staffModel.toModel RootEntity.analyser .default [personsBy "size"] () g
      [[d]] ∧
    d.range = ⟨11, 15⟩ := by
  obtain ⟨each, g, hstate, hresolves, ⟨g₁, t, hnumber⟩, g₂, hsize⟩ : ∃ each g,
      Checker.checkEach staffModel.toModel RootEntity.analyser .default [employeesSite] ()
        Graph.empty = .ok (each, g) ∧
      (∃ id g₁, resolveEntity staffModel.toModel "Person" g = .ok (some id, g₁)) ∧
      (∃ g₁ t, propertyTypeByName staffModel.toModel true "Person" "number" g =
        .ok (some t, g₁)) ∧
      ∃ g₁, propertyTypeByName staffModel.toModel true "Person" "size" g = .ok (none, g₁) :=
    ⟨_, _, rfl, ⟨_, _, rfl⟩, ⟨_, _, rfl⟩, _, rfl⟩
  have hnumberName : QueryWord.IsName "number" :=
    ⟨⟨'n', ['u', 'm', 'b', 'e', 'r'], rfl, rfl, List.all_eq_true.mp rfl⟩, by decide +kernel⟩
  have hsizeName : QueryWord.IsName "size" :=
    ⟨⟨'s', ['i', 'z', 'e'], rfl, rfl, List.all_eq_true.mp rfl⟩, by decide +kernel⟩
  obtain ⟨answer, g', hanswer, hnothing, -⟩ := check_single build_staff staff_distinct hstate
    (personsBy_compares hnumberName (by decide +kernel)) hresolves
  obtain ⟨answer', k, hanswer', -, herror⟩ := check_single build_staff staff_distinct hstate
    (personsBy_compares hsizeName (by decide +kernel)) hresolves
  cases hanswer.symm.trans hnumber
  cases hanswer'.symm.trans hsize
  obtain ⟨hcheck, -⟩ := hnothing rfl
  obtain ⟨d, hcheck', hcompletes, -, -, hrange⟩ := herror rfl
  exact ⟨each, g, _, _, d, hstate, hcheck, hcheck', hcompletes, hrange⟩

end EntityQuery
