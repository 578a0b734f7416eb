import Mathlib
import EntityQuery.Proofs.Checker.Reports
import EntityQuery.Proofs.Diagnostic.MovedRanges
/-!
# Where findings point

The analyser and the comparison of bindings point into the text that was analysed, and the expansion
points into the literal. What they point at is moved into the source by an offset. Positions before
the literal are drawn to its start; positions behind it are moved along with the others, so a
finding on what an expansion has generated behind the literal points behind it in the source, too.
This is the only way out of the literal, and it leads no further than the generated text is long.

Results:
* `ofCall_length`: an expansion ends with the filter and what is generated behind it.
* `remap_report`: where the ranges of a report are moved.
* `check_ranges`: every finding of a check is in the literal, or is on text generated behind it.
-/
namespace EntityQuery

/-! ## What an expansion adds behind the filter -/

namespace Expansion

/-- The comparison behind a filter that is one name. -/
def comparison (call : ShorthandCall) : String :=
  match filterOf call, call.bindings.single? with
  | some f, some p => if isSingleIdentifier f then " = " ++ comparedWith p else ""
  | _, _ => ""

/-- The sort clause of a call, as it is added to a query. -/
def sortClause (call : ShorthandCall) : String :=
  (call.sort.orderByClause?.map (" " ++ ·)).getD ""

/-- What is generated behind the filter of a call. -/
def behind (call : ShorthandCall) : String := comparison call ++ sortClause call

/-- Behind what stands before the filter there are at most so many bytes. -/
def LeavesAtMost (e : Expansion) (length : Nat) : Prop :=
  ∃ before, e.offset = Text.narrow before ∧ byteLength e.text ≤ before + length

theorem unsorted_leaves {call : ShorthandCall} {e : Expansion} (h : unsorted call = .ok e) :
    e.LeavesAtMost (byteLength (filterText call) + byteLength (comparison call)) := by
  cases hf : filterOf call with
  | none =>
    rw [unsorted, hf] at h
    cases h
    exact ⟨_, rfl, by dsimp only; omega⟩
  | some f =>
    have hfilter : byteLength (filterText call) = byteLength f := by rw [filterText, hf]; rfl
    rw [hfilter]
    have around_leaves : ∀ start stop, byteLength stop ≤ byteLength (comparison call) →
        (around start f stop).LeavesAtMost (byteLength f + byteLength (comparison call)) := by
      intro start stop hle
      refine ⟨byteLength start, rfl, ?_⟩
      simp only [around, byteLength_append]
      omega
    by_cases hlone : IsLone f
    · rw [unsorted_of_lone hf hlone] at h
      split at h
      · rename_i p hp
        cases h
        refine around_leaves _ _ (Nat.le_of_eq ?_)
        simp only [comparison, hf, hp, isSingleIdentifier_iff.mpr hlone, if_true]
      · split at h <;> cases h
    · obtain ⟨start, -, hstart⟩ := unsorted_of_not_lone hf hlone
      rw [hstart] at h
      cases h
      exact around_leaves start "" (Nat.zero_le _)

/-- Behind the start of the filter there are the filter and what is generated behind it. -/
theorem ofCall_leaves {call : ShorthandCall} {e : Expansion} (h : ofCall call = .ok e) :
    e.LeavesAtMost (byteLength (filterText call) + byteLength (behind call)) := by
  obtain ⟨e₀, hun, hadd⟩ := ofCall_eq_ok h
  obtain ⟨before, hoffset, hlen⟩ := unsorted_leaves hun
  obtain ⟨stop, rfl, hstop⟩ := addSort_eq_ok hadd
  have hsort : sortClause call = stop := by
    rcases hstop with ⟨hnone, rfl⟩ | ⟨clause, hclause, rfl⟩
    · rw [sortClause, hnone]
      rfl
    · rw [sortClause, hclause]
      rfl
  refine ⟨before, hoffset, ?_⟩
  rw [behind, hsort, byteLength_append, byteLength_append]
  omega

/-- A range of an expansion that fits ends no further behind the start of the filter than the filter
and what is generated behind it. -/
theorem ofCall_length {call : ShorthandCall} {e : Expansion} (h : ofCall call = .ok e)
    {span : TextRange} (hspan : span.Within e.text) (hfits : span.Fits) :
    span.stop - e.offset ≤ byteLength (filterText call) + byteLength (behind call) := by
  obtain ⟨before, hoffset, hlen⟩ := ofCall_leaves h
  have hstop := hspan.stop
  rw [hoffset]
  unfold Text.narrow
  unfold TextRange.Fits at hfits
  omega

end Expansion

/-! ## Ranges of the source -/

namespace CallSite

/-- The range of the source is one of the literal's contents. -/
structure Inside (site : CallSite) (range : TextRange) : Prop where
  start : site.literalStart + 1 ≤ range.start
  order : range.start ≤ range.stop
  stop : range.stop ≤ site.literalStart + 1 + byteLength site.contents

/-- The range of the source is that of a finding on an expansion which ends behind the literal's
contents there, in text that is generated. It starts no earlier than they do, and ends no further
behind them than that text is long. -/
structure Overhangs (site : CallSite) (range : TextRange) : Prop where
  generated : ∃ call e span, site.shorthandCall? = .ok (some call) ∧
    Expansion.ofCall call = .ok e ∧ span.Within e.text ∧
    e.offset + byteLength site.contents < span.stop ∧ Expansion.behind call ≠ "" ∧
    range = LiteralOrigin.remap ⟨site.literalStart, e.offset⟩ span ∧
    range.stop ≤ site.literalStart + 1 + byteLength site.contents +
      byteLength (Expansion.behind call)
  start : site.literalStart + 1 ≤ range.start
  order : range.start ≤ range.stop

variable {site : CallSite}
  (hfits : site.literalStart + 1 + byteLength site.contents ≤ Text.maxOffset)
include hfits

/-- A range that ends with the literal's contents is moved to one of them. -/
theorem inside_remap {offset : Nat} {span : TextRange} (horder : span.start ≤ span.stop)
    (hstop : span.stop ≤ offset + byteLength site.contents) :
    site.Inside (LiteralOrigin.remap ⟨site.literalStart, offset⟩ span) := by
  rw [LiteralOrigin.remap, remap_of_order _ _ horder]
  constructor <;> dsimp only [Text.narrow] <;> omega

/-- A range of an expansion is moved to one of the literal's contents, or to one that overhangs. -/
theorem inside_or_overhangs {call : ShorthandCall} {e : Expansion}
    (hcall : site.shorthandCall? = .ok (some call)) (he : Expansion.ofCall call = .ok e)
    {span : TextRange} (hspan : span.Within e.text) (hspanFits : span.Fits) :
    site.Inside (LiteralOrigin.remap ⟨site.literalStart, e.offset⟩ span) ∨
      site.Overhangs (LiteralOrigin.remap ⟨site.literalStart, e.offset⟩ span) := by
  rcases Nat.lt_or_ge (e.offset + byteLength site.contents) span.stop with hlt | hle
  · right
    have hlen := Expansion.ofCall_length he hspan hspanFits
    have hfilter := filterText_length_le hcall
    have hne : Expansion.behind call ≠ "" := by
      intro hempty
      have hzero : byteLength (Expansion.behind call) = 0 := by rw [hempty]; rfl
      omega
    have hmoved : LiteralOrigin.remap ⟨site.literalStart, e.offset⟩ span = _ :=
      remap_of_order site.literalStart e.offset hspan.order
    have horder := hspan.order
    refine ⟨⟨call, e, span, hcall, he, hspan, hlt, hne, rfl, ?_⟩, ?_, ?_⟩ <;>
    · rw [hmoved]
      dsimp only [Text.narrow]
      omega
  · exact .inl (inside_remap hfits hspan.order hle)

end CallSite

/-! ## Every finding of a check -/

/-- What there is to say about a site is moved into its literal; but a finding on the analysed text
may overhang, where the expansion goes on behind the literal. -/
theorem remap_report {m : TypeModel} {config : CheckConfig} {site : CallSite}
    {g g' : Graph} {r : Checker.Report}
    (hrun : Checker.report m RootEntity.analyser config site () g = .ok ((r, ()), g'))
    (hr : r.Fits) (hfits : site.literalStart + 1 + byteLength site.contents ≤ Text.maxOffset) :
    ∀ d ∈ r.inSource, site.Inside d.range ∨
      d.kind ∈ [.invalidQuery, .unboundParameters, .unusedParameters] ∧
        site.Overhangs d.range := by
  obtain ⟨text, early, g₀, htext, hcases⟩ := Checker.report_eq_ok hrun
  have hearly : ∀ d ∈ Diagnostics.remapped early ⟨site.literalStart, 0⟩, site.Inside d.range := by
    intro d hd
    obtain ⟨d', hd', rfl⟩ := List.mem_map.mp hd
    have hwithin := Checker.finalText_within htext hd'
    exact CallSite.inside_remap hfits hwithin.order (hwithin.stop.trans (Nat.le_add_left _ _))
  intro d hd
  rcases hcases with ⟨-, -, rfl⟩ | ⟨e, findings, rfl, hfindings, rfl⟩
  · rcases List.mem_append.mp hd with hd | hd
    · exact .inl (hearly d hd)
    · cases hd
  · rcases List.mem_append.mp hd with hd | hd
    · exact .inl (hearly d hd)
    · obtain ⟨d', hd', rfl⟩ := List.mem_map.mp hd
      obtain ⟨hkind, hwithin⟩ := Checker.bindingFindings_onText
        (fun f hf => RootEntity.analyse_within hfindings hf) hd'
      rcases Checker.finalText_eq_ok_some htext with ⟨-, f, hf, rfl⟩ | ⟨call, hcall, he⟩
      · -- a literal that is the whole query
        refine .inl (CallSite.inside_remap hfits hwithin.order (hwithin.stop.trans ?_))
        rw [CallSite.contents, hf]
        exact Nat.le_add_left _ _
      · exact (CallSite.inside_or_overhangs hfits hcall he hwithin (hr.2 d' hd')).imp_right
          fun h => ⟨hkind, h⟩

/-- On every graph that requests lead to, a site with texts that fit is checked to the end. Where a
check comes to its end, every finding is in the literal; but one on the analysed text may overhang,
where the expansion goes on behind the literal. -/
theorem check_ranges {ds : List Declaration} {m : Declared} (hbuild : Declared.build ds = .ok m)
    (config : CheckConfig) {fallback : Bool} {g : Graph}
    (hstate : Graph.empty.LeadsTo m.toModel fallback g) {site : CallSite}
    (hfits : site.literalStart + 1 + byteLength site.contents ≤ Text.maxOffset) :
    ∃ found g', Checker.check m.toModel RootEntity.analyser config site () g =
        .ok ((found, ()), g') ∧
      (site.Fits →
        Checker.Completes m.toModel RootEntity.analyser config [site] () g [found]) ∧
      (Checker.Completes m.toModel RootEntity.analyser config [site] () g [found] →
        ∀ d ∈ found, site.Inside d.range ∨
          d.kind ∈ [.invalidQuery, .unboundParameters, .unusedParameters] ∧
            site.Overhangs d.range) := by
  have hm := Declared.build_accepted hbuild
  have hg := hstate.consistent hm (Graph.empty_consistent m.toModel)
  obtain ⟨⟨found, ⟨⟩⟩, g', hrun, -⟩ : Gives
    (Checker.check m.toModel RootEntity.analyser config site ()) g _ := check_gives hm hg site
  refine ⟨found, g', hrun, Checker.completes_site_of_fits hrun, fun hcompletes => ?_⟩
  obtain ⟨r, ⟨⟩, g'', hreport, hr, rfl⟩ := hcompletes.site
  exact remap_report hreport hr hfits

/-- A filter on the name, sorted by a column that is misspelt. -/
def misspeltSite : CallSite where
  literal := some "name"
  literalStart := 0
  verb := some "find"
  entity := some "Person"
  bindings := .ofCount 1
  sort := [.sortBy "nme" none]

/-- The misspelt column is generated behind the literal, and reported there. -/
theorem check_misspelt : ∃ found g', Checker.check staffModel.toModel RootEntity.analyser .default
      misspeltSite () Graph.empty = .ok ((found, ()), g') ∧ found.map (·.range) = [⟨20, 23⟩] := by
  have hranges : (Checker.check staffModel.toModel RootEntity.analyser .default misspeltSite ()
      Graph.empty).map (·.1.1.map (·.range)) = .ok [⟨20, 23⟩] := by decide +kernel
  obtain ⟨⟨⟨found, ⟨⟩⟩, g'⟩, hrun, hfound⟩ := Except.exists_of_map_eq_ok hranges
  exact ⟨found, g', hrun, hfound⟩

theorem check_ranges_misspelt : misspeltSite.Fits ∧
    ∃ found g', Checker.check staffModel.toModel RootEntity.analyser .default misspeltSite ()
      Graph.empty = .ok ((found, ()), g') ∧
    Checker.Completes staffModel.toModel RootEntity.analyser .default [misspeltSite] ()
      Graph.empty [found] ∧
    found.map (·.range) = [⟨20, 23⟩] ∧ ∀ d ∈ found, misspeltSite.Overhangs d.range := by
  obtain ⟨found, g', hrun, hfound⟩ := check_misspelt
  have hstart : Graph.empty.LeadsTo staffModel.toModel true Graph.empty :=
    refl_of (Graph.LeadsTo staffModel.toModel true) Graph.empty
  have htexts : misspeltSite.Fits := by decide +kernel
  have hfits : misspeltSite.literalStart + 1 + byteLength misspeltSite.contents ≤ Text.maxOffset :=
    by decide
  obtain ⟨found', g'', hrun', hends, hall⟩ := check_ranges build_staff .default hstart hfits
  cases hrun.symm.trans hrun'
  refine ⟨htexts, found, g', hrun, hends htexts, hfound, fun d hd => ?_⟩
  have hrange : d.range = ⟨20, 23⟩ := by
    have hmem := List.mem_map_of_mem (f := (·.range)) hd
    rw [hfound] at hmem
    exact List.mem_singleton.mp hmem
  rcases hall (hends htexts) d hd with hinside | ⟨-, hover⟩
  · have hstop := hinside.stop
    rw [hrange] at hstop
    exact absurd hstop (by decide)
  · exact hover

/-- Not every finding is in the literal. -/
theorem check_ranges_not_inside : ¬ ∀ (ds : List Declaration) (m : Declared) (config : CheckConfig)
    (fallback : Bool) (g g' : Graph) (site : CallSite) (found : Diagnostics),
      Declared.build ds = .ok m → Graph.empty.LeadsTo m.toModel fallback g →
      site.literalStart + 1 + byteLength site.contents ≤ Text.maxOffset →
      Checker.check m.toModel RootEntity.analyser config site () g = .ok ((found, ()), g') →
      Checker.Completes m.toModel RootEntity.analyser config [site] () g [found] →
      ∀ d ∈ found, site.Inside d.range := by
  intro h
  obtain ⟨found, g', hrun, hfound⟩ := check_misspelt
  have hall := h staff staffModel .default true Graph.empty g' misspeltSite found build_staff
    (refl_of (Graph.LeadsTo staffModel.toModel true) Graph.empty) (by decide) hrun
    (Checker.completes_site_of_fits hrun (by decide +kernel))
  have hmem : (⟨20, 23⟩ : TextRange) ∈ found.map (·.range) := by
    rw [hfound]
    exact List.mem_singleton_self _
  obtain ⟨d, hd, hrange⟩ := List.mem_map.mp hmem
  have hstop := (hall d hd).stop
  rw [hrange] at hstop
  exact absurd hstop (by decide)

end EntityQuery
