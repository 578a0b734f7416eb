import Mathlib
import EntityQuery.Proofs.Checker.Reachable
import EntityQuery.Proofs.Query.Grammar
/-!
# Reports on sites

A check first finds what there is to say about a site, on its literal and on the text that is
analysed, and then moves it into the source. What is said lies within these two texts. So where they
are short enough for their own positions to fit in 32 bits, every range of the report fits, and the
check comes to its end.

Results:
* `report_eq_ok`, `check_eq_ok`: what a check went through.
* `analyse_within`, `finalText_within`, `bindingFindings_onText`: where findings are.
* `mem_texts_iff`: the texts of a site.
* `report_fits`: the ranges of a report fit if the texts do.
* `completes_of_fits`: sites with texts that fit are checked to the end.
-/
namespace EntityQuery

/-! ## A check step by step -/

/-- The finding on a path without a type. -/
def RootEntity.missing (entity : String) (p : QueryWord × String) : Finding :=
  .error p.1.range (entity ++ " has no mapped " ++ p.2)

theorem checkPaths_cons_eq_ok {m : TypeModel} {fallback : Bool} {entity : String}
    {p : QueryWord × String} {rest : List (QueryWord × String)} {g g' : Graph}
    {findings : List Finding}
    (hrun : RootEntity.checkPaths (lookupIn m fallback) entity (p :: rest) g =
      .ok (findings, g')) :
    ∃ a g₁ later, namedType m fallback entity (Path.ofString p.2) g = .ok (a, g₁) ∧
      RootEntity.checkPaths (lookupIn m fallback) entity rest g₁ = .ok (later, g') ∧
      findings = if a.isSome then later else RootEntity.missing entity p :: later := by
  obtain ⟨a, g₁, hpath, hrun⟩ := GraphM.bind_eq_ok hrun
  obtain ⟨later, g₂, hrest, hrun⟩ := GraphM.bind_eq_ok hrun
  cases hrun
  exact ⟨a, g₁, later, hpath, hrest, rfl⟩

namespace Checker

/-- What there is to say about a text with these findings, after what was said on the way to it. -/
def reportOn (config : CheckConfig) (site : CallSite) (early : Diagnostics) (e : Expansion)
    (findings : List Finding) : Report :=
  ⟨site.literalStart, early, e.offset,
    bindingFindings config site e.text (findings.map Finding.toDiagnostic)⟩

/-- What is reported on it. -/
def reported (config : CheckConfig) (site : CallSite) (early : Diagnostics) (e : Expansion)
    (findings : List Finding) : Diagnostics := (reportOn config site early e findings).inSource

section
variable {m : TypeModel} {config : CheckConfig} {site : CallSite} {g g' : Graph}

theorem report_eq_ok {r : Report}
    (hrun : report m RootEntity.analyser config site () g = .ok ((r, ()), g')) :
    ∃ text early g₀, finalText m config site g = .ok ((text, early), g₀) ∧
      ((text = none ∧ g' = g₀ ∧ r = ⟨site.literalStart, early, 0, []⟩) ∨
        ∃ e findings, text = some e ∧
          RootEntity.analyse (lookupIn m config.fallbackToSubtypes) e.text g₀ =
            .ok (findings, g') ∧
          r = reportOn config site early e findings) := by
  obtain ⟨⟨text, early⟩, g₀, htext, hrun⟩ := GraphM.bind_eq_ok hrun
  refine ⟨text, early, g₀, htext, ?_⟩
  cases text with
  | none =>
    cases hrun
    exact .inl ⟨rfl, rfl, rfl⟩
  | some e =>
    obtain ⟨⟨findings, state⟩, g₁, hanalyser, hend⟩ := GraphM.bind_eq_ok hrun
    obtain ⟨fs, g₂, hfindings, hpair⟩ := GraphM.bind_eq_ok hanalyser
    cases hpair
    cases hend
    exact .inr ⟨e, findings, rfl, hfindings, rfl⟩

theorem check_eq_ok {ds : Diagnostics}
    (hrun : check m RootEntity.analyser config site () g = .ok ((ds, ()), g')) :
    ∃ r g₀, finalText m config site g = .ok (r, g₀) ∧
      ((r.1 = none ∧ ds = Diagnostics.remapped r.2 ⟨site.literalStart, 0⟩) ∨
        ∃ e findings, r.1 = some e ∧
          RootEntity.analyse (lookupIn m config.fallbackToSubtypes) e.text g₀ =
            .ok (findings, g') ∧
          ds = reported config site r.2 e findings) := by
  obtain ⟨⟨r, ⟨⟩⟩, g₁, hreport, hend⟩ := GraphM.bind_eq_ok hrun
  cases hend
  obtain ⟨text, early, g₀, htext, ⟨rfl, -, rfl⟩ | ⟨e, findings, rfl, hfindings, rfl⟩⟩ :=
    report_eq_ok hreport
  · exact ⟨_, g₀, htext, .inl ⟨rfl, List.append_nil _⟩⟩
  · exact ⟨_, g₀, htext, .inr ⟨e, findings, rfl, hfindings, rfl⟩⟩

end

/-- Bindings are compared with the text alone: their findings come after the others. -/
theorem mem_bindingFindings {config : CheckConfig} {site : CallSite} {text : String}
    {ds : Diagnostics} {d : Diagnostic} :
    d ∈ bindingFindings config site text ds ↔
      d ∈ ds ∨ d ∈ bindingFindings config site text [] := by
  unfold bindingFindings Bindings.check
  cases config.checkBindings <;> simp

/-- A report does not depend on the findings, or it is the report of one of them. -/
theorem mem_reported {config : CheckConfig} {site : CallSite} {early : Diagnostics}
    {e : Expansion} {findings : List Finding} {d : Diagnostic}
    (hd : d ∈ reported config site early e findings) :
    (∀ others, d ∈ reported config site early e others) ∨ ∃ x ∈ findings,
      (∀ others, x ∈ others → d ∈ reported config site early e others) ∧
      d.kind = .invalidQuery ∧
      d.range = LiteralOrigin.remap ⟨site.literalStart, e.offset⟩ x.range := by
  rcases List.mem_append.mp hd with hd | hd
  · exact .inl fun others => List.mem_append_left _ hd
  · obtain ⟨found, hfound, rfl⟩ := List.mem_map.mp hd
    rcases mem_bindingFindings.mp hfound with hfound | hfound
    · obtain ⟨x, hx, rfl⟩ := List.mem_map.mp hfound
      refine .inr ⟨x, hx, fun others hmem => List.mem_append_right _ ?_, rfl, rfl⟩
      exact List.mem_map_of_mem (mem_bindingFindings.mpr (.inl (List.mem_map_of_mem hmem)))
    · refine .inl fun others => List.mem_append_right _ ?_
      exact List.mem_map_of_mem (mem_bindingFindings.mpr (.inr hfound))

end Checker

/-! ## Ranges of a text -/

/-- The range is one of the text. -/
structure TextRange.Within (range : TextRange) (text : String) : Prop where
  order : range.start ≤ range.stop
  stop : range.stop ≤ byteLength text

namespace TextRange

theorem whole_within (text : String) : (whole text).Within text :=
  ⟨Nat.zero_le _, Nat.le_refl _⟩

theorem upTo_within (text : String) : (upTo text).Within text :=
  ⟨Nat.zero_le _, Nat.min_le_left _ _⟩

/-- Ranges of a text fit if its length does. -/
theorem Within.fits {range : TextRange} {text : String} (h : range.Within text)
    (hfits : byteLength text ≤ Text.maxOffset) : range.Fits :=
  h.stop.trans hfits

end TextRange

namespace QueryWord

/-- A word ends no later than the text it was read from. By induction on the text: the reader stands
at `pos`, in whatever mode. -/
theorem wordsFrom_bounds {mode : Mode} {pos : Nat} {cs : List Char} {w : QueryWord}
    (hw : w ∈ wordsFrom mode pos cs) : w.start + byteLength w.text ≤ pos + Text.byteLength cs := by
  induction cs generalizing mode pos with
  | nil => cases hw
  | cons c rest ih =>
    rw [Text.byteLength_cons, ← Nat.add_assoc]
    unfold wordsFrom at hw
    dsimp only at hw
    split at hw
    · split at hw <;> exact ih hw
    split at hw
    · exact ih hw
    split at hw
    · exact ih hw
    split at hw
    · exact ih hw
    split at hw
    · rcases List.mem_cons.mp hw with rfl | hw
      · have hle := Text.byteLength_takeWhile_le Text.isWordChar rest
        simp only [wordAt, byteLength, String.toList_ofList, Text.byteLength_cons]
        omega
      · exact ih hw
    · exact ih hw

theorem words_within {query : String} {w : QueryWord} (hw : w ∈ wordsOf query) :
    w.range.Within query := by
  have hbounds := wordsFrom_bounds hw
  rw [Nat.zero_add] at hbounds
  exact ⟨Nat.le_add_right _ _, hbounds⟩

end QueryWord

namespace Placeholder

theorem scan_within {query : String} {p : Placeholder × TextRange} (hp : p ∈ scan query) :
    p.2.Within query := by
  obtain ⟨pos, length, hrange, -, hstop⟩ := scanFrom_between hp
  rw [Nat.zero_add] at hstop
  rw [hrange]
  refine ⟨?_, (Nat.min_le_left _ _).trans hstop⟩
  simp only [rangeAt, Text.narrow]
  omega

end Placeholder

/-! ## Findings on a text -/

theorem Bindings.unbound_within {b : Bindings} {query : String} {d : Diagnostic}
    (h : b.unboundWarning? query = some d) :
    d.kind = .unboundParameters ∧ d.range.Within query := by
  unfold unboundWarning? at h
  split at h
  · cases h
  · rename_i p range rest hlist
    cases h
    have hmem : (p, range) ∈ b.unbound query := by
      rw [hlist]
      exact List.mem_cons_self
    exact ⟨rfl, Placeholder.scan_within (List.mem_filter.mp hmem).1⟩

theorem Bindings.unused_within {b : Bindings} {query : String} {d : Diagnostic}
    (h : b.unusedWarning? query = some d) :
    d.kind = .unusedParameters ∧ d.range.Within query := by
  unfold unusedWarning? at h
  split at h <;> cases h <;> exact ⟨rfl, TextRange.upTo_within query⟩

/-- What an analysis and the comparison of bindings report is within the text. -/
def Diagnostic.OnText (d : Diagnostic) (text : String) : Prop :=
  d.kind ∈ [.invalidQuery, .unboundParameters, .unusedParameters] ∧ d.range.Within text

theorem Checker.bindingFindings_onText {config : CheckConfig} {site : CallSite} {text : String}
    {findings : List Finding} (hfindings : ∀ f ∈ findings, f.range.Within text) {d : Diagnostic}
    (hd : d ∈ bindingFindings config site text (findings.map Finding.toDiagnostic)) :
    d.OnText text := by
  rcases mem_bindingFindings.mp hd with hd | hd
  · obtain ⟨f, hf, rfl⟩ := List.mem_map.mp hd
    exact ⟨by simp [Finding.toDiagnostic, Diagnostic.report], hfindings f hf⟩
  · unfold bindingFindings Bindings.check at hd
    split at hd
    · rcases List.mem_append.mp hd with hd | hd
      · obtain ⟨hkind, hrange⟩ := Bindings.unbound_within (Option.mem_toList.mp hd)
        exact ⟨by simp [hkind], hrange⟩
      · obtain ⟨hkind, hrange⟩ := Bindings.unused_within (Option.mem_toList.mp hd)
        exact ⟨by simp [hkind], hrange⟩
    · cases hd

namespace RootEntity

/-- Every finding on paths is about one of them. -/
theorem checkPaths_missing {m : TypeModel} {fallback : Bool} {entity : String}
    {paths : List (QueryWord × String)} {g g' : Graph} {findings : List Finding}
    (hrun : checkPaths (lookupIn m fallback) entity paths g = .ok (findings, g')) {f : Finding}
    (hf : f ∈ findings) : ∃ p ∈ paths, f = missing entity p := by
  induction paths generalizing g findings with
  | nil =>
    cases hrun
    cases hf
  | cons p rest ih =>
    obtain ⟨a, g₁, later, -, hrest, rfl⟩ := checkPaths_cons_eq_ok hrun
    have hlater : f ∈ later → ∃ q ∈ p :: rest, f = missing entity q := by
      intro hf
      obtain ⟨q, hq, hmissing⟩ := ih hrest hf
      exact ⟨q, List.mem_cons_of_mem p hq, hmissing⟩
    split at hf
    · exact hlater hf
    · rcases List.mem_cons.mp hf with rfl | hf
      · exact ⟨p, List.mem_cons_self, rfl⟩
      · exact hlater hf

theorem entity_mem_of_rootOf {words : List QueryWord} {root : Root} (h : rootOf words = .ok root) :
    root.entity ∈ words := by
  unfold rootOf at h
  split at h
  · cases h
  · split at h
    · cases h
    · rename_i entity hentity
      cases h
      exact List.mem_of_getElem? hentity

theorem mem_of_mem_candidates {root : Root} {words : List QueryWord} {w : QueryWord}
    (h : w ∈ root.candidates words) : w ∈ words := by
  obtain ⟨⟨w', i⟩, hmem, rfl⟩ := List.mem_map.mp h
  exact (List.mem_zipIdx' (List.mem_filter.mp hmem).1).2 ▸ List.getElem_mem _

theorem analyse_within {m : TypeModel} {fallback : Bool} {query : String} {g g' : Graph}
    {findings : List Finding} (hrun : analyse (lookupIn m fallback) query g = .ok (findings, g'))
    {f : Finding} (hf : f ∈ findings) : f.range.Within query := by
  unfold analyse at hrun
  cases hroot : rootOf (QueryWord.wordsOf query) with
  | error reason =>
    rw [hroot] at hrun
    cases reason with
    | missingFrom =>
      cases hrun
      cases List.mem_singleton.mp hf
      exact TextRange.whole_within query
    | missingEntity =>
      cases hrun
      cases List.mem_singleton.mp hf
      exact ⟨Nat.le_refl _, Nat.le_refl _⟩
  | ok root =>
    rw [hroot] at hrun
    obtain ⟨e?, g₁, -, hrun⟩ := GraphM.bind_eq_ok hrun
    cases e? with
    | none =>
      cases hrun
      cases List.mem_singleton.mp hf
      exact QueryWord.words_within (entity_mem_of_rootOf hroot)
    | some e =>
      dsimp only at hrun
      split at hrun
      · cases hrun
        cases hf
      · obtain ⟨p, hp, rfl⟩ := checkPaths_missing hrun hf
        obtain ⟨w, hw, hword⟩ := List.mem_filterMap.mp hp
        obtain ⟨path, -, rfl⟩ := Option.map_eq_some_iff.mp hword
        exact QueryWord.words_within (mem_of_mem_candidates hw)

end RootEntity

/-! ## Findings on the literal -/

namespace Expansion

/-- The filter of a call, empty if it is blank or missing. -/
def filterText (call : ShorthandCall) : String := (filterOf call).getD ""

theorem unsorted_refused {call : ShorthandCall} {r : Refusal} (h : unsorted call = .error r) :
    ∃ f, filterOf call = some f ∧ (r = .missingParameter f ∨ r = .tooManyParameters f) := by
  cases hf : filterOf call with
  | none =>
    rw [unsorted, hf] at h
    cases h
  | some f =>
    refine ⟨f, rfl, ?_⟩
    by_cases hlone : IsLone f
    · rw [unsorted_of_lone hf hlone] at h
      split at h
      · cases h
      split at h
      · cases h
        exact .inl rfl
      · cases h
        exact .inr rfl
    · obtain ⟨start, -, hstart⟩ := unsorted_of_not_lone hf hlone
      rw [hstart] at h
      cases h

/-- A refusal is reported on the filter. -/
theorem range_of_refusal {call : ShorthandCall} {r : Refusal} (h : ofCall call = .error r)
    {d : Diagnostic} (hd : r.diagnostic? = some d) : d.range = .whole (filterText call) := by
  unfold ofCall at h
  split at h
  · cases h
    cases hd
  split at h
  · cases h
    cases hd
  split at h
  · rename_i hun
    cases h
    obtain ⟨f, hf, rfl | rfl⟩ := unsorted_refused hun <;>
    · cases hd
      rw [filterText, hf]
      rfl
  · unfold addSort at h
    split at h
    · cases h
    split at h
    · cases h
      cases hd
      rw [filterText]
      cases filterOf call <;> rfl
    · cases h

end Expansion

namespace CallSite

/-- The contents of the literal, empty if there is none. -/
def contents (site : CallSite) : String := site.literal.getD ""

theorem literalRange_eq (site : CallSite) : site.literalRange = .whole site.contents := by
  unfold literalRange contents
  cases site.literal <;> rfl

/-- The filter of a call is the contents of the literal, unless they are blank. -/
theorem filterOf_eq_some {site : CallSite} {call : ShorthandCall} {f : String}
    (hcall : site.shorthandCall? = .ok (some call)) (hf : Expansion.filterOf call = some f) :
    f = site.contents := by
  obtain ⟨hfilter, -⟩ := Option.filter_eq_some_iff.mp hf
  rw [Checker.filter_of_shorthandCall? hcall] at hfilter
  rw [contents, hfilter]
  rfl

theorem filterText_length_le {site : CallSite} {call : ShorthandCall}
    (hcall : site.shorthandCall? = .ok (some call)) :
    byteLength (Expansion.filterText call) ≤ byteLength site.contents := by
  unfold Expansion.filterText
  cases hf : Expansion.filterOf call with
  | none => exact Nat.zero_le _
  | some f => exact Nat.le_of_eq (congrArg byteLength (filterOf_eq_some hcall hf))

end CallSite

namespace Checker

/-- What is reported on the way to a text is about the literal. -/
theorem finalText_within {types : TypeModel} {config : CheckConfig} {site : CallSite}
    {r : Option Expansion × Diagnostics} {g g' : Graph}
    (hrun : finalText types config site g = .ok (r, g')) {d : Diagnostic} (hd : d ∈ r.2) :
    d.range.Within site.contents := by
  cases hs : site.shorthandCall? with
  | error err =>
    rw [finalText, hs] at hrun
    cases hrun
    cases hd
  | ok call? =>
    cases call? with
    | none =>
      rw [finalText, hs] at hrun
      cases hrun
      cases hd
    | some call =>
      rw [finalText_call hs] at hrun
      obtain ⟨known, g₁, -, hrun⟩ := GraphM.bind_eq_ok hrun
      cases hrun
      cases known with
      | false =>
        cases List.mem_singleton.mp hd
        exact site.literalRange_eq ▸ TextRange.whole_within _
      | true =>
        simp only [if_true, expand] at hd
        split at hd
        · cases hd
        · rename_i refusal hrefusal
          rw [Expansion.range_of_refusal hrefusal (Option.mem_toList.mp hd)]
          have hle := CallSite.filterText_length_le hs
          exact ⟨Nat.zero_le _, hle⟩

end Checker

/-! ## Checks that come to their end -/

namespace CallSite

/-- The texts that findings on a site point into: the contents of its literal, and the expansion of
its call. -/
def texts (site : CallSite) : List String :=
  site.contents ::
    match site.shorthandCall? with
    | .ok (some call) => ((Expansion.ofCall call).toOption.map (·.text)).toList
    | _ => []

/-- The texts are short enough for every position in them to fit. -/
def Fits (site : CallSite) : Prop := ∀ text ∈ site.texts, byteLength text ≤ Text.maxOffset

instance (site : CallSite) : Decidable site.Fits :=
  inferInstanceAs (Decidable (∀ text ∈ site.texts, byteLength text ≤ Text.maxOffset))

theorem mem_texts_iff {site : CallSite} {text : String} : text ∈ site.texts ↔
    text = site.contents ∨ ∃ call e, site.shorthandCall? = .ok (some call) ∧
      Expansion.ofCall call = .ok e ∧ text = e.text := by
  unfold texts
  rw [List.mem_cons]
  refine or_congr_right ⟨fun h => ?_, ?_⟩
  · split at h
    · rename_i call hcall
      obtain ⟨e, he, rfl⟩ := Option.map_eq_some_iff.mp (Option.mem_toList.mp h)
      refine ⟨call, e, hcall, ?_, rfl⟩
      cases hexp : Expansion.ofCall call <;> rw [hexp] at he <;> cases he
      rfl
    · cases h
  · rintro ⟨call, e, hcall, he, rfl⟩
    rw [hcall]
    simp [he, Except.toOption]

/-- The text that is analysed is one of them. -/
theorem text_mem_texts {types : TypeModel} {config : CheckConfig} {site : CallSite} {g g' : Graph}
    {e : Expansion} {ds : Diagnostics}
    (h : Checker.finalText types config site g = .ok ((some e, ds), g')) :
    e.text ∈ site.texts := by
  refine mem_texts_iff.mpr ?_
  rcases Checker.finalText_eq_ok_some h with ⟨-, f, hf, rfl⟩ | ⟨call, hcall, he⟩
  · exact .inl (by rw [contents, hf, Option.getD_some])
  · exact .inr ⟨call, e, hcall, he, rfl⟩

end CallSite

namespace Checker

/-- Reports on sites in order, moved into the source, are what checking the sites gives. -/
theorem checkEach_eq_map {σ : Type} (types : TypeModel) (analyser : Analyser σ)
    (config : CheckConfig) (sites : List CallSite) (state : σ) :
    checkEach types analyser config sites state =
      (fun r => (r.1.map Report.inSource, r.2)) <$>
        reportEach types analyser config sites state := by
  unfold checkEach reportEach
  induction sites generalizing state with
  | nil => rfl
  | cons site rest ih => simp [inOrder, check, ih]

/-- The sites are checked to the end: there is a report on each of them, every range in it fits, and
moved into the source the reports are these findings. -/
def Completes {σ : Type} (types : TypeModel) (analyser : Analyser σ) (config : CheckConfig)
    (sites : List CallSite) (state : σ) (g : Graph) (each : List Diagnostics) : Prop :=
  ∃ reports after g', reportEach types analyser config sites state g = .ok ((reports, after), g') ∧
    (∀ r ∈ reports, r.Fits) ∧ reports.map Report.inSource = each

/-- A site that is checked to the end has a report with these findings. -/
theorem Completes.site {σ : Type} {types : TypeModel} {analyser : Analyser σ}
    {config : CheckConfig} {site : CallSite} {state : σ} {g : Graph} {found : Diagnostics}
    (h : Completes types analyser config [site] state g [found]) :
    ∃ r after g', report types analyser config site state g = .ok ((r, after), g') ∧ r.Fits ∧
      r.inSource = found := by
  obtain ⟨reports, after, g', hrun, hfits, hfound⟩ := h
  obtain ⟨⟨r, after'⟩, g₁, hreport, hrest⟩ := GraphM.bind_eq_ok hrun
  cases hrest
  exact ⟨r, after, g', hreport, hfits r List.mem_cons_self, (List.cons.inj hfound).1⟩

section
variable {m : TypeModel} {config : CheckConfig} {g g' : Graph}

/-- Where the texts of a site fit, so do the ranges of the report on it. -/
theorem report_fits {site : CallSite} {r : Report}
    (hrun : report m RootEntity.analyser config site () g = .ok ((r, ()), g'))
    (hfits : site.Fits) : r.Fits := by
  obtain ⟨text, early, g₀, htext, hcases⟩ := report_eq_ok hrun
  -- what is said before there is a text is about the literal, and the rest about the text
  have hearly : Diagnostics.Fit early := fun d hd =>
    (finalText_within htext hd).fits (hfits _ List.mem_cons_self)
  rcases hcases with ⟨-, -, rfl⟩ | ⟨e, findings, rfl, hfindings, rfl⟩
  · exact ⟨hearly, fun d hd => absurd hd List.not_mem_nil⟩
  · refine ⟨hearly, fun d hd => ?_⟩
    obtain ⟨-, hwithin⟩ :=
      bindingFindings_onText (fun f hf => RootEntity.analyse_within hfindings hf) hd
    exact hwithin.fits (hfits _ (CallSite.text_mem_texts htext))

theorem reportEach_fits {sites : List CallSite} {reports : List Report}
    (hrun : reportEach m RootEntity.analyser config sites () g = .ok ((reports, ()), g'))
    (hfits : ∀ site ∈ sites, site.Fits) : ∀ r ∈ reports, r.Fits := by
  induction sites generalizing g reports with
  | nil =>
    cases hrun
    exact List.forall_mem_nil _
  | cons site rest ih =>
    obtain ⟨⟨first, ⟨⟩⟩, g₁, hfirst, hrun⟩ := GraphM.bind_eq_ok hrun
    obtain ⟨⟨later, ⟨⟩⟩, g₂, hlater, hend⟩ := GraphM.bind_eq_ok hrun
    cases hend
    obtain ⟨hsite, hrest⟩ := List.forall_mem_cons.mp hfits
    exact List.forall_mem_cons.mpr ⟨report_fits hfirst hsite, ih hlater hrest⟩

/-- Sites with texts that fit are checked to the end. -/
theorem completes_of_fits {sites : List CallSite} {each : List Diagnostics}
    (hrun : checkEach m RootEntity.analyser config sites () g = .ok ((each, ()), g'))
    (hfits : ∀ site ∈ sites, site.Fits) :
    Completes m RootEntity.analyser config sites () g each := by
  rw [checkEach_eq_map] at hrun
  obtain ⟨⟨⟨reports, ⟨⟩⟩, k⟩, hreports, heq⟩ := Except.exists_of_map_eq_ok hrun
  cases heq
  exact ⟨reports, (), k, hreports, reportEach_fits hreports hfits, rfl⟩

theorem completes_site_of_fits {site : CallSite} {found : Diagnostics}
    (hrun : check m RootEntity.analyser config site () g = .ok ((found, ()), g'))
    (hfits : site.Fits) : Completes m RootEntity.analyser config [site] () g [found] := by
  have hsites : checkEach m RootEntity.analyser config [site] () g = .ok (([found], ()), g') := by
    rw [checkEach, inOrder, GraphM.bind_of_eq_ok hrun]
    rfl
  exact completes_of_fits hsites (List.forall_mem_singleton.mpr hfits)

end

end Checker

end EntityQuery
