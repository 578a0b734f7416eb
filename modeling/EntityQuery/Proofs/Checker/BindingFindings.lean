import Mathlib
import EntityQuery.Proofs.Checker.Literal
/-!
# Checks without bindings

Bindings are compared with the text that was analysed, after the analysis, and the comparison only
adds findings, of two kinds that come from nowhere else. Where it is switched off, these findings
are missing and nothing else is different: not the other findings, nor the graph, nor the state of
the analyser, whatever the analyser does.

Results:
* `finalText_withoutBindings`: what is reported on the way to a text is not about bindings.
* `check_withoutBindings`: one site with and without bindings.
* `checkEach_withoutBindings`: any sites, and the states in between.
-/
namespace EntityQuery

/-- The finding is about the bindings of a site. -/
def Diagnostic.isOnBindings (d : Diagnostic) : Bool :=
  d.kind == .unboundParameters || d.kind == .unusedParameters

namespace Diagnostics

/-- The findings that are not about bindings. -/
def withoutBindings (ds : Diagnostics) : Diagnostics := ds.filter (!·.isOnBindings)

@[simp] theorem withoutBindings_nil : withoutBindings [] = [] := rfl

@[simp] theorem withoutBindings_append (ds ds' : Diagnostics) :
    withoutBindings (ds ++ ds') = ds.withoutBindings ++ ds'.withoutBindings :=
  List.filter_append ds ds'

@[simp] theorem withoutBindings_remapped (ds : Diagnostics) (origin : LiteralOrigin) :
    withoutBindings (ds.remapped origin) = ds.withoutBindings.remapped origin := by
  unfold withoutBindings remapped
  rw [List.filter_map]
  rfl

theorem withoutBindings_eq_self {ds : Diagnostics} (h : ∀ d ∈ ds, d.isOnBindings = false) :
    ds.withoutBindings = ds :=
  List.filter_eq_self.mpr fun d hd => by simp [h d hd]

theorem withoutBindings_eq_nil {ds : Diagnostics} (h : ∀ d ∈ ds, d.isOnBindings = true) :
    ds.withoutBindings = [] :=
  List.filter_eq_nil_iff.mpr fun d hd => by simp [h d hd]

end Diagnostics

/-! ## Where findings come from -/

/-- An analyser cannot report on bindings. -/
@[simp] theorem withoutBindings_findings (findings : List Finding) :
    Diagnostics.withoutBindings (findings.map Finding.toDiagnostic) =
      findings.map Finding.toDiagnostic := by
  refine Diagnostics.withoutBindings_eq_self fun d hd => ?_
  obtain ⟨f, -, rfl⟩ := List.mem_map.mp hd
  rfl

theorem Refusal.isOnBindings_diagnostic {r : Refusal} {d : Diagnostic}
    (h : r.diagnostic? = some d) : d.isOnBindings = false := by
  cases r <;> cases h <;> rfl

@[simp] theorem expand_withoutBindings (call : ShorthandCall) :
    (expand call []).2.withoutBindings = (expand call []).2 := by
  refine Diagnostics.withoutBindings_eq_self fun d hd => ?_
  unfold expand at hd
  split at hd
  · cases hd
  · exact Refusal.isOnBindings_diagnostic (Option.mem_toList.mp hd)

namespace Bindings

theorem isOnBindings_unboundWarning {b : Bindings} {query : String} {d : Diagnostic}
    (h : b.unboundWarning? query = some d) : d.isOnBindings = true := by
  unfold unboundWarning? at h
  split at h <;> cases h
  rfl

theorem isOnBindings_unusedWarning {b : Bindings} {query : String} {d : Diagnostic}
    (h : b.unusedWarning? query = some d) : d.isOnBindings = true := by
  unfold unusedWarning? at h
  split at h <;> cases h <;> rfl

/-- A comparison adds findings about bindings only. -/
@[simp] theorem check_withoutBindings (b : Bindings) (query : String) (ds : Diagnostics) :
    (b.check query ds).2.withoutBindings = ds.withoutBindings := by
  have hunbound : Diagnostics.withoutBindings (b.unboundWarning? query).toList = [] :=
    Diagnostics.withoutBindings_eq_nil fun _ hd =>
      isOnBindings_unboundWarning (Option.mem_toList.mp hd)
  have hunused : Diagnostics.withoutBindings (b.unusedWarning? query).toList = [] :=
    Diagnostics.withoutBindings_eq_nil fun _ hd =>
      isOnBindings_unusedWarning (Option.mem_toList.mp hd)
  simp [check, hunbound, hunused]

end Bindings

/-! ## Two checks -/

namespace Checker

/-- The report without what it says about bindings. -/
def Report.withoutBindings (r : Report) : Report :=
  { r with early := r.early.withoutBindings, found := r.found.withoutBindings }

@[simp] theorem Report.inSource_withoutBindings (r : Report) :
    r.withoutBindings.inSource = Diagnostics.withoutBindings r.inSource := by
  simp [inSource, withoutBindings]

variable {σ : Type} (types : TypeModel) (analyser : Analyser σ) (config : CheckConfig)

/-- What is reported on the way to a text is not about bindings. -/
theorem finalText_withoutBindings (site : CallSite) :
    (fun r => (r.1, Diagnostics.withoutBindings r.2)) <$> finalText types config site =
      finalText types config site := by
  cases hs : site.shorthandCall? with
  | error err =>
    rw [finalText, hs]
    rfl
  | ok call? =>
    cases call? with
    | none =>
      rw [finalText, hs]
      rfl
    | some call =>
      rw [finalText_call hs, map_bind]
      refine bind_congr fun known => ?_
      cases known with
      | true => simp
      | false => rfl

/-- Without bindings, the report on a site is the rest, and the states are the same. -/
theorem report_withoutBindings (site : CallSite) (state : σ) :
    report types analyser { config with checkBindings := false } site state =
      (fun r => (r.1.withoutBindings, r.2)) <$>
        report types analyser { config with checkBindings := true } site state := by
  unfold report
  -- the text is the same, and early findings may be thought of as filtered
  have htext : finalText types { config with checkBindings := false } site =
      (fun r => (r.1, Diagnostics.withoutBindings r.2)) <$>
        finalText types { config with checkBindings := true } site := by
    rw [finalText_withoutBindings]
    rfl
  rw [htext, map_bind, bind_map_left]
  refine bind_congr fun (text, early) => ?_
  cases text with
  | none => simp [Report.withoutBindings]
  | some e =>
    dsimp only
    rw [map_bind]
    refine bind_congr fun (findings, after) => ?_
    simp [bindingFindings, Report.withoutBindings]

/-- Without bindings, the check of a site reports the rest, and leaves the same states. -/
theorem check_withoutBindings (site : CallSite) (state : σ) :
    check types analyser { config with checkBindings := false } site state =
      (fun r => (Diagnostics.withoutBindings r.1, r.2)) <$>
        check types analyser { config with checkBindings := true } site state := by
  unfold check
  rw [report_withoutBindings, map_bind, bind_map_left]
  exact bind_congr fun (r, after) => by simp

theorem checkEach_map_withoutBindings (sites : List CallSite) (state : σ) :
    checkEach types analyser { config with checkBindings := false } sites state =
      (fun r => (r.1.map Diagnostics.withoutBindings, r.2)) <$>
        checkEach types analyser { config with checkBindings := true } sites state := by
  unfold checkEach
  induction sites generalizing state with
  | nil => rfl
  | cons site rest ih =>
    unfold inOrder
    rw [check_withoutBindings, map_bind, bind_map_left]
    refine bind_congr fun (ds, after) => ?_
    dsimp only
    rw [ih, map_bind, bind_map_left]
    exact bind_congr fun (each, last) => by simp

/-- Sites checked without bindings: on each site the findings are those that are not about bindings,
in their order, and after every site the analyser and the graph are as they are with bindings. -/
theorem checkEach_withoutBindings (sites : List CallSite) (state : σ) (g : Graph) :
    let off : CheckConfig := { config with checkBindings := false }
    let on : CheckConfig := { config with checkBindings := true }
    checkEach types analyser off sites state g =
        (checkEach types analyser on sites state g).map
          (fun ((each, after), g') => ((each.map Diagnostics.withoutBindings, after), g')) ∧
      ∀ n, (checkEach types analyser off (sites.take n) state g).map
            (fun ((_, after), g') => (after, g')) =
          (checkEach types analyser on (sites.take n) state g).map
            (fun ((_, after), g') => (after, g')) := by
  intro off on
  have hall : ∀ sites, checkEach types analyser off sites state g =
      (checkEach types analyser on sites state g).map
        (fun ((each, after), g') => ((each.map Diagnostics.withoutBindings, after), g')) :=
    fun sites => congrFun (checkEach_map_withoutBindings types analyser config sites state) g
  refine ⟨hall sites, fun n => ?_⟩
  rw [hall (sites.take n)]
  cases checkEach types analyser on (sites.take n) state g <;> rfl

end Checker

end EntityQuery
