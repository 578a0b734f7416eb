import Mathlib
import EntityQuery.Checker
import EntityQuery.Analysis.RootEntity
import EntityQuery.Proofs.Checker.Literal
import EntityQuery.Proofs.Graph.Growth
/-!
# Graphs that checking leaves

The checker and the root-entity analyser reach the graph through lookups only, by names. Whatever
sites are checked, every check succeeds and leaves a consistent graph, and a history of requests
leads to it.

Results:
* `check_gives`, `checkEach_gives`: checking one site, and a list of them.
* `checkEach_consistent`: the graph after any sites.
* `check_leadsTo`, `checkEach_leadsTo`: a check is a history of requests.
-/
namespace EntityQuery

section
variable {m : TypeModel} (hm : m.Accepted) (fallback : Bool) {config : CheckConfig} {g : Graph}
  (hg : g.Consistent m)
include hm hg

theorem checkPaths_gives (entity : String) (paths : List (QueryWord × String)) :
    Gives (RootEntity.checkPaths (lookupIn m fallback) entity paths) g
      fun _ g' => g'.Consistent m := by
  induction paths generalizing g with
  | nil => exact Gives.pure hg
  | cons p rest ih =>
    unfold RootEntity.checkPaths
    refine Gives.bind (propertyTypeByName_gives hm fallback hg entity p.2)
      fun answer g₁ ⟨hg₁, _⟩ => ?_
    exact Gives.bind (ih hg₁) fun findings g₂ hg₂ => Gives.pure hg₂

theorem analyse_gives (query : String) :
    Gives (RootEntity.analyse (lookupIn m fallback) query) g fun _ g' => g'.Consistent m := by
  unfold RootEntity.analyse
  dsimp only
  split
  · exact Gives.pure hg
  · exact Gives.pure hg
  · rename_i root _
    unfold RootEntity.analyseRoot
    refine Gives.bind (entityByName_gives hm hg root.entity.text) fun e? g₁ ⟨hg₁, _⟩ => ?_
    cases e? with
    | none => exact Gives.pure hg₁
    | some e =>
      dsimp only
      split
      · exact Gives.pure hg₁
      · exact checkPaths_gives hm fallback hg₁ e.name _

theorem finalText_gives (site : CallSite) :
    Gives (Checker.finalText m config site) g fun _ g' => g'.Consistent m := by
  cases hs : site.shorthandCall? with
  | error err =>
    rw [Checker.finalText, hs]
    exact Gives.pure hg
  | ok call? =>
    cases call? with
    | none =>
      rw [Checker.finalText, hs]
      exact Gives.pure hg
    | some call =>
      rw [Checker.finalText_call hs]
      cases config.reportUnknownEntity with
      | false => exact Gives.pure hg
      | true =>
        exact Gives.bind (Q := fun _ g' => g'.Consistent m)
          (Gives.map ((resolveEntity_gives hm hg call.entity).mono fun _ _ h => h.1))
          fun _ _ h => Gives.pure h

theorem report_gives (site : CallSite) :
    Gives (Checker.report m RootEntity.analyser config site ()) g fun _ g' => g'.Consistent m := by
  unfold Checker.report
  refine Gives.bind (finalText_gives hm hg site) fun (text, early) g₁ hg₁ => ?_
  cases text with
  | none => exact Gives.pure hg₁
  | some e =>
    refine Gives.bind (Q := fun _ g' => g'.Consistent m) ?_ fun _ g₂ hg₂ => Gives.pure hg₂
    exact Gives.bind (analyse_gives hm _ hg₁ e.text) fun _ g₂ hg₂ => Gives.pure hg₂

theorem check_gives (site : CallSite) :
    Gives (Checker.check m RootEntity.analyser config site ()) g fun _ g' => g'.Consistent m :=
  Gives.bind (report_gives hm hg site) fun _ _ hg₁ => Gives.pure hg₁

theorem checkEach_gives (sites : List CallSite) :
    Gives (Checker.checkEach m RootEntity.analyser config sites ()) g
      fun _ g' => g'.Consistent m := by
  induction sites generalizing g with
  | nil => exact Gives.pure hg
  | cons site rest ih =>
    unfold Checker.checkEach Checker.inOrder
    refine Gives.bind (check_gives hm hg site) fun (ds, _) g₁ hg₁ => ?_
    exact Gives.bind (ih hg₁) fun _ g₂ hg₂ => Gives.pure hg₂

end

/-- Whatever sites were checked, the graph is consistent. -/
theorem checkEach_consistent {m : TypeModel} (hm : m.Accepted) {config : CheckConfig}
    {sites : List CallSite} {each : List Diagnostics × Unit} {g : Graph}
    (h : Checker.checkEach m RootEntity.analyser config sites () Graph.empty = .ok (each, g)) :
    g.Consistent m :=
  (checkEach_gives hm (Graph.empty_consistent m) sites).of_eq_ok h

/-! ## A check is a history -/

section
variable (m : TypeModel) (fallback : Bool)

theorem resolveEntity_leadsTo (name : String) :
    Moves (Graph.LeadsTo m fallback) (resolveEntity m name) := by
  intro g g' answer h
  exact .of_run (q := .entity name) (GraphM.map_of_eq_ok h _)

theorem entityByName_leadsTo (name : String) :
    Moves (Graph.LeadsTo m fallback) (entityByName m name) := by
  refine Moves.bind (resolveEntity_leadsTo m fallback name) fun id? => ?_
  cases id? with
  | none => exact Moves.pure none
  | some id => exact Moves.get_bind fun g => Moves.lift_bind fun e => Moves.pure _

theorem propertyTypeByName_leadsTo (entity path : String) :
    Moves (Graph.LeadsTo m fallback) (propertyTypeByName m fallback entity path) := by
  refine Moves.bind (resolveEntity_leadsTo m fallback entity) fun id? => ?_
  cases id? with
  | none => exact Moves.pure none
  | some id =>
    intro g g' a h
    exact .of_run (q := .propertyType id path) (GraphM.map_of_eq_ok h _)

theorem checkPaths_leadsTo (entity : String) (paths : List (QueryWord × String)) :
    Moves (Graph.LeadsTo m fallback)
      (RootEntity.checkPaths (lookupIn m fallback) entity paths) := by
  induction paths with
  | nil => exact Moves.pure []
  | cons p rest ih =>
    refine Moves.bind (propertyTypeByName_leadsTo m fallback entity p.2) fun answer => ?_
    exact Moves.bind ih fun findings => Moves.pure _

theorem analyse_leadsTo (query : String) :
    Moves (Graph.LeadsTo m fallback) (RootEntity.analyse (lookupIn m fallback) query) := by
  unfold RootEntity.analyse
  dsimp only
  split
  · exact Moves.pure _
  · exact Moves.pure _
  · rename_i root _
    refine Moves.bind (entityByName_leadsTo m fallback root.entity.text) fun e? => ?_
    cases e? with
    | none => exact Moves.pure _
    | some e =>
      dsimp only
      split
      · exact Moves.pure _
      · exact checkPaths_leadsTo m fallback e.name _

theorem finalText_leadsTo (config : CheckConfig) (site : CallSite) :
    Moves (Graph.LeadsTo m fallback) (Checker.finalText m config site) := by
  cases hs : site.shorthandCall? with
  | error err =>
    rw [Checker.finalText, hs]
    exact Moves.pure _
  | ok call? =>
    cases call? with
    | none =>
      rw [Checker.finalText, hs]
      exact Moves.pure _
    | some call =>
      rw [Checker.finalText_call hs]
      refine Moves.bind ?_ fun known => Moves.pure _
      split
      · exact (resolveEntity_leadsTo m fallback call.entity).map _
      · exact Moves.pure _

theorem check_leadsTo (config : CheckConfig) (site : CallSite) :
    Moves (Graph.LeadsTo m config.fallbackToSubtypes)
      (Checker.check m RootEntity.analyser config site ()) := by
  refine Moves.bind (Moves.bind (finalText_leadsTo m _ config site) fun (text, early) => ?_)
    fun _ => Moves.pure _
  cases text with
  | none => exact Moves.pure _
  | some e =>
    refine Moves.bind ?_ fun _ => Moves.pure _
    exact Moves.bind (analyse_leadsTo m config.fallbackToSubtypes e.text) fun _ => Moves.pure _

theorem checkEach_leadsTo (config : CheckConfig) (sites : List CallSite) :
    Moves (Graph.LeadsTo m config.fallbackToSubtypes)
      (Checker.checkEach m RootEntity.analyser config sites ()) := by
  induction sites with
  | nil => exact Moves.pure _
  | cons site rest ih =>
    refine Moves.bind (check_leadsTo m config site) fun (ds, _) => ?_
    exact Moves.bind ih fun _ => Moves.pure _

end

end EntityQuery
