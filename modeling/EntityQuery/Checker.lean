import EntityQuery.Analysis.Analyser
import EntityQuery.CallSite
import EntityQuery.Diagnostic.Origin
/-!
# Checking call sites

A call site is expanded if it is a shorthand call, its text goes to the analyser, its bindings are
compared with the placeholders of that text, and every finding is moved into the enclosing source.
Sites are checked one after another on one graph. A report has the positions in the text as they
are, of any size; whether they fit is a question to it (`Report.Fits`).
-/
namespace EntityQuery

/-- Switches of a check. -/
structure CheckConfig where
  /-- Compare bindings with placeholders. -/
  checkBindings : Bool
  /-- Let paths fall back to subtypes. -/
  fallbackToSubtypes : Bool
  /-- Report shorthand calls on unknown entities. -/
  reportUnknownEntity : Bool
  deriving DecidableEq, Repr

namespace CheckConfig

/-- Everything on. -/
def default : CheckConfig := ⟨true, true, true⟩

instance : Inhabited CheckConfig := ⟨default⟩

/-- Reads the switches; one that is left out is on. -/
def reader : Json.Reader CheckConfig :=
  Json.record [
    Json.optionalField "check_bindings" Json.flag fun c v => { c with checkBindings := v },
    Json.optionalField "fallback_to_subtypes" Json.flag
      fun c v => { c with fallbackToSubtypes := v },
    Json.optionalField "report_unknown_entity" Json.flag
      fun c v => { c with reportUnknownEntity := v }]
    default

end CheckConfig

namespace Checker

/-- The text of a site to analyse, with the position of the literal in it, and what was reported on
the way. Without a text the site is skipped. -/
def finalText (types : TypeModel) (config : CheckConfig) (site : CallSite) :
    GraphM (Option Expansion × Diagnostics) :=
  match site.shorthandCall? with
  | .error _ => return (none, [])
  | .ok none => return (site.literal.map fun text => ⟨text, 0⟩, [])
  | .ok (some call) => do
    let known ←
      if config.reportUnknownEntity then do
        pure (← resolveEntity types call.entity).isSome
      else pure true
    if known then return expand call []
    else return (none, [.report .unknownEntity site.literalRange (some call.entity)])

/-- The findings on the bindings of a site, if they are asked for. -/
def bindingFindings (config : CheckConfig) (site : CallSite) (text : String) (ds : Diagnostics) :
    Diagnostics :=
  if config.checkBindings then (site.bindings.check text ds).2 else ds

variable {α σ : Type}

/-- What is said about a site: about its literal on the way to the text, and about the text that is
analysed, in which the literal starts at `offset`. -/
structure Report where
  literalStart : Nat
  early : Diagnostics
  offset : Nat
  found : Diagnostics
  deriving DecidableEq, Repr

namespace Report

/-- The findings against the enclosing source. -/
def inSource (r : Report) : Diagnostics :=
  r.early.remapped ⟨r.literalStart, 0⟩ ++ r.found.remapped ⟨r.literalStart, r.offset⟩

/-- Every range fits. A check that comes to one which does not is broken off. -/
def Fits (r : Report) : Prop := r.early.Fit ∧ r.found.Fit

instance (r : Report) : Decidable r.Fits := inferInstanceAs (Decidable (_ ∧ _))

end Report

section
variable (types : TypeModel) (analyser : Analyser σ) (config : CheckConfig)

/-- What there is to say about one site. -/
def report (site : CallSite) (state : σ) : GraphM (Report × σ) := do
  let (text, early) ← finalText types config site
  match text with
  | none => return (⟨site.literalStart, early, 0, []⟩, state)
  | some e =>
    let lookup := lookupIn types config.fallbackToSubtypes
    let (findings, state) ← analyser.analyse lookup e.text state
    let found := bindingFindings config site e.text (findings.map Finding.toDiagnostic)
    return (⟨site.literalStart, early, e.offset, found⟩, state)

/-- Checks one site. The findings are against the enclosing source. -/
def check (site : CallSite) (state : σ) : GraphM (Diagnostics × σ) := do
  let (r, state) ← report types analyser config site state
  return (r.inSource, state)

/-- Does something with every site, one after another; the outcomes are given site by site. -/
def inOrder (run : CallSite → σ → GraphM (α × σ)) : List CallSite → σ → GraphM (List α × σ)
  | [], state => return ([], state)
  | site :: sites, state => do
    let (a, state) ← run site state
    let (rest, state) ← inOrder run sites state
    return (a :: rest, state)

/-- What there is to say about sites, checked in order. -/
def reportEach : List CallSite → σ → GraphM (List Report × σ) :=
  inOrder (report types analyser config)

/-- Checks sites in order; the findings are given site by site. -/
def checkEach : List CallSite → σ → GraphM (List Diagnostics × σ) :=
  inOrder (check types analyser config)

/-- Checks sites in order; the findings of all. -/
def checkAll (sites : List CallSite) (state : σ) : GraphM (Diagnostics × σ) := do
  let (each, state) ← checkEach types analyser config sites state
  return (each.flatten, state)

end

end Checker

end EntityQuery
