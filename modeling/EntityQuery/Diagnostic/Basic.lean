import EntityQuery.Text.Offset
/-!
# Diagnostics

A finding against a query text or its enclosing source. Its kind decides the wording around the
reporter's detail, the severity unless the reporter says otherwise, and whether it means that a
shorthand call could not be expanded.
-/
namespace EntityQuery

inductive Severity where
  | error
  | warning
  deriving DecidableEq, Repr, Inhabited

namespace Severity

def text : Severity → String
  | .error => "error"
  | .warning => "warning"

end Severity

/-- What went wrong. -/
inductive DiagnosticKind where
  /-- The analyser cannot read the query. -/
  | malformedQuery
  /-- The analyser finds the query wrong. -/
  | invalidQuery
  | unknownEntity
  | unknownProperty
  | unknownCollection
  | missingParameter
  | tooManyParameters
  | sortAlreadySpecified
  | unboundParameters
  | unusedParameters
  deriving DecidableEq, Repr, Inhabited

namespace DiagnosticKind

/-- Whether a shorthand call with this finding has no expansion. -/
def abortsExpansion : DiagnosticKind → Bool
  | .missingParameter | .tooManyParameters | .sortAlreadySpecified => true
  | _ => false

/-- Findings on expansion and on bindings warn, all others are errors. -/
def defaultSeverity (k : DiagnosticKind) : Severity :=
  if k.abortsExpansion || k == .unboundParameters || k == .unusedParameters then .warning
  else .error

/-- The message without a detail. -/
def fallbackMessage : DiagnosticKind → String
  | .malformedQuery => "syntax error in query"
  | .invalidQuery => "invalid query"
  | .unknownEntity => "unknown entity"
  | .unknownProperty => "unknown property"
  | .unknownCollection => "unknown collection"
  | .missingParameter => "missing required parameter"
  | .tooManyParameters => "too many parameters"
  | .sortAlreadySpecified => "query already has an ORDER BY clause"
  | .unboundParameters => "query parameter has no bound value"
  | .unusedParameters => "bound parameter does not occur in the query"

/-- The words before and after a detail; for the other kinds the detail is the whole message. -/
def frame : DiagnosticKind → String × String
  | .unknownEntity => ("`", "` is not a mapped entity")
  | .unknownCollection => ("`", "` is not a mapped collection role")
  | .missingParameter => ("Missing required parameter for ", "")
  | .tooManyParameters => ("Too many parameters for ", "")
  | .sortAlreadySpecified => ("query already has an ORDER BY clause: ", "")
  | _ => ("", "")

/-- The message with an optional detail. -/
def message (k : DiagnosticKind) : Option String → String
  | none => k.fallbackMessage
  | some detail => k.frame.1 ++ detail ++ k.frame.2

end DiagnosticKind

/-- One finding. -/
structure Diagnostic where
  kind : DiagnosticKind
  severity : Severity
  range : TextRange
  message : String
  hints : List String
  deriving DecidableEq, Repr, Inhabited

namespace Diagnostic

/-- A finding with the severity of its kind. -/
def report (kind : DiagnosticKind) (range : TextRange) (detail : Option String) : Diagnostic :=
  ⟨kind, kind.defaultSeverity, range, kind.message detail, []⟩

/-- The hints as they follow a message on its line. -/
def hintText : List String → String
  | [] => ""
  | hint :: rest => " (hint: " ++ hint ++ ")" ++ hintText rest

/-- The finding on one line. -/
def text (d : Diagnostic) : String :=
  d.severity.text ++ " at " ++ toString d.range.start ++ ".." ++ toString d.range.stop ++ ": " ++
    d.message ++ hintText d.hints

end Diagnostic

/-- Findings in the order in which they were reported. -/
abbrev Diagnostics := List Diagnostic

namespace Diagnostics

/-- How many findings have a severity. -/
def countOf (ds : Diagnostics) (severity : Severity) : Nat :=
  ds.countP (·.severity == severity)

def hasErrors (ds : Diagnostics) : Bool := ds.any (·.severity == .error)

def hasWarnings (ds : Diagnostics) : Bool := ds.any (·.severity == .warning)

/-- Every range fits. -/
def Fit (ds : Diagnostics) : Prop := ∀ d ∈ ds, d.range.Fits

instance (ds : Diagnostics) : Decidable ds.Fit := inferInstanceAs (Decidable (∀ d ∈ ds, _))

end Diagnostics

end EntityQuery
