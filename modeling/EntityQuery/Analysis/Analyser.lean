import EntityQuery.Diagnostic.Basic
import EntityQuery.Graph.Lookup
/-!
# Analysers

An analyser reads a query, asks about metadata and answers with findings against the text it was
given. It may keep a state of its own from one query to the next.
-/
namespace EntityQuery

/-- What an analyser says about a stretch of the query. -/
structure Finding where
  range : TextRange
  message : String
  severity : Severity
  deriving DecidableEq, Repr, Inhabited

namespace Finding

/-- An error about a stretch of the query. -/
def error (range : TextRange) (message : String) : Finding := ⟨range, message, .error⟩

/-- The finding as a diagnostic. -/
def toDiagnostic (f : Finding) : Diagnostic :=
  { Diagnostic.report .invalidQuery f.range (some f.message) with severity := f.severity }

end Finding

/-- An analyser with states in `σ`. -/
structure Analyser (σ : Type) where
  analyse : Lookup → String → σ → GraphM (List Finding × σ)

end EntityQuery
