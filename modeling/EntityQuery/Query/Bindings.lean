import EntityQuery.OrderedSet
import EntityQuery.Diagnostic.Basic
import EntityQuery.Query.Placeholder
import EntityQuery.Text.Split
/-!
# Bindings

The parameters that a call site binds, and their comparison with the placeholders of a query: a
placeholder that nothing is bound to and a binding that the query does not mention are each reported
by one warning.
-/
namespace EntityQuery

/-- Bound parameters: names and numbers, each in order of declaration. -/
structure Bindings where
  named : OrderedSet String
  positional : OrderedSet Nat
  deriving DecidableEq, Repr, Inhabited

namespace Bindings

/-- No parameters. -/
def empty : Bindings := ⟨.empty, .empty⟩

/-- Parameters numbered from one. -/
def ofCount (count : Nat) : Bindings := ⟨.empty, ⟨List.range' 1 count, List.nodup_range'⟩⟩

/-- Parameters with names. -/
def ofNames (names : List String) : Bindings := ⟨.ofList names, .empty⟩

def size (b : Bindings) : Nat := b.named.size + b.positional.size

def isEmpty (b : Bindings) : Bool := b.size == 0

/-- The parameters, named ones first. -/
def toList (b : Bindings) : List Placeholder :=
  b.named.toList.map .named ++ b.positional.toList.map .positional

/-- Whether a placeholder is bound. -/
def contains (b : Bindings) : Placeholder → Bool
  | .named name => b.named.contains name
  | .positional label => b.positional.contains label

theorem contains_iff (b : Bindings) (p : Placeholder) : b.contains p = true ↔ p ∈ b.toList := by
  cases p <;> simp [contains, toList, OrderedSet.contains]

/-- The only parameter, if there is exactly one. -/
def single? (b : Bindings) : Option Placeholder :=
  match b.toList with
  | [p] => some p
  | _ => none

/-- Placeholders separated by commas. -/
def listed (ps : List Placeholder) : String := Text.joinStrings ", " (ps.map Placeholder.text)

/-- The placeholders that nothing is bound to, with their ranges. -/
def unbound (b : Bindings) (query : String) : List (Placeholder × TextRange) :=
  (Placeholder.scan query).filter fun (p, _) => !b.contains p

/-- The warning on placeholders without a binding, at the first of them. -/
def unboundWarning? (b : Bindings) (query : String) : Option Diagnostic :=
  match b.unbound query with
  | [] => none
  | (p, range) :: rest =>
    let ps := (OrderedSet.ofList (p :: rest.map (·.1))).toList
    let start :=
      if ps.length == 1 then "Missing value for parameter " else "Missing values for parameters "
    some (.report .unboundParameters range (some (start ++ listed ps)))

/-- The bindings that a query does not mention. -/
def unused (b : Bindings) (query : String) : List Placeholder :=
  let mentioned := (Placeholder.scan query).map (·.1)
  b.toList.filter fun p => !mentioned.contains p

/-- The warning on bindings that the query does not mention, over all of it. -/
def unusedWarning? (b : Bindings) (query : String) : Option Diagnostic :=
  match b.unused query with
  | [] => none
  | [p] =>
    some (.report .unusedParameters (.upTo query)
      (some ("Parameter " ++ p.text ++ " does not occur in the query")))
  | ps =>
    some (.report .unusedParameters (.upTo query)
      (some ("Parameters " ++ listed ps ++ " do not occur in the query")))

/-- Compares a query with the bindings and uses them up: what is reported is added to the findings,
and no binding is left. -/
def check (b : Bindings) (query : String) (ds : Diagnostics) : Bindings × Diagnostics :=
  (empty, ds ++ (b.unboundWarning? query).toList ++ (b.unusedWarning? query).toList)

end Bindings

end EntityQuery
