import Mathlib
import EntityQuery.Proofs.InsertionOrder
import EntityQuery.Query.Bindings
/-!
# Warnings on bindings

A query and the bindings of a site differ in two ways: the query may mention what is not bound, and
leave out what is. Each way is one warning, with everything it is about in one list.

Results:
* `unboundWarning?_reports`, `unusedWarning?_reports`: when each warning is given, and what it says.
* `check_difference`: what a check adds to the findings, and that it uses the bindings up.
-/
namespace EntityQuery

namespace Bindings

/-- The placeholders of a query, in the order in which they occur. -/
def occurring (query : String) : List Placeholder := (Placeholder.scan query).map (·.1)

/-- `ps` are the placeholders that occur without being bound, each once and in the order in which
they first occur. -/
structure IsMissing (b : Bindings) (query : String) (ps : List Placeholder) : Prop where
  mem_iff : ∀ p, p ∈ ps ↔ p ∈ occurring query ∧ p ∉ b.toList
  ordered : ps.Pairwise fun p q => (occurring query).idxOf p < (occurring query).idxOf q

/-- The range is that of the first occurrence that is not bound. -/
def IsFirstMissing (b : Bindings) (query : String) (range : TextRange) : Prop :=
  ∃ before p after, Placeholder.scan query = before ++ (p, range) :: after ∧
    (∀ q ∈ before, q.1 ∈ b.toList) ∧ p ∉ b.toList

/-- The bindings that do not occur, named ones first, in order of declaration. -/
def superfluous (b : Bindings) (query : String) : List Placeholder :=
  (b.named.toList.filter fun name => !(occurring query).contains (.named name)).map .named ++
    (b.positional.toList.filter fun label =>
      !(occurring query).contains (.positional label)).map .positional

/-- The warning on missing values for the placeholders `ps`. -/
def missingWarning (range : TextRange) (ps : List Placeholder) : Diagnostic where
  kind := .unboundParameters
  severity := .warning
  range
  message :=
    (if ps.length = 1 then "Missing value for parameter " else "Missing values for parameters ") ++
      listed ps
  hints := []

/-- The warning on superfluous bindings `ps`. -/
def superfluousWarning (query : String) (ps : List Placeholder) : Diagnostic where
  kind := .unusedParameters
  severity := .warning
  range := ⟨0, Text.narrow (byteLength query)⟩
  message :=
    if ps.length = 1 then "Parameter " ++ listed ps ++ " does not occur in the query"
    else "Parameters " ++ listed ps ++ " do not occur in the query"
  hints := []

theorem unbound_eq_nil_iff (b : Bindings) (query : String) :
    b.unbound query = [] ↔ ∀ p ∈ occurring query, p ∈ b.toList := by
  simp [unbound, occurring, contains_iff, List.filter_eq_nil_iff]

theorem isMissing_ofList (b : Bindings) (query : String) :
    b.IsMissing query (OrderedSet.ofList ((b.unbound query).map (·.1))).toList := by
  have hlist : (b.unbound query).map (·.1) = (occurring query).filter fun p => !b.contains p := by
    rw [occurring, List.filter_map]
    rfl
  rw [hlist]
  constructor
  · intro p
    rw [OrderedSet.mem_ofList, List.mem_filter, ← b.contains_iff]
    simp
  · rw [OrderedSet.ofList_filter]
    exact (OrderedSet.ofList_ordered _).filter _

/-- Warnings on bindings say what they are given to say. -/
theorem report_eq {kind : DiagnosticKind}
    (hkind : kind = .unboundParameters ∨ kind = .unusedParameters) (range : TextRange)
    (text : String) :
    Diagnostic.report kind range (some text) = ⟨kind, .warning, range, text, []⟩ := by
  rcases hkind with rfl | rfl <;>
    simp [Diagnostic.report, DiagnosticKind.message, DiagnosticKind.frame,
      DiagnosticKind.defaultSeverity, DiagnosticKind.abortsExpansion]

/-- The first warning is given if something is missing, and lists it. -/
theorem unboundWarning?_reports (b : Bindings) (query : String) :
    (b.unboundWarning? query = none ∧ ∀ p ∈ occurring query, p ∈ b.toList) ∨
    ∃ range ps, b.unboundWarning? query = some (missingWarning range ps) ∧ ps ≠ [] ∧
      b.IsMissing query ps ∧ b.IsFirstMissing query range := by
  have hmissing := b.isMissing_ofList query
  unfold unboundWarning?
  cases hlist : b.unbound query with
  | nil => exact .inl ⟨rfl, (b.unbound_eq_nil_iff query).mp hlist⟩
  | cons first rest =>
    obtain ⟨p, range⟩ := first
    rw [hlist] at hmissing
    obtain ⟨before, after, hsplit, hbefore, hp, -⟩ := List.filter_eq_cons_iff.mp hlist
    refine .inr ⟨range, _, ?_, ?_, hmissing, before, p, after, hsplit, fun q hq => ?_, ?_⟩
    · simp [missingWarning, report_eq]
    · exact List.ne_nil_of_mem (OrderedSet.mem_ofList.mpr List.mem_cons_self)
    · simpa [contains_iff] using hbefore q hq
    · simpa [← b.contains_iff] using hp

theorem unboundWarning?_eq_none_iff (b : Bindings) (query : String) :
    b.unboundWarning? query = none ↔ ∀ p ∈ occurring query, p ∈ b.toList := by
  rw [← b.unbound_eq_nil_iff query]
  unfold unboundWarning?
  split <;> simp_all

theorem unused_eq_superfluous (b : Bindings) (query : String) :
    b.unused query = b.superfluous query := by
  simp [unused, superfluous, toList, occurring, List.filter_map, Function.comp_def]

theorem superfluous_eq_nil_iff (b : Bindings) (query : String) :
    b.superfluous query = [] ↔ ∀ p ∈ b.toList, p ∈ occurring query := by
  rw [← unused_eq_superfluous, unused, List.filter_eq_nil_iff]
  simp [occurring]

/-- The second warning is given if something is superfluous, and lists it. -/
theorem unusedWarning?_reports (b : Bindings) (query : String) :
    b.unusedWarning? query = if b.superfluous query = [] then none
      else some (superfluousWarning query (b.superfluous query)) := by
  unfold unusedWarning?
  rw [unused_eq_superfluous]
  split
  · rename_i hnil
    rw [if_pos hnil]
  · rename_i p hone
    simp [hone, superfluousWarning, report_eq, listed, Text.joinStrings, TextRange.upTo]
  · rename_i hnil hone
    have hlen : (b.superfluous query).length ≠ 1 := fun h =>
      (List.length_eq_one_iff.mp h).elim fun p hp => hone p hp
    rw [if_neg hnil]
    simp [hlen, superfluousWarning, report_eq, TextRange.upTo]

/-- A check adds at most two warnings behind the findings that are there. One lists what occurs in
the query without being bound, at its first place; then one lists what is bound and does not occur,
on the whole query. Neither is given just if the same placeholders occur and are bound. Afterwards
nothing is bound. -/
theorem check_difference (b : Bindings) (query : String) (ds : Diagnostics) :
    ∃ onMissing onSuperfluous : Diagnostics,
      b.check query ds = (.empty, ds ++ onMissing ++ onSuperfluous) ∧
      (onMissing = [] ∧ (∀ p ∈ occurring query, p ∈ b.toList) ∨
        ∃ range ps, onMissing = [missingWarning range ps] ∧ ps ≠ [] ∧ b.IsMissing query ps ∧
          b.IsFirstMissing query range) ∧
      (onSuperfluous = [] ∧ (∀ p ∈ b.toList, p ∈ occurring query) ∨
        ∃ ps, onSuperfluous = [superfluousWarning query ps] ∧ ps ≠ [] ∧
          ps = b.superfluous query) ∧
      ((b.check query ds).2 = ds ↔ ∀ p, p ∈ occurring query ↔ p ∈ b.toList) := by
  have hunused := b.unusedWarning?_reports query
  refine ⟨_, _, rfl, ?_, ?_, ?_⟩
  · rcases b.unboundWarning?_reports query with ⟨hnone, hall⟩ | ⟨range, ps, hsome, h⟩
    · exact .inl ⟨by rw [hnone]; rfl, hall⟩
    · exact .inr ⟨range, ps, by rw [hsome]; rfl, h⟩
  · by_cases hnil : b.superfluous query = []
    · rw [if_pos hnil] at hunused
      exact .inl ⟨by rw [hunused]; rfl, (b.superfluous_eq_nil_iff query).mp hnil⟩
    · rw [if_neg hnil] at hunused
      exact .inr ⟨_, by rw [hunused]; rfl, hnil, rfl⟩
  · -- nothing is added just if neither warning is given
    have hnothing : (b.check query ds).2 = ds ↔
        b.unboundWarning? query = none ∧ b.unusedWarning? query = none := by
      simp [check, List.append_assoc]
    rw [hnothing, unboundWarning?_eq_none_iff, hunused]
    simp [superfluous_eq_nil_iff, forall_and, iff_def]

example : ((ofNames ["b", "a", "c"]).check "?2 :a ?1 ?2 ':b'" []).2.map (·.message) =
    ["Missing values for parameters ?2, ?1",
      "Parameters :b, :c do not occur in the query"] := by decide +kernel

end Bindings

end EntityQuery
