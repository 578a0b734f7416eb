import Mathlib
import EntityQuery.Proofs.Shorthand.Filters
/-!
# Refused calls

Without a sort chain a call is refused for its verb, for a filter that names a query kept elsewhere,
or for a lone name that is not compared with exactly one binding. Only the last of these is reported,
by one warning at the filter, and only if the others do not apply. What is expanded is not reported.

Results:
* `single?_eq_none_iff`: when there is not exactly one binding.
* `expand_of_unpaired`, `expand_of_accepted`: the refusal that is reported, and no refusal.
* `expand_unsorted`: when a call is refused, and what is reported.
-/
namespace EntityQuery

namespace Verb

theorem isSupported_eq_false_iff {v : Verb} :
    v.isSupported = false ↔ v = .update ∨ v = .delete := by
  cases v <;> simp [isSupported]

end Verb

namespace Bindings

theorem length_toList (b : Bindings) : b.toList.length = b.size := by
  simp [toList, size, OrderedSet.size]

/-- There is no only binding if their number is not one. -/
theorem single?_eq_none_iff {b : Bindings} : b.single? = none ↔ b.size ≠ 1 := by
  rw [← b.length_toList, single?]
  split
  · rename_i p hone
    simp [hone]
  · rename_i hone
    simpa [List.length_eq_one_iff] using hone

end Bindings

/-- The call is refused for the number of its bindings: its verb and its filter `f` are none that
are refused in any case, and `f` is a lone name. -/
structure ShorthandCall.IsUnpaired (call : ShorthandCall) (f : String) : Prop where
  not_update : call.verb ≠ .update
  not_delete : call.verb ≠ .delete
  filter : call.HasFilter f
  not_reference : ¬ Expansion.IsReference f
  lone : Expansion.IsLone f
  bindings : call.bindings.size ≠ 1

namespace Expansion

variable {call : ShorthandCall}

/-- Without columns nothing is added. -/
theorem ofCall_of_no_columns (hsort : call.sort.columns = []) : ofCall call =
    if !call.verb.isSupported then .error (.unsupportedVerb call.verb)
    else if (filterOf call).any isNamedQuery then .error .namedQuery
    else unsorted call := by
  have hadd : ∀ e, addSort call e = .ok e := fun e => by
    rw [addSort, SortChain.orderByClause?_of_no_columns hsort]
  rw [ofCall]
  congr 2
  cases unsorted call with
  | error r => rfl
  | ok e => exact hadd e

/-- The warning on a lone name with no binding, or with too many. -/
def unpairedWarning (f : String) (bindings : Nat) : Diagnostic where
  kind := if bindings = 0 then .missingParameter else .tooManyParameters
  severity := .warning
  range := ⟨0, byteLength f⟩
  message :=
    (if bindings = 0 then "Missing required parameter for " else "Too many parameters for ") ++ f
  hints := []

section
variable (hsort : call.sort.columns = []) (ds : Diagnostics)
include hsort

theorem expand_of_verb (hverb : call.verb = .update ∨ call.verb = .delete) :
    expand call ds = (none, ds) := by
  rw [expand, ofCall_of_no_columns hsort, Verb.isSupported_eq_false_iff.mpr hverb]
  exact congrArg _ (List.append_nil ds)

theorem expand_of_reference {f : String} (hf : call.HasFilter f) (href : IsReference f) :
    expand call ds = (none, ds) := by
  by_cases hverb : call.verb = .update ∨ call.verb = .delete
  · exact expand_of_verb hsort ds hverb
  · rw [← Verb.isSupported_eq_false_iff, Bool.not_eq_false] at hverb
    have hany : (filterOf call).any isNamedQuery = true := by
      rw [filterOf_eq_some_iff.mpr hf]
      exact isNamedQuery_iff.mpr href
    rw [expand, ofCall_of_no_columns hsort, hverb, hany]
    exact congrArg _ (List.append_nil ds)

/-- Past its verb and its filter, a call stands for its expansion. -/
theorem ofCall_of_not_refused (hverb : ¬ (call.verb = .update ∨ call.verb = .delete))
    (href : ∀ f, call.HasFilter f → ¬ IsReference f) : ofCall call = unsorted call := by
  rw [← Verb.isSupported_eq_false_iff, Bool.not_eq_false] at hverb
  have hany : (filterOf call).any isNamedQuery = false := by
    cases hf : filterOf call with
    | none => rfl
    | some f =>
      rw [Option.any_some, Bool.eq_false_iff, ne_eq, isNamedQuery_iff]
      exact href f (filterOf_eq_some_iff.mp hf)
  rw [ofCall_of_no_columns hsort, hverb, hany]
  rfl

theorem expand_of_unpaired {f : String} (h : call.IsUnpaired f) :
    expand call ds = (none, ds ++ [unpairedWarning f call.bindings.size]) := by
  have hf := filterOf_eq_some_iff.mpr h.filter
  have hof := ofCall_of_not_refused hsort (not_or.mpr ⟨h.not_update, h.not_delete⟩) fun f' hf' => by
    rw [← filterOf_eq_some_iff, hf] at hf'
    cases hf'
    exact h.not_reference
  rw [expand, hof, unsorted_of_lone hf h.lone, Bindings.single?_eq_none_iff.mpr h.bindings]
  by_cases hnone : call.bindings.size = 0 <;>
    simp [Bindings.isEmpty, hnone, Refusal.diagnostic?, unpairedWarning, Diagnostic.report,
      DiagnosticKind.defaultSeverity, DiagnosticKind.abortsExpansion, DiagnosticKind.message,
      DiagnosticKind.frame, TextRange.whole]

theorem expand_of_accepted (hverb : ¬ (call.verb = .update ∨ call.verb = .delete))
    (href : ∀ f, call.HasFilter f → ¬ IsReference f)
    (hpaired : ∀ f, call.HasFilter f → IsLone f → call.bindings.size = 1) :
    ∃ e, expand call ds = (some e, ds) := by
  have hok : ∃ e, unsorted call = .ok e := by
    cases hf : filterOf call with
    | none => exact ⟨_, by rw [unsorted, hf]⟩
    | some f =>
      by_cases hlone : IsLone f
      · have hsome : call.bindings.single? ≠ none := fun hnone =>
          Bindings.single?_eq_none_iff.mp hnone (hpaired f (filterOf_eq_some_iff.mp hf) hlone)
        obtain ⟨p, hp⟩ := Option.ne_none_iff_exists'.mp hsome
        exact ⟨_, by rw [unsorted_of_lone hf hlone, hp]⟩
      · obtain ⟨start, -, hstart⟩ := unsorted_of_not_lone hf hlone
        exact ⟨_, hstart⟩
  obtain ⟨e, he⟩ := hok
  exact ⟨e, by rw [expand, ofCall_of_not_refused hsort hverb href, he]⟩

end

/-- A call without sort columns is refused just for its verb, for a filter that refers to another
query, and for a lone name without exactly one binding. The last is reported by one warning, if the
call is not refused anyway; in every other case nothing is reported. A filter that is reported must
have positions that fit. -/
theorem expand_unsorted (hsort : call.sort.columns = [])
    (hfits : ∀ f, call.IsUnpaired f → byteLength f ≤ Text.maxOffset) (ds : Diagnostics) :
    ((expand call ds).1 = none ↔
      (call.verb = .update ∨ call.verb = .delete) ∨
      (∃ f, call.HasFilter f ∧ IsReference f) ∨
      ∃ f, call.HasFilter f ∧ IsLone f ∧ call.bindings.size ≠ 1) ∧
    (∀ f, call.IsUnpaired f →
      expand call ds = (none, ds ++ [unpairedWarning f call.bindings.size]) ∧
      (unpairedWarning f call.bindings.size).range.Fits) ∧
    ((∀ f, ¬ call.IsUnpaired f) → (expand call ds).2 = ds) := by
  have hunpaired := fun f (h : call.IsUnpaired f) =>
    And.intro (expand_of_unpaired hsort ds h) (hfits f h)
  by_cases hverb : call.verb = .update ∨ call.verb = .delete
  · have h := expand_of_verb hsort ds hverb
    exact ⟨by simp [h, hverb], hunpaired, fun _ => by rw [h]⟩
  by_cases href : ∃ f, call.HasFilter f ∧ IsReference f
  · obtain ⟨f, hf, hreference⟩ := href
    have h := expand_of_reference hsort ds hf hreference
    exact ⟨⟨fun _ => .inr (.inl ⟨f, hf, hreference⟩), fun _ => by rw [h]⟩, hunpaired,
      fun _ => by rw [h]⟩
  have hnot : ∀ f, call.HasFilter f → ¬ IsReference f := fun f hf hreference =>
    href ⟨f, hf, hreference⟩
  by_cases hlone : ∃ f, call.HasFilter f ∧ IsLone f ∧ call.bindings.size ≠ 1
  · obtain ⟨f, hf, hname, hsize⟩ := hlone
    rw [not_or] at hverb
    have hcall : call.IsUnpaired f := ⟨hverb.1, hverb.2, hf, hnot f hf, hname, hsize⟩
    exact ⟨⟨fun _ => .inr (.inr ⟨f, hf, hname, hsize⟩), fun _ => by rw [(hunpaired f hcall).1]⟩,
      hunpaired, fun hnone => absurd hcall (hnone f)⟩
  · obtain ⟨e, h⟩ := expand_of_accepted hsort ds hverb hnot fun f hf hname => by
      by_contra hsize
      exact hlone ⟨f, hf, hname, hsize⟩
    exact ⟨by simp [h, hverb, href, hlone], hunpaired, fun _ => by rw [h]⟩

/-- Persons, with a filter and so many bindings. The sort chain has no column. -/
def persons (filter : String) (bindings : Nat) : ShorthandCall :=
  ⟨.find, "Person", some filter, .ofCount bindings, [.chainWide .descending]⟩

/-- A name that begins like a keyword and goes on with a letter of two bytes, and a reference behind
a tabulator. -/
theorem expand_unsorted_persons :
    (∀ f bindings, (persons f bindings).sort.columns = []) ∧ (persons "fromé" 2).IsUnpaired "fromé" ∧
    expand (persons "fromé" 2) [] = (none, [unpairedWarning "fromé" 2]) ∧
    (unpairedWarning "fromé" 2).range.Fits ∧ (∀ f, ¬ (persons "\t#all" 0).IsUnpaired f) ∧
    (persons "\t#all" 0).HasFilter "\t#all" ∧ IsReference "\t#all" ∧
    (expand (persons "\t#all" 0) []).1 = none := by
  have hsort : ∀ f bindings, (persons f bindings).sort.columns = [] := fun _ _ => rfl
  have hcall : (persons "fromé" 2).IsUnpaired "fromé" :=
    ⟨by decide, by decide, ⟨rfl, 'f', by decide, by decide⟩,
      fun h => absurd (isNamedQuery_iff.mpr h) (by decide), by decide, by decide⟩
  have hfilter : (persons "\t#all" 0).HasFilter "\t#all" := ⟨rfl, '#', by decide, by decide⟩
  have href : IsReference "\t#all" := isNamedQuery_iff.mp rfl
  have hshort : ∀ f, (persons "fromé" 2).IsUnpaired f → byteLength f ≤ Text.maxOffset := by
    intro f hf
    obtain rfl := Option.some.inj hf.filter.1
    decide
  have hnot : ∀ f, ¬ (persons "\t#all" 0).IsUnpaired f := by
    intro f hf
    obtain rfl := Option.some.inj hf.filter.1
    exact hf.not_reference href
  obtain ⟨hexpand, hfits⟩ := (expand_unsorted (hsort _ 2) hshort []).2.1 _ hcall
  exact ⟨hsort, hcall, hexpand, hfits, hnot, hfilter, href,
    (expand_unsorted (hsort _ 0) (fun f hf => absurd hf (hnot f)) []).1.mpr
      (.inr (.inl ⟨_, hfilter, href⟩))⟩

end Expansion

end EntityQuery
