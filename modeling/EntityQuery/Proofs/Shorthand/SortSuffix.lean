import Mathlib
import EntityQuery.Proofs.Shorthand.OrderBy
/-!
# Calls with a sort chain

The sort chain of a call is looked at last: what the call without it is refused for, it is refused
for as well, and otherwise its clause goes behind the expansion. The only further refusal is that of
an expansion which has an order of its own.

Results:
* `ofCall_eq_bind`: the expansion, and then its sort clause.
* `expand_sorted`: what a sort chain adds to an expansion, and when it is refused.
-/
namespace EntityQuery

/-- The call without its sort chain. -/
def ShorthandCall.withoutSort (call : ShorthandCall) : ShorthandCall := { call with sort := [] }

namespace Expansion

theorem ofCall_eq_bind (call : ShorthandCall) :
    ofCall call = ofCall call.withoutSort >>= addSort call := by
  have hfilter : filterOf call.withoutSort = filterOf call := rfl
  have hunsorted : unsorted call.withoutSort = unsorted call := rfl
  have hverb : call.withoutSort.verb = call.verb := rfl
  unfold ofCall
  rw [hfilter, hunsorted, hverb]
  split
  · rfl
  split
  · rfl
  cases unsorted call <;> rfl

theorem addSort_of_columns {call : ShorthandCall} {clause : String}
    (h : call.sort.orderByClause? = some clause) (e : Expansion) : addSort call e =
      if isOrdered e.text then .error (.alreadySorted (filterOf call))
      else .ok ⟨e.text ++ " " ++ clause, e.offset⟩ := by
  rw [addSort, h]

/-- The warning on a sort chain for what has an order already, at the filter of the call. -/
def orderedWarning (call : ShorthandCall) : Diagnostic where
  kind := .sortAlreadySpecified
  severity := .warning
  range := ⟨0, byteLength ((filterOf call).getD "")⟩
  message := "query already has an ORDER BY clause"
  hints := []

theorem diagnostic?_alreadySorted (call : ShorthandCall) :
    (Refusal.alreadySorted (filterOf call)).diagnostic? = some (orderedWarning call) := by
  rw [Refusal.diagnostic?, orderedWarning]
  cases filterOf call <;> rfl

theorem orderedWarning_fits {call : ShorthandCall}
    (hfilter : ∀ f ∈ filterOf call, byteLength f ≤ Text.maxOffset) :
    (orderedWarning call).range.Fits := by
  change byteLength ((filterOf call).getD "") ≤ Text.maxOffset
  cases hf : filterOf call with
  | none => exact Nat.zero_le _
  | some f => exact hfilter f hf

/-- A sort chain with columns changes an expansion by the clause behind it. Where the call has no
expansion without the chain, it has none with it, for the same cause. Where the expansion has an
`order by` outside of quotes, there is none either, which one warning on the filter reports, if the
positions of the filter fit. -/
theorem expand_sorted {call : ShorthandCall} (hsort : call.sort.columns ≠ []) (ds : Diagnostics) :
    ∃ clause, call.sort.orderByClause? = some clause ∧
      (∀ ds', expand call.withoutSort ds = (none, ds') → expand call ds = (none, ds')) ∧
      ∀ e ds', expand call.withoutSort ds = (some e, ds') →
        (HasOrderBy e.text.toList → (∀ f ∈ filterOf call, byteLength f ≤ Text.maxOffset) →
          expand call ds = (none, ds ++ [orderedWarning call]) ∧
          (orderedWarning call).range.Fits) ∧
        (¬ HasOrderBy e.text.toList →
          expand call ds = (some ⟨e.text ++ " " ++ clause, e.offset⟩, ds)) := by
  have hclause := SortChain.orderByClause?_of_columns hsort
  refine ⟨_, hclause, fun ds' hnone => ?_, fun e ds' hsome => ?_⟩
  · cases h : ofCall call.withoutSort with
    | error r =>
      have hsame : ofCall call = .error r := by
        rw [ofCall_eq_bind, h]
        rfl
      rw [expand, h] at hnone
      rw [expand, hsame]
      exact hnone
    | ok e =>
      rw [expand, h] at hnone
      cases hnone
  · cases h : ofCall call.withoutSort with
    | error r =>
      rw [expand, h] at hsome
      cases hsome
    | ok e' =>
      rw [expand, h] at hsome
      cases hsome
      have hthen : ofCall call = addSort call e := by
        rw [ofCall_eq_bind, h]
        rfl
      rw [expand, hthen, addSort_of_columns hclause, ← isOrdered_iff]
      constructor
      · intro hordered hfilter
        rw [if_pos hordered]
        dsimp only
        rw [diagnostic?_alreadySorted]
        exact ⟨rfl, orderedWarning_fits hfilter⟩
      · intro hnot
        rw [if_neg hnot]

/-- A list of persons by name, with a filter on their notes. -/
def notes (filter : String) : ShorthandCall :=
  ⟨.list, "Person", some filter, .empty, [.sortBy "name" none, .chainWide .descending]⟩

/-- In quotes, and as one word, there is no clause. Behind a doubled quote at the end of quotes
there is one. -/
theorem expand_sorted_notes :
    (∀ f, (notes f).sort.columns ≠ []) ∧
    expand (notes "note = 'it''s order by' or order_by = 1") [] = (some
      ⟨"FROM Person WHERE note = 'it''s order by' or order_by = 1 ORDER BY name DESC", 18⟩, []) ∧
    expand (notes "note = 'by''' Order -BY age") [] =
      (none, [orderedWarning (notes "note = 'by''' Order -BY age")]) ∧
    (orderedWarning (notes "note = 'by''' Order -BY age")).range = ⟨0, 27⟩ := by
  have hsort : ∀ f, (notes f).sort.columns ≠ [] := fun f => by
    rw [show (notes f).sort.columns = [⟨"name", .descending⟩] from rfl]
    exact List.cons_ne_nil _ _
  refine ⟨hsort, ?_, ?_, by decide +kernel⟩
  · obtain ⟨clause, hclause, -, h⟩ :=
      expand_sorted (hsort "note = 'it''s order by' or order_by = 1") []
    obtain rfl : "ORDER BY name DESC" = clause := Option.some.inj hclause
    exact (h _ _ rfl).2 fun hordered => absurd ((isOrdered_iff _).mpr hordered) (by decide +kernel)
  · obtain ⟨_, -, -, h⟩ := expand_sorted (hsort "note = 'by''' Order -BY age") []
    obtain ⟨hrefused, -⟩ := (h _ _ rfl).1 ((isOrdered_iff _).mp (by decide +kernel)) fun f hf => by
      cases Option.mem_unique hf (show "note = 'by''' Order -BY age" ∈ filterOf _ from rfl)
      decide
    exact hrefused

end Expansion

end EntityQuery
