import Mathlib
import EntityQuery.Proofs.Query.Surroundings
import EntityQuery.Proofs.Shorthand.Filters
import EntityQuery.Proofs.Shorthand.SortSuffix
/-!
# Placeholders of a filter and of its expansion

A filter that is not a lone name stands unchanged in the expansion, between a generated start and
the sort clause. Where the names of the entity and of the columns are words, neither of the two has
quotes or placeholders in it, so that the expansion has the placeholders of the filter.

Results:
* `ofCall_eq_around`: what an expansion is made of.
* `scan_expanded`: the placeholders of the expansion are those of the filter.
-/
namespace EntityQuery

namespace Placeholder

theorem all_isPlain_joinStrings {sep : String} (hsep : sep.toList.all isPlain = true)
    {ss : List String} (h : ∀ s ∈ ss, s.toList.all isPlain = true) :
    (Text.joinStrings sep ss).toList.all isPlain = true := by
  fun_induction Text.joinStrings sep ss
  case case1 => rfl
  case case2 s => exact h s List.mem_cons_self
  case case3 s next rest ih =>
    have hrest := ih fun t ht => h t (List.mem_cons_of_mem s ht)
    simp only [String.toList_append, List.all_append, Bool.and_eq_true]
    exact ⟨⟨h s List.mem_cons_self, hsep⟩, hrest⟩

theorem all_isPlain_fromClause {call : ShorthandCall}
    (hentity : ∀ c ∈ call.entity.toList, Text.isWordChar c = true) :
    (Expansion.fromClause call).toList.all isPlain = true := by
  have hcount : (if call.verb.isCount then "SELECT COUNT(*) " else "").toList.all isPlain =
      true := by
    split <;> decide
  simp only [Expansion.fromClause, String.toList_append, List.all_append, Bool.and_eq_true]
  exact ⟨⟨hcount, by decide⟩, all_isPlain_of_isWordChar hentity⟩

theorem all_isPlain_column {column : SortColumn}
    (h : ∀ c ∈ column.name.toList, Text.isWordChar c = true) :
    column.text.toList.all isPlain = true := by
  have hdirection : column.direction.keyword.toList.all isPlain = true := by
    cases column.direction <;> decide
  simp only [SortColumn.text, String.toList_append, List.all_append, Bool.and_eq_true]
  exact ⟨⟨all_isPlain_of_isWordChar h, by decide⟩, hdirection⟩

/-- The clause of a sort chain may follow a query. -/
theorem isTail_clause {chain : SortChain} {clause : String}
    (hclause : chain.orderByClause? = some clause)
    (hcolumns : ∀ column ∈ chain.columns, ∀ c ∈ column.name.toList, Text.isWordChar c = true) :
    IsTail (" " ++ clause) := by
  have hne : chain.columns ≠ [] := fun hnil => by
    rw [SortChain.orderByClause?_of_no_columns hnil] at hclause
    cases hclause
  rw [SortChain.orderByClause?_of_columns hne, Option.some.injEq] at hclause
  have hjoined : (Text.joinStrings ", " (chain.columns.map SortColumn.text)).toList.all isPlain =
      true := by
    refine all_isPlain_joinStrings (by decide) fun s hs => ?_
    obtain ⟨column, hcolumn, rfl⟩ := List.mem_map.mp hs
    exact all_isPlain_column (hcolumns column hcolumn)
  constructor
  · rw [← hclause]
    simp only [String.toList_append, List.all_append, Bool.and_eq_true]
    exact ⟨by decide, by decide, hjoined⟩
  · rw [String.toList_append]
    rintro c ⟨⟩
    rfl

end Placeholder

namespace Expansion

/-- The expansion of a call with a filter that is not a lone name: the filter as it is, with at most
a generated start in front of it and the sort clause behind it. -/
theorem ofCall_eq_around {call : ShorthandCall} {f : String} {e : Expansion}
    (hf : filterOf call = some f) (hlone : ¬ IsLone f) (h : ofCall call = .ok e) :
    ∃ start ∈ ["", fromClause call ++ " ", fromClause call ++ " WHERE "], ∃ stop,
      e = around start f stop ∧
      (stop = "" ∨ ∃ clause, call.sort.orderByClause? = some clause ∧ stop = " " ++ clause) := by
  obtain ⟨start, hstart, hunsorted⟩ := unsorted_of_not_lone hf hlone
  obtain ⟨e₀, he₀, hadd⟩ := ofCall_eq_ok h
  rw [hunsorted] at he₀
  cases he₀
  obtain ⟨stop, rfl, hstop⟩ := addSort_eq_ok hadd
  exact ⟨start, hstart, stop, by simp only [around, String.append_empty],
    hstop.imp_left And.right⟩

/-- Where the entity and the columns of the sort chain are named by words, the expansion of a filter
that is not a lone name has exactly the placeholders of the filter, as many bytes further on as the
expansion's offset says. Quotes that the filter leaves open make no difference. -/
theorem scan_expanded {call : ShorthandCall} {f : String} {e : Expansion} {ds ds' : Diagnostics}
    (hfilter : call.HasFilter f) (hlone : ¬ IsLone f)
    (hentity : ∀ c ∈ call.entity.toList, Text.isWordChar c = true)
    (hcolumns : ∀ column ∈ call.sort.columns, ∀ c ∈ column.name.toList, Text.isWordChar c = true)
    (hexpand : expand call ds = (some e, ds')) (hlen : byteLength e.text < 2 ^ 32) :
    Placeholder.scan e.text = (Placeholder.scan f).map (Placeholder.shifted e.offset) := by
  obtain ⟨start, hstart, stop, rfl, hstop⟩ :=
    ofCall_eq_around (filterOf_eq_some_iff.mpr hfilter) hlone (expand_eq_some hexpand)
  have hplain : start.toList.all Placeholder.isPlain = true := by
    have hfrom := Placeholder.all_isPlain_fromClause hentity
    simp only [List.mem_cons, List.not_mem_nil, or_false] at hstart
    rcases hstart with rfl | rfl | rfl
    · rfl
    · rw [String.toList_append, List.all_append, hfrom]
      decide
    · rw [String.toList_append, List.all_append, hfrom]
      decide
  have htail : Placeholder.IsTail stop := by
    rcases hstop with rfl | ⟨clause, hclause, rfl⟩
    · exact Placeholder.isTail_empty
    · exact Placeholder.isTail_clause hclause hcolumns
  have hmax : byteLength (start ++ f ++ stop) ≤ Text.maxOffset := Nat.le_of_lt_succ hlen
  have hoffset : (around start f stop).offset = byteLength start := by
    refine Text.narrow_of_le (Nat.le_trans ?_ hmax)
    rw [byteLength_append, byteLength_append, Nat.add_assoc]
    exact Nat.le_add_right _ _
  rw [hoffset]
  exact Placeholder.scan_surrounded hplain htail hmax

/-- A quote that is left open takes in the sort clause. What stands in it is no placeholder of the
filter, nor of the expansion. -/
theorem scan_expanded_open :
    expand (notes "note = :note or it's = ?1") [] = (some
      ⟨"FROM Person WHERE note = :note or it's = ?1 ORDER BY name DESC", 18⟩, []) ∧
    Placeholder.scan "note = :note or it's = ?1" = [(.named "note", ⟨7, 12⟩)] ∧
    Placeholder.scan "FROM Person WHERE note = :note or it's = ?1 ORDER BY name DESC" =
      [(.named "note", ⟨25, 30⟩)] := by
  have hexpand : expand (notes "note = :note or it's = ?1") [] = (some
      ⟨"FROM Person WHERE note = :note or it's = ?1 ORDER BY name DESC", 18⟩, []) := by
    decide +kernel
  have hcolumns : ∀ column ∈ (notes "note = :note or it's = ?1").sort.columns,
      ∀ c ∈ column.name.toList, Text.isWordChar c = true := by
    rw [show (notes _).sort.columns = [⟨"name", .descending⟩] from rfl]
    exact List.forall_mem_singleton.mpr (List.all_eq_true.mp rfl)
  have h := scan_expanded ⟨rfl, 'n', by decide, by decide⟩ (by decide)
    (List.all_eq_true.mp rfl) hcolumns hexpand (by decide)
  exact ⟨hexpand, rfl, h⟩

end Expansion

end EntityQuery
