import EntityQuery.Text.Split
/-!
# Dotted paths

A path is a text cut at its dots: `a.b.c` has three segments, and a text without a dot has one.

Results:
* `ofString_ne_nil`: a path has a first segment.
* `ofString_single`: a text without a dot is its only segment.
* `toString_ofString`, `ofString_toString`: the segments joined with dots are the text again, and
  segments without dots are what their text is cut into.
-/
namespace EntityQuery

/-- The segments of a dotted text. -/
abbrev Path := List String

namespace Path

/-- The segments of `s`. -/
def ofString (s : String) : Path := (Text.split (· == '.') s.toList).map String.ofList

/-- The segments with dots between them. -/
def toString (p : Path) : String := String.ofList (Text.join ['.'] (p.map String.toList))

theorem ofString_ne_nil (s : String) : ofString s ≠ [] := by
  simp [ofString, Text.split_ne_nil]

theorem ofString_single {s : String} (h : '.' ∉ s.toList) : ofString s = [s] := by
  have hno : ∀ c ∈ s.toList, (c == '.') = false := fun c hc =>
    beq_false_of_ne fun hdot => h (hdot ▸ hc)
  rw [ofString, Text.split_eq_singleton hno, List.map_singleton, String.ofList_toList]

theorem toString_ofString (s : String) : toString (ofString s) = s := by
  have h : (ofString s).map String.toList = Text.split (· == '.') s.toList := by
    simp [ofString, Function.comp_def]
  rw [toString, h, Text.join_split, String.ofList_toList]

theorem not_mem_of_mem_ofString {s segment : String} (h : segment ∈ ofString s) :
    '.' ∉ segment.toList := by
  obtain ⟨piece, hpiece, rfl⟩ := List.mem_map.mp h
  intro hdot
  rw [String.toList_ofList] at hdot
  cases Text.not_sep_of_mem_split hpiece '.' hdot

theorem ofString_toString {p : Path} (hne : p ≠ []) (h : ∀ segment ∈ p, '.' ∉ segment.toList) :
    ofString (toString p) = p := by
  have hpieces : ∀ piece ∈ p.map String.toList, '.' ∉ piece := by simpa using h
  rw [ofString, toString, String.toList_ofList, Text.split_join (by simpa using hne) hpieces]
  simp [Function.comp_def]

theorem toString_singleton (segment : String) : toString [segment] = segment :=
  String.ofList_toList

theorem toString_cons (segment : String) {p : Path} (hne : p ≠ []) :
    toString (segment :: p) = segment ++ "." ++ toString p := by
  obtain ⟨next, rest, rfl⟩ := List.exists_cons_of_ne_nil hne
  apply String.toList_inj.mp
  simp [toString, Text.join]

/-- The last segment. -/
def lastSegment (s : String) : String := (ofString s).getLastD ""

end Path

end EntityQuery
