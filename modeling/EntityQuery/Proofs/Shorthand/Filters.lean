import Mathlib
import EntityQuery.Shorthand.Expansion
/-!
# Kinds of filters

A filter that is not blank names a query kept elsewhere, or is a lone name, or stands in the
expansion as it is. A lone name has neither a space nor an equals sign in it, so it begins with no
keyword: each of them ends with a space.

Results:
* `expand_eq_some`, `ofCall_eq_ok`, `addSort_eq_ok`: the steps that have led to an expansion.
* `filterOf_eq_some_iff`, `isNamedQuery_iff`, `isSingleIdentifier_iff`: the kinds by their
  characters.
* `startsWithKeyword_eq_false`: what has no space in it begins with no keyword.
* `unsorted_of_lone`, `unsorted_of_not_lone`: what becomes of each kind.
-/
namespace EntityQuery

namespace Text

theorem exists_of_sameIgnoringCase {cs ds : List Char} (h : sameIgnoringCase cs ds = true)
    {c : Char} (hc : c ∈ cs) : ∃ d ∈ ds, d.toLower = c.toLower := by
  have hmem := List.mem_map_of_mem (f := Char.toLower) hc
  rw [sameIgnoringCase_iff.mp h] at hmem
  exact List.mem_map.mp hmem

/-- No other character becomes a space in lower case. -/
theorem eq_space_of_toLower {c : Char} (h : c.toLower = ' ') : c = ' ' := by
  unfold Char.toLower at h
  split at h
  · rename_i hupper
    have hval : (c.val + ('a'.val - 'A'.val)).toNat = 32 := congrArg (fun d : Char => d.toNat) h
    have hge : 65 ≤ c.val.toNat := hupper.1
    have hle : c.val.toNat ≤ 90 := hupper.2
    rw [UInt32.toNat_add, show ('a'.val - 'A'.val).toNat = 32 from rfl] at hval
    omega
  · exact h

end Text

/-- The filter is given and not blank. -/
def ShorthandCall.HasFilter (call : ShorthandCall) (f : String) : Prop :=
  call.filter = some f ∧ ∃ c ∈ f.toList, Text.isBlank c = false

namespace Expansion

/-! ## Steps of an expansion -/

theorem expand_eq_some {call : ShorthandCall} {e : Expansion} {ds ds' : Diagnostics}
    (h : expand call ds = (some e, ds')) : ofCall call = .ok e := by
  unfold expand at h
  split at h
  · rename_i hof
    cases h
    exact hof
  · cases h

theorem ofCall_eq_ok {call : ShorthandCall} {e : Expansion} (h : ofCall call = .ok e) :
    ∃ start, unsorted call = .ok start ∧ addSort call start = .ok e := by
  unfold ofCall at h
  split at h
  · cases h
  split at h
  · cases h
  split at h
  · cases h
  · rename_i start hstart
    exact ⟨start, hstart, h⟩

theorem addSort_eq_ok {call : ShorthandCall} {e e' : Expansion} (h : addSort call e = .ok e') :
    ∃ stop, e' = ⟨e.text ++ stop, e.offset⟩ ∧
      (call.sort.orderByClause? = none ∧ stop = "" ∨
        ∃ clause, call.sort.orderByClause? = some clause ∧ stop = " " ++ clause) := by
  unfold addSort at h
  split at h
  · rename_i hnone
    cases h
    exact ⟨"", by rw [String.append_empty], .inl ⟨hnone, rfl⟩⟩
  · rename_i clause hclause
    split at h
    · cases h
    · cases h
      exact ⟨" " ++ clause, by rw [String.append_assoc], .inr ⟨clause, hclause, rfl⟩⟩

/-! ## Filters -/

theorem filterOf_eq_some_iff {call : ShorthandCall} {f : String} :
    filterOf call = some f ↔ call.HasFilter f := by
  simp [filterOf, ShorthandCall.HasFilter, Option.filter_eq_some_iff, Text.allBlank]

/-- Behind blanks the filter starts with `#`. -/
def IsReference (f : String) : Prop :=
  ∃ blanks rest, f.toList = blanks ++ '#' :: rest ∧ ∀ c ∈ blanks, Text.isBlank c = true

theorem isNamedQuery_iff {f : String} : isNamedQuery f = true ↔ IsReference f := by
  rw [isNamedQuery, beq_iff_eq, Text.trimStart]
  constructor
  · intro h
    obtain ⟨rest, hrest⟩ := List.head?_eq_some_iff.mp h
    refine ⟨f.toList.takeWhile Text.isBlank, rest, ?_, fun c hc => List.mem_takeWhile_imp hc⟩
    rw [← hrest, List.takeWhile_append_dropWhile]
  · rintro ⟨blanks, rest, hf, hblanks⟩
    rw [hf, List.dropWhile_append_of_pos hblanks]
    rfl

/-- The filter has neither a space nor an equals sign in it. -/
def IsLone (f : String) : Prop := ' ' ∉ f.toList ∧ '=' ∉ f.toList

instance (f : String) : Decidable (IsLone f) := inferInstanceAs (Decidable (_ ∧ _))

theorem isSingleIdentifier_iff {f : String} : isSingleIdentifier f = true ↔ IsLone f := by
  simp [isSingleIdentifier, IsLone]

theorem startsWithKeyword_eq_false {f : String} (hf : ' ' ∉ f.toList) (keyword : String)
    (hk : ' ' ∈ keyword.toList) : startsWithKeyword f keyword = false := by
  rw [startsWithKeyword, Bool.eq_false_iff]
  intro h
  simp only [Text.startsIgnoringCase, Bool.and_eq_true] at h
  obtain ⟨d, hd, heq⟩ := Text.exists_of_sameIgnoringCase h.2 hk
  obtain rfl := Text.eq_space_of_toLower heq
  exact hf (List.mem_of_mem_take hd)

/-- A lone name is compared with the only binding. -/
theorem unsorted_of_lone {call : ShorthandCall} {f : String} (hf : filterOf call = some f)
    (hlone : IsLone f) : unsorted call =
      match call.bindings.single? with
      | some p => .ok (around (fromClause call ++ " WHERE ") f (" = " ++ comparedWith p))
      | none =>
        if call.bindings.isEmpty then .error (.missingParameter f)
        else .error (.tooManyParameters f) := by
  have hno : ∀ keyword : String, ' ' ∈ keyword.toList → startsWithKeyword f keyword = false :=
    startsWithKeyword_eq_false hlone.1
  have hquery : ¬ (startsWithKeyword f "from " || startsWithKeyword f "select ") = true := by
    rw [hno "from " (by decide), hno "select " (by decide)]
    decide
  have horder : ¬ startsWithKeyword f "order by " = true := by
    rw [hno "order by " (by decide)]
    decide
  unfold unsorted
  rw [hf]
  exact (if_neg hquery).trans
    ((if_neg horder).trans (if_pos (isSingleIdentifier_iff.mpr hlone)))

/-- Any other filter stands at the end, with at most a generated start before it. -/
theorem unsorted_of_not_lone {call : ShorthandCall} {f : String} (hf : filterOf call = some f)
    (hlone : ¬ IsLone f) : ∃ start ∈ ["", fromClause call ++ " ", fromClause call ++ " WHERE "],
      unsorted call = .ok (around start f "") := by
  have hsingle : isSingleIdentifier f = false := by
    rwa [Bool.eq_false_iff, ne_eq, isSingleIdentifier_iff]
  unfold unsorted
  rw [hf]
  dsimp only
  split
  · exact ⟨"", by simp, by simp [around, byteLength, Text.narrow]⟩
  split
  · exact ⟨fromClause call ++ " ", by simp, rfl⟩
  rw [hsingle, if_neg Bool.false_ne_true]
  exact ⟨fromClause call ++ " WHERE ", by simp, rfl⟩

end Expansion

end EntityQuery
