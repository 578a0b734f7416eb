import Mathlib
import EntityQuery.Proofs.Analysis.Words
import EntityQuery.Proofs.Shorthand.Filters
/-!
# Filters that are one word

A filter that is one word is no keyword, no named query and not blank, so it is compared with the
only binding of the call.

Results:
* `isBlank_of_isWordChar`: no word character is blank.
* `ofCall_run`: the expansion of a call with one word for a filter.
* `ofCall_single`: the same, for a name and a positional binding.
-/
namespace EntityQuery

namespace Text

theorem isWordChar_toNat {c : Char} (h : isWordChar c = true) :
    (65 ≤ c.toNat ∧ c.toNat ≤ 90) ∨ (97 ≤ c.toNat ∧ c.toNat ≤ 122) ∨
      (48 ≤ c.toNat ∧ c.toNat ≤ 57) ∨ c.toNat = 95 ∨ c.toNat = 46 := by
  simp only [isWordChar, Char.isAlphanum, Char.isAlpha, Char.isUpper, Char.isLower, Char.isDigit,
    Bool.or_eq_true, Bool.and_eq_true, decide_eq_true_eq, beq_iff_eq, UInt32.le_iff_toNat_le,
    ge_iff_le] at h
  rcases h with (((h | h) | h) | rfl) | rfl
  · exact .inl h
  · exact .inr (.inl h)
  · exact .inr (.inr (.inl h))
  · exact .inr (.inr (.inr (.inl rfl)))
  · exact .inr (.inr (.inr (.inr rfl)))

theorem isBlank_of_isWordChar {c : Char} (h : isWordChar c = true) : isBlank c = false := by
  have hc := isWordChar_toNat h
  simp only [isBlank, blankCodes, List.contains_eq_mem, List.mem_cons, List.not_mem_nil, or_false,
    decide_eq_false_iff_not]
  omega

end Text

namespace Expansion

section
variable {p : String} (hp : QueryWord.IsRun p)
include hp

theorem trimStart_of_isRun : Text.trimStart p.toList = p.toList := by
  obtain ⟨c, rest, hcs⟩ := List.exists_cons_of_ne_nil hp.ne_nil
  have hblank := Text.isBlank_of_isWordChar (hp.isWordChar c (by simp [hcs]))
  rw [hcs, Text.trimStart, List.dropWhile_cons_of_neg (by simp [hblank])]

theorem not_allBlank_of_isRun : Text.allBlank p.toList = false := by
  rw [Bool.eq_false_iff]
  intro h
  have hnil := (Text.trimStart_eq_nil_iff p.toList).mpr h
  rw [trimStart_of_isRun hp] at hnil
  exact hp.ne_nil hnil

theorem not_isNamedQuery_of_isRun : isNamedQuery p = false := by
  obtain ⟨c, rest, hcs⟩ := List.exists_cons_of_ne_nil hp.ne_nil
  have hne : c ≠ '#' :=
    QueryWord.ne_of_isWordChar (hp.isWordChar c (by simp [hcs])) (by decide)
  rw [isNamedQuery, trimStart_of_isRun hp, hcs]
  simpa using hne

theorem isLone_of_isRun : IsLone p := by
  have hout : ∀ c, Text.isWordChar c = false → c ∉ p.toList := fun c hc hmem => by
    rw [hp.isWordChar c hmem] at hc
    cases hc
  exact ⟨hout ' ' (by decide), hout '=' (by decide)⟩

end

/-- A supported call with one word for a filter compares the word with its only binding. -/
theorem ofCall_run (call : ShorthandCall) {p : String} (hp : QueryWord.IsRun p) {b : Placeholder}
    (hverb : call.verb.isSupported = true) (hfilter : call.filter = some p)
    (hbindings : call.bindings.toList = [b]) (hsort : call.sort = []) :
    ofCall call = .ok (around (fromClause call ++ " WHERE ") p (" = " ++ comparedWith b)) := by
  have hf : filterOf call = some p := by
    simp [filterOf, hfilter, not_allBlank_of_isRun hp]
  have hsingle : call.bindings.single? = some b := by
    rw [Bindings.single?, hbindings]
  unfold ofCall
  rw [unsorted_of_lone hf (isLone_of_isRun hp), hf, hsingle]
  simp only [hverb, Option.any_some, not_isNamedQuery_of_isRun hp, Bool.not_true,
    Bool.false_eq_true, if_false, addSort, hsort]
  rfl

/-- A supported call on `n` with the name `p` for a filter and one positional binding. -/
theorem ofCall_single (call : ShorthandCall) {p : String} (hp : QueryWord.IsName p)
    (hverb : call.verb.isSupported = true) (hfilter : call.filter = some p)
    (hbindings : call.bindings.toList = [.positional 1]) (hsort : call.sort = []) :
    ofCall call = .ok ⟨QueryWord.singleQuery call.verb.isCount call.entity p,
      Text.narrow (byteLength (QueryWord.singleStart call.verb.isCount call.entity))⟩ :=
  ofCall_run call hp.isRun hverb hfilter hbindings hsort

end Expansion

end EntityQuery
