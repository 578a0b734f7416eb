import Mathlib
import EntityQuery.Diagnostic.Snippet
import EntityQuery.Proofs.Diagnostic.MovedRanges
import EntityQuery.Proofs.Text.Boundaries
/-!
# Underlined ranges and the characters they cut

What is underlined should start and stop at boundaries of the characters of the source. A range is
cut off at the end of the source, and an empty one grows by a byte. The byte is not always a
character: before a character of several bytes the underlined range ends inside it.

Results:
* `underlined_order`: what is underlined lies in the source.
* `isBoundary_underlined_start`, `isBoundary_underlined_stop`: it starts at a boundary, and stops at
  one unless the range is empty before a character of several bytes.
* `generated_beforeWide`: when a range that was moved from generated text cuts a character.
* `underlined_boundaries`: when an underlined range cuts a character.
-/
namespace EntityQuery

/-- A range may start or stop here: between two characters of the source, or beyond its end. -/
def Text.IsPlace (source : List Char) (n : Nat) : Prop :=
  isBoundary source n = true ∨ byteLength source < n

instance (source : List Char) (n : Nat) : Decidable (Text.IsPlace source n) :=
  inferInstanceAs (Decidable (_ ∨ _))

/-- The range is empty, and the character behind it has several bytes. -/
def TextRange.BeforeWide (range : TextRange) (source : List Char) : Prop :=
  range.stop ≤ range.start ∧ ∃ before c after,
    source = before ++ c :: after ∧ Text.byteLength before = range.start ∧ 1 < c.utf8Size

variable {source : List Char} {range : TextRange}

/-! ## What is underlined -/

/-- Cut off at the end of the source, every place is a boundary. -/
theorem Text.IsPlace.isBoundary_min {n : Nat} (h : IsPlace source n) :
    isBoundary source (min n (byteLength source)) = true := by
  rcases h with h | h
  · rwa [Nat.min_eq_left (isBoundary_le h)]
  · rw [Nat.min_eq_right (Nat.le_of_lt h)]
    exact isBoundary_length source

theorem underlined_start (range : TextRange) (length : Nat) :
    (underlined range length).1 = min range.start length := by
  unfold underlined
  dsimp only
  split <;> rfl

theorem underlined_stop (range : TextRange) (length : Nat) :
    (underlined range length).2 =
      if min range.start length < min range.stop length then min range.stop length
      else min (min range.start length + 1) length := by
  unfold underlined
  dsimp only
  split <;> rfl

theorem underlined_order (range : TextRange) (length : Nat) :
    (underlined range length).1 ≤ (underlined range length).2 ∧
      (underlined range length).2 ≤ length := by
  rw [underlined_start, underlined_stop]
  split <;> omega

theorem isBoundary_underlined_start (hstart : Text.IsPlace source range.start) :
    Text.isBoundary source (underlined range (Text.byteLength source)).1 = true := by
  rw [underlined_start]
  exact hstart.isBoundary_min

/-- An empty range is told by the character behind it. -/
theorem TextRange.beforeWide_iff {before after : List Char} {c : Char}
    (hempty : range.stop ≤ range.start) (hlen : Text.byteLength before = range.start) :
    range.BeforeWide (before ++ c :: after) ↔ 1 < c.utf8Size := by
  constructor
  · rintro ⟨-, before', c', after', hsame, hlen', hwide⟩
    by_contra hnarrow
    have hpos := c.utf8Size_pos
    have hone := (Text.isBoundary_succ before c after).mpr (by omega)
    rw [hsame, hlen, ← hlen', Text.isBoundary_succ] at hone
    omega
  · intro hwide
    exact ⟨hempty, before, c, after, rfl, hlen, hwide⟩

/-- Only where an empty range grows does it matter which character stands there. -/
theorem isBoundary_underlined_stop (hstart : Text.IsPlace source range.start)
    (hstop : Text.IsPlace source range.stop) :
    Text.isBoundary source (underlined range (Text.byteLength source)).2 = true ↔
      ¬ range.BeforeWide source := by
  rw [underlined_stop]
  by_cases hlt : min range.start (Text.byteLength source) < min range.stop (Text.byteLength source)
  · rw [if_pos hlt]
    refine iff_of_true hstop.isBoundary_min fun hwide => ?_
    have hempty := hwide.1
    omega
  rw [if_neg hlt]
  by_cases hend : range.start < Text.byteLength source
  · -- the range grows into the character behind it
    have hgrown : min (min range.start (Text.byteLength source) + 1) (Text.byteLength source) =
        range.start + 1 := by omega
    have hboundary : Text.isBoundary source range.start = true := hstart.resolve_right (by omega)
    obtain ⟨before, c, after, rfl, hlen⟩ := Text.exists_char_of_isBoundary hboundary hend
    have hpos := c.utf8Size_pos
    rw [hgrown, TextRange.beforeWide_iff (by omega) hlen, ← hlen, Text.isBoundary_succ]
    omega
  · have hlast : min (min range.start (Text.byteLength source) + 1) (Text.byteLength source) =
        Text.byteLength source := by omega
    rw [hlast]
    refine iff_of_true (Text.isBoundary_length source) ?_
    rintro ⟨-, before, c, after, rfl, hlen, -⟩
    have hpos := Text.byteLength_pos c after
    rw [Text.byteLength_append] at hend
    omega

/-! ## Which ranges cut a character -/

/-- A range of generated text is moved to the start of the literal's contents, where it is empty. So
it cuts a character if the contents start with one of several bytes. -/
theorem generated_beforeWide {literalStart offset : Nat} {span : TextRange}
    (horder : span.start ≤ span.stop) (hgenerated : span.stop ≤ offset)
    (hfits : literalStart + 1 ≤ Text.maxOffset) {before after : List Char} {c : Char}
    (hlen : Text.byteLength before = literalStart + 1) :
    (remap literalStart span offset).BeforeWide (before ++ c :: after) ↔ 1 < c.utf8Size := by
  have hmoved : remap literalStart span offset = .empty (literalStart + 1) := by
    rw [remap_of_order literalStart offset horder, Nat.sub_eq_zero_of_le hgenerated,
      Nat.sub_eq_zero_of_le (Nat.le_trans horder hgenerated), Nat.add_zero,
      Text.narrow_of_le hfits]
    rfl
  rw [hmoved]
  exact TextRange.beforeWide_iff (Nat.le_refl _) hlen

/-- What is underlined lies in the source and starts at a boundary of its characters. It stops at
one, too, unless the range is empty and stands before a character of several bytes. -/
theorem underlined_boundaries (hstart : Text.IsPlace source range.start)
    (hstop : Text.IsPlace source range.stop) :
    let marked := underlined range (Text.byteLength source)
    marked.1 ≤ marked.2 ∧ marked.2 ≤ Text.byteLength source ∧
    Text.isBoundary source marked.1 = true ∧
    (Text.isBoundary source marked.2 = true ↔ ¬ range.BeforeWide source) := by
  obtain ⟨horder, hend⟩ := underlined_order range (Text.byteLength source)
  exact ⟨horder, hend, isBoundary_underlined_start hstart,
    isBoundary_underlined_stop hstart hstop⟩

/-- A quoted letter of two bytes, underlined as a whole. -/
theorem underlined_boundaries_letter :
    Text.IsPlace "'é'".toList 1 ∧ Text.IsPlace "'é'".toList 3 ∧
    underlined ⟨1, 3⟩ 4 = (1, 3) ∧ Text.isBoundary "'é'".toList 3 = true := by
  have hstart : Text.IsPlace "'é'".toList (TextRange.mk 1 3).start := by decide
  have hstop : Text.IsPlace "'é'".toList (TextRange.mk 1 3).stop := by decide
  obtain ⟨-, -, -, hboundary⟩ := underlined_boundaries hstart hstop
  refine ⟨hstart, hstop, rfl, hboundary.mpr ?_⟩
  rintro ⟨hempty, -⟩
  exact absurd hempty (by decide)

/-- The same letter, at the start of a literal, and a finding on text generated before it. -/
theorem underlined_boundaries_fail :
    remap 0 ⟨5, 11⟩ 18 = ⟨1, 1⟩ ∧ Text.IsPlace "'é'".toList 1 ∧
    underlined ⟨1, 1⟩ (byteLength "'é'") = (1, 2) ∧ Text.isBoundary "'é'".toList 2 = false := by
  decide

end EntityQuery
