import Mathlib
import EntityQuery.Text.Offset
/-!
# Boundaries of characters

A position is a boundary if it is the length of a front part of the text. A part of a text has the
boundaries of the whole that lie in it.

Results:
* `isBoundary_iff`: a boundary cuts the text in two.
* `isBoundary_front`, `isBoundary_behind`: boundaries of the whole in its two parts.
* `isSome_splitAtByte`: the text is cut at boundaries only.
* `isBoundary_succ`: one byte behind a boundary is one if the character there has one byte.
-/
namespace EntityQuery.Text

theorem isBoundary_zero (cs : List Char) : isBoundary cs 0 = true := by
  cases cs <;> rfl

/-- Past a character, what is left of the position counts. -/
theorem isBoundary_cons {c : Char} {cs : List Char} {n : Nat} (hn : n ≠ 0) :
    isBoundary (c :: cs) n = (decide (c.utf8Size ≤ n) && isBoundary cs (n - c.utf8Size)) := by
  cases n with
  | zero => exact absurd rfl hn
  | succ n => rfl

/-- Behind a front part a position is a boundary of the rest. -/
theorem isBoundary_behind (before cs : List Char) (n : Nat) :
    isBoundary (before ++ cs) (byteLength before + n) = isBoundary cs n := by
  induction before with
  | nil => simp
  | cons c before ih =>
    have hpos := c.utf8Size_pos
    rw [List.cons_append, byteLength_cons, isBoundary_cons (by omega),
      show c.utf8Size + byteLength before + n - c.utf8Size = byteLength before + n by omega, ih]
    simp only [Bool.and_eq_right_iff_imp, decide_eq_true_eq]
    omega

theorem isBoundary_length (cs : List Char) : isBoundary cs (byteLength cs) = true := by
  have h := isBoundary_behind cs [] 0
  rwa [List.append_nil, Nat.add_zero, isBoundary_zero] at h

theorem isBoundary_iff {cs : List Char} {n : Nat} :
    isBoundary cs n = true ↔ ∃ before after, cs = before ++ after ∧ byteLength before = n := by
  constructor
  · intro h
    induction cs generalizing n with
    | nil =>
      cases n with
      | zero => exact ⟨[], [], rfl, rfl⟩
      | succ n => cases h
    | cons c cs ih =>
      by_cases hn : n = 0
      · exact ⟨[], c :: cs, rfl, hn.symm⟩
      · rw [isBoundary_cons hn, Bool.and_eq_true, decide_eq_true_eq] at h
        obtain ⟨before, after, rfl, hlen⟩ := ih h.2
        refine ⟨c :: before, after, rfl, ?_⟩
        rw [byteLength_cons, hlen]
        omega
  · rintro ⟨before, after, rfl, rfl⟩
    have h := isBoundary_behind before after 0
    rwa [Nat.add_zero, isBoundary_zero] at h

theorem isBoundary_le {cs : List Char} {n : Nat} (h : isBoundary cs n = true) :
    n ≤ byteLength cs := by
  obtain ⟨before, after, rfl, rfl⟩ := isBoundary_iff.mp h
  rw [byteLength_append]
  omega

/-- A boundary that is not behind a front part is one of it. -/
theorem isBoundary_front {front rest : List Char} {n : Nat}
    (h : isBoundary (front ++ rest) n = true) (hn : n ≤ byteLength front) :
    isBoundary front n = true := by
  obtain ⟨before, after, hsplit, rfl⟩ := isBoundary_iff.mp h
  rcases List.append_eq_append_iff.mp hsplit with ⟨more, rfl, -⟩ | ⟨more, rfl, -⟩
  · -- what the cut has beyond the front part is empty
    cases more with
    | nil =>
      rw [List.append_nil]
      exact isBoundary_length front
    | cons c more =>
      have hpos := byteLength_pos c more
      rw [byteLength_append] at hn
      omega
  · exact isBoundary_iff.mpr ⟨before, more, rfl, rfl⟩

theorem isSome_splitAtByte (cs : List Char) (n : Nat) :
    (splitAtByte cs n).isSome = isBoundary cs n := by
  induction cs generalizing n with
  | nil => cases n <;> rfl
  | cons c cs ih =>
    cases n with
    | zero => rfl
    | succ n =>
      rw [splitAtByte, isBoundary]
      by_cases hle : c.utf8Size ≤ n + 1
      · rw [if_pos hle, Option.isSome_map, ih]
        simp [hle]
      · simp [hle]

/-- A position before the end that is a boundary stands before a character. -/
theorem exists_char_of_isBoundary {cs : List Char} {n : Nat} (h : isBoundary cs n = true)
    (hn : n < byteLength cs) : ∃ before c after,
      cs = before ++ c :: after ∧ byteLength before = n := by
  obtain ⟨before, after, rfl, rfl⟩ := isBoundary_iff.mp h
  cases after with
  | nil =>
    rw [List.append_nil] at hn
    omega
  | cons c after => exact ⟨before, c, after, rfl, rfl⟩

/-- The next byte is a boundary if the character before it has no other. -/
theorem isBoundary_succ (before : List Char) (c : Char) (after : List Char) :
    isBoundary (before ++ c :: after) (byteLength before + 1) = true ↔ c.utf8Size = 1 := by
  have hpos := c.utf8Size_pos
  rw [isBoundary_behind, isBoundary_cons (by omega), Bool.and_eq_true, decide_eq_true_eq]
  constructor
  · intro h
    omega
  · intro h
    rw [h]
    exact ⟨Nat.le_refl 1, isBoundary_zero after⟩

end EntityQuery.Text
