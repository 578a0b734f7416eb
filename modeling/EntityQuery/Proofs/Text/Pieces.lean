import Mathlib
import EntityQuery.Text.Split
/-!
# Where the pieces of a text stand

A piece of a text that is cut at separators reaches from one separator, or the start, to the next
one, or the end, and its number among the pieces is the number of separators before it. Everything
follows from one equation: a text is cut at a separator into the pieces on its left and those on its
right.

Results:
* `split_append`: the pieces on both sides of a separator.
* `getElem?_split_iff`: the piece with a number.
* `mem_everyOther_split_iff`: the pieces that an even number of separators precedes.
-/
namespace EntityQuery.Text

/-- `piece` has no separator in it, and what stands next to it on either side is one. -/
structure IsPiece (sep : Char → Bool) (before piece after : List Char) : Prop where
  inside : ∀ c ∈ piece, sep c = false
  started : ∀ c ∈ before.getLast?, sep c = true
  ended : ∀ c ∈ after.head?, sep c = true

variable {sep : Char → Bool}

/-- The pieces of a text are those before and those behind any of its separators. -/
theorem split_append (before : List Char) {d : Char} (hd : sep d = true) (after : List Char) :
    split sep (before ++ d :: after) = split sep before ++ split sep after := by
  induction before with
  | nil => simp [split, hd]
  | cons c before ih =>
    rw [List.cons_append, split, split, ih]
    cases hc : sep c with
    | true => rfl
    | false =>
      obtain ⟨piece, pieces, hsplit⟩ := List.exists_cons_of_ne_nil (split_ne_nil sep before)
      rw [hsplit]
      rfl

theorem length_split (cs : List Char) : (split sep cs).length = cs.countP sep + 1 := by
  induction cs with
  | nil => rfl
  | cons c cs ih =>
    rw [split]
    cases hc : sep c with
    | true => simp [hc, ih]
    | false =>
      obtain ⟨piece, pieces, hsplit⟩ := List.exists_cons_of_ne_nil (split_ne_nil sep cs)
      rw [hsplit] at ih ⊢
      simpa [hc] using ih

/-- The first piece ends at the first separator. -/
theorem split_eq_cons {before piece after : List Char} (h : IsPiece sep before piece after) :
    ∃ pieces, split sep (piece ++ after) = piece :: pieces := by
  cases after with
  | nil => exact ⟨[], by rw [List.append_nil, split_eq_singleton h.inside]⟩
  | cons d after =>
    have hd : sep d = true := h.ended d rfl
    exact ⟨split sep after, by rw [split_append piece hd, split_eq_singleton h.inside]; rfl⟩

/-- A piece has as many separators before it as pieces. -/
theorem IsPiece.getElem?_split {before piece after : List Char}
    (h : IsPiece sep before piece after) :
    (split sep (before ++ piece ++ after))[before.countP sep]? = some piece := by
  obtain ⟨pieces, hpieces⟩ := split_eq_cons h
  rw [List.append_assoc]
  rcases List.eq_nil_or_concat before with rfl | ⟨front, d, rfl⟩
  · rw [List.nil_append, hpieces]
    rfl
  · have hd : sep d = true := h.started d (by simp)
    have hcount : (front.concat d).countP sep = (split sep front).length := by
      rw [length_split, List.concat_eq_append, List.countP_append, List.countP_singleton, hd,
        if_pos rfl]
    rw [hcount, List.concat_eq_append, List.append_assoc, List.singleton_append,
      split_append front hd, List.getElem?_append_right (Nat.le_refl _), Nat.sub_self, hpieces]
    rfl

/-- Every piece stands somewhere. By induction on the text, whose first character is a separator of
its own or belongs to the first piece. -/
theorem exists_of_getElem?_split {cs piece : List Char} {i : Nat}
    (h : (split sep cs)[i]? = some piece) :
    ∃ before after, cs = before ++ piece ++ after ∧ IsPiece sep before piece after ∧
      before.countP sep = i := by
  induction cs generalizing i piece with
  | nil =>
    cases i with
    | zero =>
      cases h
      exact ⟨[], [], rfl, ⟨by simp, by simp, by simp⟩, rfl⟩
    | succ i => cases h
  | cons c cs ih =>
    rw [split] at h
    cases hc : sep c with
    | true =>
      rw [hc, if_pos rfl] at h
      cases i with
      | zero =>
        cases h
        exact ⟨[], c :: cs, rfl, ⟨by simp, by simp, by simp [hc]⟩, rfl⟩
      | succ i =>
        obtain ⟨before, after, rfl, hpiece, hcount⟩ := ih h
        refine ⟨c :: before, after, rfl, ⟨hpiece.inside, ?_, hpiece.ended⟩, ?_⟩
        · cases before with
          | nil => simp [hc]
          | cons d before => simpa using hpiece.started
        · rw [List.countP_cons_of_pos hc, hcount]
    | false =>
      obtain ⟨first, pieces, hsplit⟩ := List.exists_cons_of_ne_nil (split_ne_nil sep cs)
      rw [hc, hsplit] at h
      rw [hsplit] at ih
      cases i with
      | zero =>
        obtain ⟨before, after, hcs, hpiece, hcount⟩ := ih (i := 0) rfl
        -- nothing stands before the first piece
        obtain rfl : before = [] := by
          rcases List.eq_nil_or_concat before with hnil | ⟨front, d, rfl⟩
          · exact hnil
          · have hd : sep d = true := hpiece.started d (by simp)
            simp [hd] at hcount
        cases h
        exact ⟨[], after, by rw [hcs]; rfl,
          ⟨List.forall_mem_cons.mpr ⟨hc, hpiece.inside⟩, hpiece.started, hpiece.ended⟩, rfl⟩
      | succ i =>
        obtain ⟨before, after, rfl, hpiece, hcount⟩ := ih (i := i + 1) h
        obtain ⟨d, before, rfl⟩ : ∃ d rest, before = d :: rest :=
          List.exists_cons_of_ne_nil (by rintro rfl; cases hcount)
        refine ⟨c :: d :: before, after, rfl,
          ⟨hpiece.inside, by simpa using hpiece.started, hpiece.ended⟩, ?_⟩
        rw [List.countP_cons_of_neg (by simp [hc]), hcount]

/-- The piece with a number is the one that so many separators precede. -/
theorem getElem?_split_iff {cs piece : List Char} {i : Nat} :
    (split sep cs)[i]? = some piece ↔
      ∃ before after, cs = before ++ piece ++ after ∧ IsPiece sep before piece after ∧
        before.countP sep = i := by
  refine ⟨exists_of_getElem?_split, ?_⟩
  rintro ⟨before, after, rfl, hpiece, rfl⟩
  exact hpiece.getElem?_split

theorem mem_everyOther_iff {α : Type} {items : List α} {a : α} :
    a ∈ everyOther items ↔ ∃ i : Nat, Even i ∧ items[i]? = some a := by
  fun_induction everyOther items with
  | case1 => simp
  | case2 b =>
    constructor
    · intro h
      exact ⟨0, Even.zero, by rw [List.mem_singleton.mp h]; rfl⟩
    · rintro ⟨i, -, h⟩
      exact List.mem_of_getElem? h
  | case3 b c rest ih =>
    rw [List.mem_cons, ih]
    constructor
    · rintro (rfl | ⟨i, heven, h⟩)
      · exact ⟨0, Even.zero, rfl⟩
      · exact ⟨i + 2, heven.add even_two, h⟩
    · rintro ⟨i, heven, h⟩
      match i with
      | 0 => exact .inl (Option.some.inj h).symm
      | 1 => exact absurd heven (by decide)
      | i + 2 => exact .inr ⟨i, (Nat.even_add.mp heven).mpr even_two, h⟩

/-- Every second piece has an even number of separators before it. -/
theorem mem_everyOther_split_iff {cs piece : List Char} :
    piece ∈ everyOther (split sep cs) ↔
      ∃ before after, cs = before ++ piece ++ after ∧ IsPiece sep before piece after ∧
        Even (before.countP sep) := by
  simp only [mem_everyOther_iff, getElem?_split_iff]
  constructor
  · rintro ⟨_, heven, before, after, hcs, hpiece, rfl⟩
    exact ⟨before, after, hcs, hpiece, heven⟩
  · rintro ⟨before, after, hcs, hpiece, heven⟩
    exact ⟨_, heven, before, after, hcs, hpiece, rfl⟩

end EntityQuery.Text
