import Mathlib
import EntityQuery.Proofs.Text.Pieces
import EntityQuery.Shorthand.Expansion
/-!
# Texts that order their results

A text orders its results if the words `order` and `by` follow each other outside of quotes. Outside
is every stretch between quotes that an even number of them precedes, a word is a run of word
characters that goes no further on either side, and between two words that follow each other there
are characters of no word only.

Results:
* `wordsOf_append`: the words on both sides of a character that belongs to none.
* `Neighbours.wordsOf_eq`, `exists_neighbours`: words are neighbours in the text where they follow
  each other in the list.
* `isOrdered_iff`: what is looked for in a text is there.
-/
namespace EntityQuery

namespace Expansion

/-! ## Words -/

/-- The characters that belong to no word. -/
def between (c : Char) : Bool := !Text.isWordChar c

/-- A word stands where it is bounded by characters of no word. -/
structure IsWord (before word after : List Char) : Prop extends
    Text.IsPiece between before word after where
  ne_nil : word ≠ []

theorem wordsOf_eq_filter (cs : List Char) :
    wordsOf cs = (Text.split between cs).filter (!·.isEmpty) := rfl

theorem wordsOf_append (before : List Char) {d : Char} (hd : between d = true)
    (after : List Char) : wordsOf (before ++ d :: after) = wordsOf before ++ wordsOf after := by
  simp only [wordsOf_eq_filter, Text.split_append before hd, List.filter_append]

theorem wordsOf_cons {d : Char} (hd : between d = true) (cs : List Char) :
    wordsOf (d :: cs) = wordsOf cs := wordsOf_append [] hd cs

/-- Where no word goes on, the words of two parts are those of the whole. -/
theorem wordsOf_append_of_ended {before : List Char}
    (h : ∀ c ∈ before.getLast?, between c = true) (rest : List Char) :
    wordsOf (before ++ rest) = wordsOf before ++ wordsOf rest := by
  rcases List.eq_nil_or_concat before with rfl | ⟨front, d, rfl⟩
  · rfl
  · have hd : between d = true := h d (by simp)
    rw [List.concat_eq_append, List.append_assoc, List.singleton_append, wordsOf_append front hd,
      wordsOf_append front hd]
    exact congrArg (· ++ wordsOf rest) (List.append_nil _).symm

theorem wordsOf_gap {gap : List Char} (h : ∀ c ∈ gap, between c = true) : wordsOf gap = [] := by
  induction gap with
  | nil => rfl
  | cons d gap ih =>
    rw [wordsOf_cons (h d List.mem_cons_self)]
    exact ih fun c hc => h c (List.mem_cons_of_mem d hc)

/-- What stands before a word, the word itself and what stands behind it have the words of the
whole. -/
theorem IsWord.wordsOf_eq {before word after : List Char} (h : IsWord before word after) :
    wordsOf (before ++ word ++ after) = wordsOf before ++ word :: wordsOf after := by
  have hone : wordsOf word = [word] := by
    rw [wordsOf_eq_filter, Text.split_eq_singleton h.inside]
    simp [h.ne_nil]
  have hfirst : wordsOf (word ++ after) = word :: wordsOf after := by
    cases after with
    | nil =>
      rw [List.append_nil, hone]
      rfl
    | cons d after =>
      have hd : between d = true := h.ended d rfl
      rw [wordsOf_append word hd, hone, wordsOf_cons hd]
      rfl
  rw [List.append_assoc, wordsOf_append_of_ended h.started, hfirst]

/-- A character of a word starts one, which goes as far as such characters do. -/
theorem exists_isWord_cons {c : Char} (hc : between c = false) (cs : List Char) :
    ∃ word after, c :: cs = word ++ after ∧ IsWord [] word after := by
  refine ⟨(c :: cs).takeWhile Text.isWordChar, (c :: cs).dropWhile Text.isWordChar,
    List.takeWhile_append_dropWhile.symm, ⟨fun d hd => ?_, by simp, fun d hd => ?_⟩, ?_⟩
  · simpa [between] using List.mem_takeWhile_imp hd
  · have hnot := List.head?_dropWhile_not Text.isWordChar (c :: cs)
    rw [Option.mem_def.mp hd] at hnot
    simpa [between] using hnot
  · rw [List.takeWhile_cons_of_pos (by simpa [between] using hc)]
    exact List.cons_ne_nil _ _

/-- The first word of a text stands behind characters of no word. -/
theorem exists_of_wordsOf_eq_cons {cs word : List Char} {words : List (List Char)}
    (h : wordsOf cs = word :: words) : ∃ gap after, cs = gap ++ word ++ after ∧
      IsWord gap word after ∧ (∀ c ∈ gap, between c = true) ∧ wordsOf after = words := by
  induction cs with
  | nil => cases h
  | cons c cs ih =>
    cases hc : between c with
    | true =>
      rw [wordsOf_cons hc] at h
      obtain ⟨gap, after, rfl, hword, hgap, hafter⟩ := ih h
      have hall : ∀ d ∈ c :: gap, between d = true := List.forall_mem_cons.mpr ⟨hc, hgap⟩
      exact ⟨c :: gap, after, rfl, ⟨⟨hword.inside,
        fun d hd => hall d (List.mem_of_getLast? hd), hword.ended⟩, hword.ne_nil⟩, hall, hafter⟩
    | false =>
      obtain ⟨first, after, hcs, hfirst⟩ := exists_isWord_cons hc cs
      have hwords := hfirst.wordsOf_eq
      rw [List.nil_append, ← hcs, h] at hwords
      obtain ⟨rfl, rfl⟩ := List.cons.inj hwords
      exact ⟨[], after, hcs, hfirst, by simp, rfl⟩

/-! ## Neighbours -/

/-- Something stands between two words. -/
theorem IsWord.gap_ne_nil {before word gap next stop : List Char}
    (h : IsWord before word (gap ++ next ++ stop)) (hnext : IsWord gap next stop) : gap ≠ [] := by
  rintro rfl
  obtain ⟨c, next, rfl⟩ := List.exists_cons_of_ne_nil hnext.ne_nil
  have hbetween : between c = true := h.ended c rfl
  rw [hnext.inside c List.mem_cons_self] at hbetween
  cases hbetween

/-- What stands before the bound of a word does not matter. -/
theorem IsWord.append_left {gap word after : List Char} (h : IsWord gap word after)
    (hne : gap ≠ []) (front : List Char) : IsWord (front ++ gap) word after :=
  ⟨⟨h.inside, by rw [List.getLast?_append_of_ne_nil front hne]; exact h.started, h.ended⟩, h.ne_nil⟩

/-- Two words of a text with characters of no word between them. -/
structure Neighbours (start one gap two stop : List Char) : Prop where
  first : IsWord start one (gap ++ two ++ stop)
  second : IsWord (start ++ one ++ gap) two stop
  apart : ∀ c ∈ gap, between c = true

theorem Neighbours.wordsOf_eq {start one gap two stop : List Char}
    (h : Neighbours start one gap two stop) :
    wordsOf (start ++ one ++ gap ++ two ++ stop) =
      wordsOf start ++ one :: two :: wordsOf stop := by
  have htwo : IsWord gap two stop :=
    ⟨⟨h.second.inside, fun c hc => h.apart c (List.mem_of_getLast? hc), h.second.ended⟩,
      h.second.ne_nil⟩
  have hwords := h.first.wordsOf_eq
  rw [htwo.wordsOf_eq, wordsOf_gap h.apart, List.nil_append] at hwords
  simpa only [List.append_assoc] using hwords

/-- Two words that follow each other in the list are neighbours in the text. By induction on the
words before them. -/
theorem exists_neighbours {cs one two : List Char} {before after : List (List Char)}
    (h : wordsOf cs = before ++ one :: two :: after) : ∃ start gap stop,
      cs = start ++ one ++ gap ++ two ++ stop ∧ Neighbours start one gap two stop := by
  induction before generalizing cs with
  | nil =>
    obtain ⟨start, rest, rfl, hone, -, hrest⟩ := exists_of_wordsOf_eq_cons h
    obtain ⟨gap, stop, rfl, htwo, hgap, -⟩ := exists_of_wordsOf_eq_cons hrest
    have hne := hone.gap_ne_nil htwo
    exact ⟨start, gap, stop, by simp only [List.append_assoc], hone, htwo.append_left hne _, hgap⟩
  | cons word before ih =>
    obtain ⟨front, rest, rfl, hword, -, hrest⟩ := exists_of_wordsOf_eq_cons h
    obtain ⟨start, gap, stop, rfl, hnear⟩ := ih hrest
    have hstart : start ≠ [] :=
      IsWord.gap_ne_nil (by simpa only [List.append_assoc] using hword) hnear.first
    have hgap : start ++ one ++ gap ≠ [] := by simp [hstart]
    refine ⟨front ++ word ++ start, gap, stop, by simp only [List.append_assoc],
      hnear.first.append_left hstart _, ?_, hnear.apart⟩
    simpa only [List.append_assoc] using hnear.second.append_left hgap (front ++ word)

/-! ## The clause -/

theorem orderThenBy_iff (words : List (List Char)) : orderThenBy words = true ↔
    ∃ before one two after, words = before ++ one :: two :: after ∧
      one.map Char.toLower = "order".toList ∧ two.map Char.toLower = "by".toList := by
  induction words with
  | nil => simp [orderThenBy]
  | cons one rest ih =>
    cases rest with
    | nil => simp [orderThenBy, List.cons_eq_append_iff]
    | cons two rest =>
      rw [orderThenBy, Bool.or_eq_true, Bool.and_eq_true, ih, Text.sameIgnoringCase_iff,
        Text.sameIgnoringCase_iff]
      constructor
      · rintro (⟨hone, htwo⟩ | ⟨before, one', two', after, hrest, hwords⟩)
        · exact ⟨[], one, two, rest, rfl, hone, htwo⟩
        · exact ⟨one :: before, one', two', after, by rw [hrest]; rfl, hwords⟩
      · rintro ⟨before, one', two', after, hwords, hone, htwo⟩
        cases before with
        | nil =>
          cases hwords
          exact .inl ⟨hone, htwo⟩
        | cons word before =>
          obtain ⟨-, hrest⟩ := List.cons.inj hwords
          exact .inr ⟨before, one', two', after, hrest, hone, htwo⟩

/-- The words `order` and `by`, in any case, are neighbours in the text. -/
def NamesOrder (text : List Char) : Prop :=
  ∃ start one gap two stop, text = start ++ one ++ gap ++ two ++ stop ∧
    Neighbours start one gap two stop ∧
    one.map Char.toLower = "order".toList ∧ two.map Char.toLower = "by".toList

/-- They are neighbours in a stretch between quotes that an even number of quotes precedes. -/
def HasOrderBy (text : List Char) : Prop :=
  ∃ before stretch after, text = before ++ stretch ++ after ∧
    Text.IsPiece (· == '\'') before stretch after ∧ Even (before.count '\'') ∧ NamesOrder stretch

theorem orderThenBy_wordsOf_iff (stretch : List Char) :
    orderThenBy (wordsOf stretch) = true ↔ NamesOrder stretch := by
  rw [orderThenBy_iff]
  constructor
  · rintro ⟨before, one, two, after, hwords, hone, htwo⟩
    obtain ⟨start, gap, stop, hstretch, hnear⟩ := exists_neighbours hwords
    exact ⟨start, one, gap, two, stop, hstretch, hnear, hone, htwo⟩
  · rintro ⟨start, one, gap, two, stop, rfl, hnear, hone, htwo⟩
    exact ⟨_, one, two, _, hnear.wordsOf_eq, hone, htwo⟩

/-- A text is said to order its results just if the clause stands outside of quotes. -/
theorem isOrdered_iff (text : String) : isOrdered text = true ↔ HasOrderBy text.toList := by
  simp only [isOrdered, List.any_eq_true, Text.mem_everyOther_split_iff, orderThenBy_wordsOf_iff]
  constructor
  · rintro ⟨stretch, ⟨before, after, htext, hpiece, heven⟩, hnear⟩
    exact ⟨before, stretch, after, htext, hpiece, heven, hnear⟩
  · rintro ⟨before, stretch, after, htext, hpiece, heven, hnear⟩
    exact ⟨stretch, ⟨before, after, htext, hpiece, heven⟩, hnear⟩

end Expansion

end EntityQuery
