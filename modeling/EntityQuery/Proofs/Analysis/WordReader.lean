import Mathlib
import EntityQuery.Proofs.Query.Surroundings
/-!
# The reader of words, character by character

One character takes the reader from one mode to the next, and a word starts at it or not. In the
mode that a text leaves the reader in, it reads on as if nothing stood before: words are found
further on in the same way, and text behind a query adds its own words to those of the query.

Results:
* `wordsFrom_cons`: one step of the reader.
* `wordsFrom_append`: what stands behind a text.
* `unplaced_wordsFrom`: positions aside, a text has the same words everywhere.
-/
namespace EntityQuery

namespace QueryWord

/-! ## One character -/

/-- Whether no word can start behind the character: it belongs to one, or to a placeholder. -/
def holdsOn (c : Char) : Bool := Text.isWordChar c || c == ':' || c == '?'

/-- The mode behind a character. -/
def Mode.after (mode : Mode) (c : Char) : Mode :=
  if c == '\'' then if mode == .quoted then .between else .quoted
  else if mode == .quoted then .quoted
  else if holdsOn c then .within else .between

/-- Whether a word starts at the character. -/
def Mode.startsWord (mode : Mode) (c : Char) : Bool :=
  mode == .between && Text.isWordChar c && !c.isDigit

theorem isWordChar_of_isDigit {c : Char} (h : c.isDigit = true) : Text.isWordChar c = true := by
  rw [Text.isWordChar, Char.isAlphanum, h, Bool.or_true, Bool.true_or, Bool.true_or]

theorem wordsFrom_cons (mode : Mode) (pos : Nat) (c : Char) (rest : List Char) :
    wordsFrom mode pos (c :: rest) =
      (if mode.startsWord c then [wordAt pos c rest] else []) ++
        wordsFrom (mode.after c) (pos + c.utf8Size) rest := by
  rw [wordsFrom]
  by_cases hquote : c = '\''
  · subst hquote
    cases mode <;> rfl
  by_cases hsign : c = ':' ∨ c = '?'
  · rcases hsign with rfl | rfl <;> cases mode <;> rfl
  obtain ⟨hcolon, hmark⟩ := not_or.mp hsign
  cases hdigit : c.isDigit with
  | true =>
    cases mode <;>
      simp [Mode.startsWord, Mode.after, holdsOn, hquote, hdigit, isWordChar_of_isDigit hdigit]
  | false =>
    cases hword : Text.isWordChar c <;> cases mode <;>
      simp [Mode.startsWord, Mode.after, holdsOn, hquote, hcolon, hmark, hword, hdigit]

theorem startsWord_eq_true {mode : Mode} {c : Char} (h : mode.startsWord c = true) :
    mode = .between ∧ Text.isWordChar c = true ∧ c.isDigit = false := by
  simpa [Mode.startsWord, and_assoc] using h

/-! ## Text behind a text -/

section
variable {rest : List Char}

theorem dropWhile_append_of_ended {p : Char → Bool} (cs : List Char)
    (h : ∀ c ∈ rest.head?, p c = false) : (cs ++ rest).dropWhile p = cs.dropWhile p ++ rest := by
  have hwhole := List.takeWhile_append_dropWhile (p := p) (l := cs ++ rest)
  rw [Text.takeWhile_append_of_ended cs h] at hwhole
  refine List.append_cancel_left (hwhole.trans ?_)
  rw [← List.append_assoc, List.takeWhile_append_dropWhile]

/-- Text that opens no call makes no call of a word before it. -/
theorem opensCall_append (cs : List Char) (h : opensCall rest = false) :
    opensCall (cs ++ rest) = opensCall cs := by
  induction cs with
  | nil => exact h
  | cons c cs ih =>
    unfold opensCall Text.trimStart at ih ⊢
    rw [List.cons_append, List.dropWhile_cons, List.dropWhile_cons]
    split
    · exact ih
    · rfl

/-- Text that continues no word and opens no call adds its own words. -/
theorem wordsFrom_append (hended : ∀ c ∈ rest.head?, Text.isWordChar c = false)
    (hcall : opensCall rest = false) (mode : Mode) (pos : Nat) (cs : List Char) :
    wordsFrom mode pos (cs ++ rest) = wordsFrom mode pos cs ++
      wordsFrom (cs.foldl Mode.after mode) (pos + Text.byteLength cs) rest := by
  induction cs generalizing mode pos with
  | nil => rfl
  | cons c cs ih =>
    have hword : wordAt pos c (cs ++ rest) = wordAt pos c cs := by
      rw [wordAt, wordAt, Text.takeWhile_append_of_ended cs hended,
        dropWhile_append_of_ended cs hended, opensCall_append _ hcall]
    rw [List.cons_append, wordsFrom_cons, wordsFrom_cons, ih, hword, Text.byteLength_cons,
      List.foldl_cons, ← Nat.add_assoc, List.append_assoc]

end

/-! ## Positions aside -/

/-- The word without its position. -/
def unplaced (w : QueryWord) : QueryWord := { w with start := 0 }

theorem unplaced_wordsFrom (mode : Mode) (pos pos' : Nat) (cs : List Char) :
    (wordsFrom mode pos cs).map unplaced = (wordsFrom mode pos' cs).map unplaced := by
  induction cs generalizing mode pos pos' with
  | nil => rfl
  | cons c cs ih =>
    rw [wordsFrom_cons, wordsFrom_cons, List.map_append, List.map_append,
      ih _ (pos + c.utf8Size) (pos' + c.utf8Size)]
    split <;> rfl

end QueryWord

end EntityQuery
