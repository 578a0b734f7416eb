import Mathlib
import EntityQuery.Analysis.QueryWord
import EntityQuery.Proofs.Text.Bytes
/-!
# Words and what surrounds them

A name is a word that starts like an identifier and is no keyword. Between characters that belong to
no word, a name is read as one word, at its position.

Results:
* `wordsFrom_word`: a run of word characters gives one word.
* `wordsFrom_single`, `wordsFrom_count`: the words of a generated query with one condition.
-/
namespace EntityQuery

namespace QueryWord

/-- A letter or underscore with letters, digits, underscores and dots behind it. -/
def IsWordText (cs : List Char) : Prop :=
  ∃ c rest, cs = c :: rest ∧ Text.isIdentStart c = true ∧ ∀ d ∈ rest, Text.isWordChar d = true

/-- A word that is no keyword. -/
structure IsName (s : String) : Prop where
  word : IsWordText s.toList
  notKeyword : ∀ k ∈ keywords, Text.sameIgnoringCase k.toList s.toList = false

/-- At least one letter, digit, underscore or dot, and nothing else. -/
structure IsRun (s : String) : Prop where
  ne_nil : s.toList ≠ []
  isWordChar : ∀ c ∈ s.toList, Text.isWordChar c = true

theorem isRun_of_all {s : String} (hne : s ≠ "") (hall : s.toList.all Text.isWordChar = true) :
    IsRun s :=
  ⟨fun h => hne (String.toList_inj.mp h), List.all_eq_true.mp hall⟩

theorem isWordChar_of_isIdentStart {c : Char} (h : Text.isIdentStart c = true) :
    Text.isWordChar c = true := by
  unfold Text.isIdentStart at h
  unfold Text.isWordChar Char.isAlphanum
  simp only [Bool.or_eq_true] at h ⊢
  tauto

theorem isDigit_of_isIdentStart {c : Char} (h : Text.isIdentStart c = true) :
    c.isDigit = false := by
  unfold Text.isIdentStart at h
  rcases (Bool.or_eq_true _ _).mp h with h | h
  · simp only [Char.isAlpha, Char.isUpper, Char.isLower, Bool.or_eq_true, Bool.and_eq_true,
      decide_eq_true_eq, UInt32.le_iff_toNat_le, ge_iff_le] at h
    simp only [Char.isDigit, Bool.and_eq_false_iff, decide_eq_false_iff_not,
      UInt32.le_iff_toNat_le, ge_iff_le]
    change (65 ≤ c.toNat ∧ c.toNat ≤ 90) ∨ (97 ≤ c.toNat ∧ c.toNat ≤ 122) at h
    change ¬ 48 ≤ c.toNat ∨ ¬ c.toNat ≤ 57
    omega
  · rw [beq_iff_eq.mp h]
    rfl

theorem ne_of_isWordChar {c d : Char} (h : Text.isWordChar c = true)
    (hd : Text.isWordChar d = false) : c ≠ d := by
  rintro rfl
  rw [h] at hd
  cases hd

theorem IsWordText.isWordChar {cs : List Char} (h : IsWordText cs) :
    ∀ c ∈ cs, Text.isWordChar c = true := by
  obtain ⟨c, rest, rfl, hc, hrest⟩ := h
  intro d hd
  rcases List.mem_cons.mp hd with rfl | hd
  · exact isWordChar_of_isIdentStart hc
  · exact hrest d hd

theorem IsName.isRun {s : String} (h : IsName s) : IsRun s := by
  obtain ⟨c, rest, hcs, -⟩ := h.word
  exact ⟨by simp [hcs], h.word.isWordChar⟩

/-! ## Reading a word -/

/-- The rest of a word that was taken adds no word. -/
theorem wordsFrom_within {cs : List Char} (hcs : ∀ c ∈ cs, Text.isWordChar c = true) (pos : Nat)
    (rest : List Char) :
    wordsFrom .within pos (cs ++ rest) = wordsFrom .within (pos + Text.byteLength cs) rest := by
  induction cs generalizing pos with
  | nil => rfl
  | cons c cs ih =>
    rw [List.cons_append, wordsFrom]
    simp only [hcs c (by simp), Bool.and_true]
    exact (ih (fun d hd => hcs d (by simp [hd])) _).trans (by
      rw [Text.byteLength_cons, Nat.add_assoc])

theorem wordsFrom_word {cs : List Char} (hcs : IsWordText cs) (pos : Nat) {rest : List Char}
    (hrest : ∀ c ∈ rest.head?, Text.isWordChar c = false) :
    wordsFrom .between pos (cs ++ rest) =
      ⟨String.ofList cs, pos, opensCall rest⟩ ::
        wordsFrom .within (pos + Text.byteLength cs) rest := by
  obtain ⟨c, cs, rfl, hc, hcs⟩ := hcs
  have hw := isWordChar_of_isIdentStart hc
  have hquote : c ≠ '\'' := ne_of_isWordChar hw (by decide)
  have hcolon : c ≠ ':' := ne_of_isWordChar hw (by decide)
  have hmark : c ≠ '?' := ne_of_isWordChar hw (by decide)
  have htake : (cs ++ rest).takeWhile Text.isWordChar = cs := by
    rw [List.takeWhile_append_of_pos hcs]
    cases rest with
    | nil => simp
    | cons d rest => simp [hrest d (by simp)]
  have hdrop : (cs ++ rest).dropWhile Text.isWordChar = rest := by
    rw [List.dropWhile_append_of_pos hcs]
    cases rest with
    | nil => rfl
    | cons d rest => simp [hrest d (by simp)]
  rw [List.cons_append, wordsFrom]
  rw [if_neg (by simp), if_neg (by simp), if_neg (by simpa using hquote),
    if_neg (by simp [hcolon, hmark, isDigit_of_isIdentStart hc]), if_pos hw, wordAt, htake, hdrop,
    wordsFrom_within hcs, Text.byteLength_cons, Nat.add_assoc]

/-! ## Generated queries -/

section
variable (pos : Nat) (rest : List Char)

/-- `FROM` and a name behind it. -/
theorem wordsFrom_from : wordsFrom .between pos ("FROM ".toList ++ rest) =
    ⟨"FROM", pos, opensCall (' ' :: rest)⟩ :: wordsFrom .between (pos + 5) rest := rfl

theorem wordsFrom_where : wordsFrom .within pos (" WHERE ".toList ++ rest) =
    ⟨"WHERE", pos + 1, opensCall (' ' :: rest)⟩ :: wordsFrom .between (pos + 7) rest := rfl

theorem wordsFrom_count : wordsFrom .between 0 ("SELECT COUNT(*) ".toList ++ rest) =
    ⟨"SELECT", 0, false⟩ :: ⟨"COUNT", 7, true⟩ :: wordsFrom .between 16 rest := rfl

theorem wordsFrom_compared : wordsFrom .within pos " = ?1".toList = [] := rfl

end

/-- The words of a query on the entity `n` with the condition `p = ?1`. -/
theorem wordsFrom_single {n p : List Char} (hn : IsWordText n) (hp : IsWordText p) (pos : Nat) :
    ∃ w₁ w₂ w₃ : QueryWord, wordsFrom .between pos
        ("FROM ".toList ++ (n ++ (" WHERE ".toList ++ (p ++ " = ?1".toList)))) =
      [w₁, w₂, w₃, ⟨String.ofList p, pos + (5 + Text.byteLength n + 7), false⟩] ∧
      w₁.text = "FROM" ∧ w₂.text = String.ofList n ∧ w₃.text = "WHERE" := by
  rw [wordsFrom_from, wordsFrom_word hn _ (by simp; decide), wordsFrom_where,
    wordsFrom_word hp _ (by simp; decide), wordsFrom_compared, ← Nat.add_assoc, ← Nat.add_assoc]
  exact ⟨_, _, _, rfl, rfl, rfl, rfl⟩

/-- A generated query on `n` up to its condition. -/
def singleStart (count : Bool) (n : String) : String :=
  (if count then "SELECT COUNT(*) " else "") ++ "FROM " ++ n ++ " WHERE "

/-- The generated query on `n` that compares `p` with a positional parameter. -/
def singleQuery (count : Bool) (n p : String) : String := singleStart count n ++ p ++ " = ?1"

/-- Before `FROM` there are at most keywords. -/
theorem wordsOf_single {n p : String} (hn : IsName n) (hp : IsName p) (count : Bool) :
    ∃ before w₁ w₂ w₃, wordsOf (singleQuery count n p) =
        before ++ [w₁, w₂, w₃, ⟨p, byteLength (singleStart count n), false⟩] ∧
      w₁.text = "FROM" ∧ w₂.text = n ∧ w₃.text = "WHERE" ∧
      ∀ w ∈ before, w.isKeyword = true ∧ w.isWord "from" = false ∧ w.isWord "join" = false := by
  generalize hstart : (if count then "SELECT COUNT(*) " else "") = start
  have htext : (singleQuery count n p).toList =
      start.toList ++ ("FROM ".toList ++ (n.toList ++ (" WHERE ".toList ++
        (p.toList ++ " = ?1".toList)))) := by
    simp only [singleQuery, singleStart, hstart, String.toList_append, List.append_assoc]
  have hlen : byteLength (singleStart count n) = byteLength start + (5 + byteLength n + 7) := by
    simp only [singleStart, hstart, byteLength_append, show byteLength "FROM " = 5 from rfl,
      show byteLength " WHERE " = 7 from rfl]
    omega
  obtain ⟨w₁, w₂, w₃, hwords, h₁, h₂, h₃⟩ :=
    wordsFrom_single hn.word hp.word (byteLength start)
  rw [String.ofList_toList] at hwords h₂
  unfold wordsOf
  rw [htext, hlen]
  subst hstart
  cases count with
  | false => exact ⟨[], w₁, w₂, w₃, hwords, h₁, h₂, h₃, by simp⟩
  | true =>
    refine ⟨[⟨"SELECT", 0, false⟩, ⟨"COUNT", 7, true⟩], w₁, w₂, w₃, ?_, h₁, h₂, h₃, ?_⟩
    · exact (wordsFrom_count _).trans
        (congrArg (fun ws => ⟨"SELECT", 0, false⟩ :: ⟨"COUNT", 7, true⟩ :: ws) hwords)
    · intro w hw
      simp only [List.mem_cons, List.not_mem_nil, or_false] at hw
      rcases hw with rfl | rfl <;> decide

end QueryWord

end EntityQuery
