import Mathlib
import EntityQuery.Proofs.Query.Grammar
import EntityQuery.Proofs.Query.Placeholders
/-!
# A query within another text

What stands around a query changes neither its placeholders nor their order, as long as it has no
quotes and no placeholders itself, and what comes right behind the query goes on with no name and no
number. Each placeholder is found as many bytes further on as stand in front. Quotes that the query
opens and does not close are left open, and what follows is passed over within them as outside.

Results:
* `scanFrom_append`: what stands behind.
* `scanFrom_shift`: what stands in front.
* `scan_surrounded`: a query with other text on both sides.
-/
namespace EntityQuery

namespace Text

/-- A run ends where something else follows. -/
theorem takeWhile_append_of_ended {p : Char → Bool} (cs : List Char) {rest : List Char}
    (h : ∀ c ∈ rest.head?, p c = false) : (cs ++ rest).takeWhile p = cs.takeWhile p := by
  induction cs with
  | nil =>
    cases rest with
    | nil => rfl
    | cons c rest => simp [h c rfl]
  | cons c cs ih => rw [List.cons_append, List.takeWhile_cons, List.takeWhile_cons, ih]

theorem head?_append_any {p : Char → Bool} (cs : List Char) {rest : List Char}
    (h : ∀ c ∈ rest.head?, p c = false) : (cs ++ rest).head?.any p = cs.head?.any p := by
  cases cs with
  | cons c cs => rfl
  | nil =>
    cases rest with
    | nil => rfl
    | cons c rest => simp [h c rfl]

end Text

namespace Placeholder

/-! ## Behind a query -/

section
variable {rest : List Char} (hended : ∀ c ∈ rest.head?, Text.isIdentChar c = false)
include hended

theorem namedAt?_append (pos : Nat) (cs : List Char) :
    namedAt? pos (cs ++ rest) = namedAt? pos cs := by
  have hstart : ∀ c ∈ rest.head?, Text.isIdentStart c = false := fun c hc => by
    have hnot := hended c hc
    simp only [Text.isIdentChar, Char.isAlphanum, Bool.or_eq_false_iff] at hnot
    simp [Text.isIdentStart, hnot]
  rw [namedAt?, namedAt?, Text.head?_append_any cs hstart, Text.takeWhile_append_of_ended cs hended]

theorem positionalAt?_append (pos : Nat) (cs : List Char) :
    positionalAt? pos (cs ++ rest) = positionalAt? pos cs := by
  have hdigit : ∀ c ∈ rest.head?, c.isDigit = false := fun c hc => by
    have hnot := hended c hc
    simp only [Text.isIdentChar, Char.isAlphanum, Bool.or_eq_false_iff] at hnot
    exact hnot.1.2
  rw [positionalAt?, positionalAt?, Text.takeWhile_append_of_ended cs hdigit]

/-- Text that starts no placeholder and no quotation, and goes on with no name, adds nothing. -/
theorem scanFrom_append (hplain : rest.all isPlain = true) (pos : Nat) (quoted : Bool)
    (cs : List Char) : scanFrom pos quoted (cs ++ rest) = scanFrom pos quoted cs := by
  -- a colon at the end of the query stays single
  have hseam : ∀ cs : List Char, (∀ more, cs = ':' :: more → False) →
      ∀ more : List Char, cs ++ rest = ':' :: more → False := by
    intro cs hsingle more h
    cases cs with
    | nil =>
      have hmem : ':' ∈ rest := by rw [← List.nil_append rest, h]; exact List.mem_cons_self
      exact absurd (List.all_eq_true.mp hplain ':' hmem) (by decide)
    | cons c cs => exact hsingle cs (by rw [(List.cons.inj h).1])
  fun_induction scanFrom pos quoted cs
  case case1 pos quoted =>
    have h := scanFrom_plain hplain pos quoted []
    rw [List.append_nil] at h
    rw [List.nil_append, h]
    rfl
  case case2 pos quoted cs ih => rw [List.cons_append, scanFrom, ih]
  case case3 pos quoted cs ih => rw [List.cons_append, List.cons_append, scanFrom, ih]
  case case4 pos cs hsingle ih =>
    rw [List.cons_append, scanFrom, if_pos rfl, ih]
    exact hseam cs hsingle
  case case5 pos quoted cs hsingle hquoted ih =>
    rw [List.cons_append, scanFrom, if_neg hquoted, namedAt?_append hended, ih]
    exact hseam cs hsingle
  case case6 pos cs ih =>
    rw [List.cons_append, scanFrom, if_pos rfl, ih]
  case case7 pos quoted cs hquoted ih =>
    rw [List.cons_append, scanFrom, if_neg hquoted, positionalAt?_append hended, ih]
  case case8 pos quoted c cs hquote hpair hcolon hmark ih =>
    rw [List.cons_append, scanFrom, ih]
    · exact hquote
    · exact fun more hc h => hcolon hc
    · exact hcolon
    · exact hmark

end

/-! ## In front of a query -/

/-- A placeholder so many bytes further on. -/
def shifted (k : Nat) (x : Placeholder × TextRange) : Placeholder × TextRange :=
  (x.1, ⟨x.2.start + k, x.2.stop + k⟩)

theorem rangeAt_shift {pos length k : Nat} (h : pos + k + length ≤ Text.maxOffset) :
    rangeAt (pos + k) length = ⟨(rangeAt pos length).start + k, (rangeAt pos length).stop + k⟩ := by
  rw [rangeAt_eq h, rangeAt_eq (by omega), Nat.add_right_comm]

theorem namedAt?_shift {pos k : Nat} {cs : List Char}
    (hlen : pos + k + (1 + Text.byteLength cs) ≤ Text.maxOffset) :
    namedAt? (pos + k) cs = (namedAt? pos cs).map (shifted k) := by
  have hle := Text.byteLength_takeWhile_le Text.isIdentChar cs
  unfold namedAt?
  split
  · dsimp only
    rw [rangeAt_shift (by omega)]
    rfl
  · rfl

theorem positionalAt?_shift {pos k : Nat} {cs : List Char}
    (hlen : pos + k + (1 + Text.byteLength cs) ≤ Text.maxOffset) :
    positionalAt? (pos + k) cs = (positionalAt? pos cs).map (shifted k) := by
  have hle := Text.byteLength_takeWhile_le Char.isDigit cs
  unfold positionalAt?
  dsimp only
  split
  · rfl
  · rw [rangeAt_shift (by omega)]
    rfl

/-- From a position further on, everything is found further on. -/
theorem scanFrom_shift {pos k : Nat} {quoted : Bool} {cs : List Char}
    (hlen : pos + k + Text.byteLength cs ≤ Text.maxOffset) :
    scanFrom (pos + k) quoted cs = (scanFrom pos quoted cs).map (shifted k) := by
  have hquote : '\''.utf8Size = 1 := rfl
  have hcolon : ':'.utf8Size = 1 := rfl
  have hmark : '?'.utf8Size = 1 := rfl
  fun_induction scanFrom pos quoted cs <;>
    simp only [Text.byteLength_nil, Text.byteLength_cons] at hlen
  case case1 => rfl
  case case2 pos quoted cs ih =>
    rw [scanFrom, Nat.add_right_comm, ih (by omega)]
  case case3 pos quoted cs ih =>
    rw [scanFrom, Nat.add_right_comm, ih (by omega)]
  case case4 pos cs hsingle ih =>
    rw [scanFrom, if_pos rfl, Nat.add_right_comm, ih (by omega)]
    exact hsingle
  case case5 pos quoted cs hsingle hquoted ih =>
    rw [scanFrom, if_neg hquoted, Nat.add_right_comm, ih (by omega),
      namedAt?_shift (by omega), List.map_append, Option.toList_map]
    exact hsingle
  case case6 pos cs ih =>
    rw [scanFrom, if_pos rfl, Nat.add_right_comm, ih (by omega)]
  case case7 pos quoted cs hquoted ih =>
    rw [scanFrom, if_neg hquoted, Nat.add_right_comm, ih (by omega),
      positionalAt?_shift (by omega), List.map_append, Option.toList_map]
  case case8 pos quoted c cs hquote hpair hcolon hmark ih =>
    rw [scanFrom, Nat.add_right_comm, ih (by omega)]
    · exact hquote
    · exact hpair
    · exact hcolon
    · exact hmark

/-! ## On both sides of a query -/

/-- What may stand behind a query: text without quotes and placeholders, which does not start in
the middle of a name or a number. -/
structure IsTail (s : String) : Prop where
  plain : s.toList.all isPlain = true
  ended : ∀ c ∈ s.toList.head?, Text.isIdentChar c = false

theorem isTail_empty : IsTail "" where
  plain := rfl
  ended := fun _ hc => by cases hc

/-- The placeholders of a query within another text are those of the query, behind what stands in
front of it. -/
theorem scan_surrounded {start query stop : String} (hstart : start.toList.all isPlain = true)
    (hstop : IsTail stop) (hlen : byteLength (start ++ query ++ stop) ≤ Text.maxOffset) :
    scan (start ++ query ++ stop) = (scan query).map (shifted (byteLength start)) := by
  have hquery : 0 + Text.byteLength start.toList + Text.byteLength query.toList ≤
      Text.maxOffset := by
    rw [byteLength_append, byteLength_append] at hlen
    simp only [byteLength] at hlen
    omega
  calc scan (start ++ query ++ stop)
      = scanFrom 0 false (start.toList ++ (query.toList ++ stop.toList)) := by
        rw [scan, String.toList_append, String.toList_append, List.append_assoc]
    _ = scanFrom (0 + Text.byteLength start.toList) false (query.toList ++ stop.toList) :=
        scanFrom_plain hstart 0 false _
    _ = scanFrom (0 + Text.byteLength start.toList) false query.toList :=
        scanFrom_append hstop.ended hstop.plain _ false _
    _ = (scan query).map (shifted (byteLength start)) := scanFrom_shift hquery

end Placeholder

end EntityQuery
