import Mathlib
import EntityQuery.Proofs.Analysis.WordReader
/-!
# The grammar of words

Which words a query has can be said of its bytes, without a reader: the maximal runs of letters,
digits, underscores and dots outside of quotes, but for those that are numbers or that belong to a
placeholder. The reader agrees at every position, if it knows whether the bytes before it leave
quotes open and whether a word could start behind the last of them.

Results:
* `Occurs.unique`, `Occurs.lt_of_lt`: words do not overlap, and they do not touch.
* `mem_wordsFrom_iff`: from any position on, the reader finds what occurs there.
* `Occurs.not_common`: no word has a byte in common with a placeholder.
* `wordsOf_runs`: the words of a query are those that occur in its bytes.
-/
namespace EntityQuery

namespace QueryWord

open Placeholder (quote colon mark isNameByte isDigitByte LongestRun MaximalRun)

/-! ## Occurrences in bytes -/

/-- Letters, digits, underscore and dot. -/
def isWordByte (b : UInt8) : Bool := isNameByte b || b == 0x2e

/-- The position behind a word. -/
def stop (w : QueryWord) : Nat := w.start + byteLength w.text

/-- An opening parenthesis stands at the position, or nothing but blanks stands before it. -/
def ParenthesisAt (bs : List UInt8) (i : Nat) : Prop :=
  ∃ blanks rest, bs.drop i = Text.encode (blanks ++ '(' :: rest) ∧
    ∀ c ∈ blanks, Text.isBlank c = true

/-- The word occurs in the bytes: it is a run that goes no further on either side, outside of
quotes, which is no number and follows neither a colon nor a question mark. -/
structure Occurs (bs : List UInt8) (w : QueryWord) : Prop where
  run : MaximalRun isWordByte bs w.start w.stop
  nonempty : w.start < w.stop
  outside : Even ((bs.take w.start).count quote)
  notNumber : bs[w.start]?.any isDigitByte = false
  notPlaceholder : ∀ k, k + 1 = w.start → bs[k]? ≠ some colon ∧ bs[k]? ≠ some mark
  text : bs.extract w.start w.stop = utf8 w.text
  call : w.isCall = true ↔ ParenthesisAt bs w.stop

namespace Occurs

variable {bs : List UInt8} {v w : QueryWord}

theorem startByte (h : Occurs bs w) : bs[w.start]?.any isWordByte = true :=
  h.run.inside w.start (Nat.le_refl _) h.nonempty

/-- At one position there is one word. -/
theorem unique (hv : Occurs bs v) (hw : Occurs bs w) (hstart : v.start = w.start) : v = w := by
  have hrun := hw.run.toLongestRun
  have htext := hw.text
  have hcall := hw.call
  rw [← hstart] at hrun htext
  have hstop : v.stop = w.stop := hv.run.toLongestRun.unique hrun
  rw [← hstop] at htext hcall
  have hsame : v.text = w.text := utf8_injective (hv.text.symm.trans htext)
  have hcalls : v.isCall = w.isCall := Bool.eq_iff_iff.mpr (hv.call.trans hcall.symm)
  cases v
  cases w
  cases hstart
  cases hsame
  cases hcalls
  rfl

/-- Something stands between two words. -/
theorem lt_of_lt (hv : Occurs bs v) (hw : Occurs bs w) (hlt : v.start < w.start) :
    v.stop < w.start := by
  by_contra hcross
  obtain ⟨k, hk⟩ : ∃ k, k + 1 = w.start := ⟨w.start - 1, by omega⟩
  exact Bool.false_ne_true
    ((hw.run.started k hk).symm.trans (hv.run.inside k (by omega) (by omega)))

end Occurs

/-! ## Classes of bytes -/

theorem wordByte_ascii : Text.AsciiClass Text.isWordChar isWordByte :=
  Placeholder.nameByte_ascii.or (.single (by decide))

/-- Whether no word can start behind the byte. -/
def holdsOnByte (b : UInt8) : Bool := isWordByte b || b == colon || b == mark

theorem holdsOn_ascii : Text.AsciiClass holdsOn holdsOnByte :=
  (wordByte_ascii.or Placeholder.colon_ascii).or (.single (by decide))

section
variable {q : Char → Bool} {p : UInt8 → Bool} (hclass : Text.AsciiClass q p)
  (before : List UInt8)
include hclass

/-- A character is in the class just if its last byte is. -/
theorem any_getLast (c : Char) : (before ++ String.utf8EncodeChar c).getLast?.any p = q c := by
  by_cases hc : c.toNat < 128
  · rw [Text.encodeChar_of_ascii hc, List.getLast?_concat, Option.any_some, hclass.same _ hc,
      Char.ofNat_toNat]
  · rw [List.getLast?_append_of_ne_nil _ String.utf8EncodeChar_ne_nil,
      Bool.eq_false_iff.mpr fun hq => hc (hclass.char c hq)]
    refine Bool.eq_false_iff.mpr fun hany => ?_
    obtain ⟨b, hb, hp⟩ := (Option.any_eq_true _ _).mp hany
    have hle := Text.le_of_mem_encodeChar (Nat.le_of_not_lt hc) (List.mem_of_getLast? hb)
    exact Nat.not_lt.mpr hle (hclass.byte b hp)

theorem any_here (cs : List Char) :
    (before ++ Text.encode cs)[before.length]?.any p = cs.head?.any q := by
  rw [← hclass.encode_head, List.head?_eq_getElem?, List.getElem?_append_right (Nat.le_refl _),
    Nat.sub_self]

theorem longestRun_here {cs : List Char} {stop : Nat} :
    LongestRun p (before ++ Text.encode cs) before.length stop ↔
      stop = before.length + Text.byteLength (cs.takeWhile q) := by
  rw [Placeholder.longestRun_iff, hclass.encode_takeWhile, Text.length_encode]

end

/-- A run at a position, and what stands behind it. -/
theorem split_here (q : Char → Bool) (before : List UInt8) (cs : List Char) :
    (before ++ Text.encode cs).extract before.length
        (before.length + Text.byteLength (cs.takeWhile q)) = Text.encode (cs.takeWhile q) ∧
      (before ++ Text.encode cs).drop (before.length + Text.byteLength (cs.takeWhile q)) =
        Text.encode (cs.dropWhile q) := by
  have hsplit : Text.encode cs =
      Text.encode (cs.takeWhile q) ++ Text.encode (cs.dropWhile q) := by
    rw [← Text.encode_append, List.takeWhile_append_dropWhile]
  rw [List.extract_eq_take_drop, Nat.add_sub_cancel_left, List.drop_left, ← List.drop_drop,
    List.drop_left, ← Text.length_encode, hsplit, List.take_left, List.drop_left]
  exact ⟨rfl, rfl⟩

theorem encode_injective {cs ds : List Char} (h : Text.encode cs = Text.encode ds) : cs = ds := by
  rw [← Text.utf8_ofList, ← Text.utf8_ofList] at h
  exact String.ofList_injective (utf8_injective h)

/-- A call is told from the characters behind a word as it is told from the bytes. -/
theorem opensCall_iff {bs : List UInt8} {i : Nat} {rest : List Char}
    (hrest : bs.drop i = Text.encode rest) : opensCall rest = true ↔ ParenthesisAt bs i := by
  rw [opensCall, beq_iff_eq, Text.trimStart]
  constructor
  · intro hhead
    obtain ⟨after, hafter⟩ := List.head?_eq_some_iff.mp hhead
    refine ⟨rest.takeWhile Text.isBlank, after, ?_, fun c hc => List.mem_takeWhile_imp hc⟩
    rw [hrest, ← hafter, List.takeWhile_append_dropWhile]
  · rintro ⟨blanks, after, hbytes, hblanks⟩
    obtain rfl := encode_injective (hrest.symm.trans hbytes)
    rw [List.dropWhile_append_of_pos hblanks]
    rfl

/-! ## The reader -/

/-- The reader knows whether the bytes before it leave quotes open and, outside of quotes, whether
no word can start behind the last of them. -/
structure Reads (before : List UInt8) (mode : Mode) : Prop where
  quotes : mode = .quoted ↔ Odd (before.count quote)
  last : mode ≠ .quoted → (mode = .within ↔ before.getLast?.any holdsOnByte = true)

namespace Reads

variable {before : List UInt8} {mode : Mode}

theorem start : Reads [] .between where
  quotes := by simp
  last _ := by simp

theorem count_encodeChar (before : List UInt8) (c : Char) :
    (before ++ String.utf8EncodeChar c).count quote =
      before.count quote + if c = '\'' then 1 else 0 := by
  rw [List.count_append]
  split
  · rename_i hc
    subst hc
    rfl
  · rename_i hc
    rw [List.count_eq_zero.mpr fun hmem => hc (Text.eq_of_mem_encodeChar hmem (by decide))]

/-- One character. -/
theorem step (h : Reads before mode) (c : Char) :
    Reads (before ++ String.utf8EncodeChar c) (mode.after c) where
  quotes := by
    have hquotes := h.quotes
    rw [count_encodeChar]
    by_cases hc : c = '\''
    · rw [if_pos hc, Nat.odd_add_one, ← hquotes]
      cases mode <;> simp [Mode.after, hc]
    · rw [if_neg hc, Nat.add_zero, ← hquotes]
      cases mode <;> cases hhold : holdsOn c <;> simp [Mode.after, hc, hhold]
  last := by
    rw [any_getLast holdsOn_ascii]
    by_cases hc : c = '\''
    · subst hc
      cases mode <;> decide
    · cases mode <;> cases hhold : holdsOn c <;> simp [Mode.after, hc, hhold]

end Reads

section
variable {before after : List UInt8} {mode : Mode} {c : Char} {w : QueryWord}

/-- A word that starts among the bytes of a character starts with the character. -/
theorem Occurs.startChar (h : Occurs (before ++ (String.utf8EncodeChar c ++ after)) w)
    (hge : before.length ≤ w.start) (hlt : w.start < before.length + c.utf8Size) :
    w.start = before.length ∧ Text.isWordChar c = true := by
  have hlen : (String.utf8EncodeChar c).length = c.utf8Size := String.length_utf8EncodeChar c
  obtain ⟨b, hb, hword⟩ := (Option.any_eq_true _ _).mp h.startByte
  rw [List.getElem?_append_right hge, List.getElem?_append_left (by omega)] at hb
  have hascii := wordByte_ascii.byte b hword
  have hchar := Text.eq_of_mem_encodeChar (List.mem_of_getElem? hb) hascii
  have hsame := wordByte_ascii.same b.toNat hascii
  rw [UInt8.ofNat_toNat, hword, ← hchar] at hsame
  have hone : c.utf8Size = 1 := by
    rw [← hlen, Text.encodeChar_of_ascii (wordByte_ascii.char c hsame.symm)]
    rfl
  exact ⟨by omega, hsame.symm⟩

/-- Where a word occurs, the reader finds one to start. -/
theorem Reads.startsWord (h : Reads before mode) {rest : List Char}
    (hocc : Occurs (before ++ Text.encode (c :: rest)) w) (hstart : w.start = before.length)
    (hword : Text.isWordChar c = true) : mode.startsWord c = true := by
  have hunquoted : mode ≠ .quoted := fun hquoted => by
    have heven := hocc.outside
    rw [hstart, List.take_left] at heven
    exact Nat.not_even_iff_odd.mpr (h.quotes.mp hquoted) heven
  have hdigit : c.isDigit = false := by
    have hnumber := hocc.notNumber
    rw [hstart, any_here Placeholder.digits_ascii] at hnumber
    exact hnumber
  have hfree : before.getLast?.any holdsOnByte = false := by
    refine Bool.eq_false_iff.mpr fun hholds => ?_
    obtain ⟨b, hlast, hb⟩ := (Option.any_eq_true _ _).mp hholds
    have hne : before ≠ [] := fun hnil => by simp [hnil] at hlast
    have hpos := List.length_pos_iff.mpr hne
    have hk : before.length - 1 + 1 = w.start := by omega
    have hbyte : (before ++ Text.encode (c :: rest))[before.length - 1]? = some b := by
      rw [List.getElem?_append_left (by omega), ← List.getLast?_eq_getElem?, hlast]
    have hnot := hocc.run.started _ hk
    obtain ⟨hcolon, hmark⟩ := hocc.notPlaceholder _ hk
    rw [hbyte] at hnot hcolon hmark
    rw [Option.any_some] at hnot
    simp only [ne_eq, Option.some.injEq] at hcolon hmark
    simp [holdsOnByte, hnot, hcolon, hmark] at hb
  have hbetween : mode = .between := by
    have hwithin := (h.last hunquoted).not.mpr (by rw [hfree]; exact Bool.false_ne_true)
    cases mode
    · rfl
    · exact absurd rfl hunquoted
    · exact absurd rfl hwithin
  simp [Mode.startsWord, hbetween, hword, hdigit]

/-- The word that the reader finds occurs. -/
theorem Reads.occurs_wordAt (h : Reads before mode) {rest : List Char}
    (hstarts : mode.startsWord c = true) :
    Occurs (before ++ Text.encode (c :: rest)) (wordAt before.length c rest) := by
  obtain ⟨rfl, hword, hdigit⟩ := startsWord_eq_true hstarts
  have hwhole : c :: rest.takeWhile Text.isWordChar = (c :: rest).takeWhile Text.isWordChar := by
    rw [List.takeWhile_cons_of_pos hword]
  have htext : (wordAt before.length c rest).text.toList =
      (c :: rest).takeWhile Text.isWordChar := by
    rw [wordAt, String.toList_ofList, hwhole]
  have hstop : (wordAt before.length c rest).stop =
      before.length + Text.byteLength ((c :: rest).takeWhile Text.isWordChar) := by
    rw [stop, byteLength, htext]
    rfl
  have hfree : before.getLast?.any holdsOnByte = false :=
    Bool.eq_false_iff.mpr fun hholds =>
      absurd ((h.last (by decide)).mpr hholds) (by decide)
  obtain ⟨hextract, hdrop⟩ := split_here Text.isWordChar before (c :: rest)
  have hbehind : ∀ k, k + 1 = before.length → ∀ b,
      (before ++ Text.encode (c :: rest))[k]? = some b → holdsOnByte b = false := by
    intro k hk b hb
    have hlast : before.getLast? = some b := by
      rw [List.getLast?_eq_getElem?, ← hk, Nat.add_sub_cancel,
        ← List.getElem?_append_left (by omega), hb]
    rw [hlast] at hfree
    exact hfree
  refine ⟨⟨?_, fun k hk => ?_⟩, ?_, ?_, ?_, fun k hk => ⟨fun hb => ?_, fun hb => ?_⟩, ?_, ?_⟩
  · exact (longestRun_here wordByte_ascii before).mpr hstop
  · cases hb : (before ++ Text.encode (c :: rest))[k]? with
    | none => rfl
    | some b =>
      have hb' := hbehind k hk b hb
      simp only [holdsOnByte, Bool.or_eq_false_iff] at hb'
      exact hb'.1.1
  · rw [hstop, List.takeWhile_cons_of_pos hword, Text.byteLength_cons]
    have hpos := c.utf8Size_pos
    change before.length < _
    omega
  · change Even ((List.take before.length _).count quote)
    rw [List.take_left, ← Nat.not_odd_iff_even, ← h.quotes]
    decide
  · exact (any_here Placeholder.digits_ascii before (c :: rest)).trans hdigit
  · exact absurd (hbehind k hk _ hb) (by decide)
  · exact absurd (hbehind k hk _ hb) (by decide)
  · rw [hstop, Text.utf8_eq, htext]
    exact hextract
  · rw [hstop]
    refine Iff.trans ?_ (opensCall_iff hdrop)
    rw [wordAt, List.dropWhile_cons_of_pos hword]

end

/-- What the reader finds from a position on is what occurs there. By induction on the text: a word
starts at its first character, or none does. -/
theorem mem_wordsFrom_iff {before : List UInt8} {mode : Mode} {cs : List Char}
    (h : Reads before mode) (w : QueryWord) :
    w ∈ wordsFrom mode before.length cs ↔
      Occurs (before ++ Text.encode cs) w ∧ before.length ≤ w.start := by
  induction cs generalizing before mode with
  | nil =>
    refine ⟨nofun, fun ⟨hw, hle⟩ => ?_⟩
    have hnone : (before ++ Text.encode [])[w.start]? = none := by
      rw [Text.encode_nil, List.append_nil, List.getElem?_eq_none hle]
    have hbyte := hw.startByte
    rw [hnone] at hbyte
    cases hbyte
  | cons c rest ih =>
    have hlen : (before ++ String.utf8EncodeChar c).length = before.length + c.utf8Size := by simp
    have hpos := c.utf8Size_pos
    have hlater := ih (h.step c)
    rw [hlen, List.append_assoc, ← Text.encode_cons] at hlater
    rw [wordsFrom_cons, List.mem_append, hlater]
    constructor
    · rintro (hfirst | ⟨hw, hle⟩)
      · split at hfirst
        · rename_i hstarts
          rw [List.mem_singleton.mp hfirst]
          exact ⟨h.occurs_wordAt hstarts, Nat.le_refl _⟩
        · cases hfirst
      · exact ⟨hw, by omega⟩
    · rintro ⟨hw, hle⟩
      rcases Nat.lt_or_ge w.start (before.length + c.utf8Size) with hlt | hge
      · obtain ⟨hstart, hword⟩ := hw.startChar hle hlt
        have hstarts := h.startsWord hw hstart hword
        refine .inl ?_
        rw [if_pos hstarts, List.mem_singleton]
        exact hw.unique (h.occurs_wordAt hstarts) hstart
      · exact .inr ⟨hw, hge⟩

/-- The words from a position on come in order. -/
theorem wordsFrom_increasing {before : List UInt8} {mode : Mode} {cs : List Char}
    (h : Reads before mode) :
    (wordsFrom mode before.length cs).Pairwise fun v w => v.stop < w.start := by
  induction cs generalizing before mode with
  | nil => exact .nil
  | cons c rest ih =>
    have hlen : (before ++ String.utf8EncodeChar c).length = before.length + c.utf8Size := by simp
    have hlater := ih (h.step c)
    have hmem : ∀ w, w ∈ wordsFrom (mode.after c) _ rest ↔ _ := mem_wordsFrom_iff (h.step c)
    rw [hlen] at hlater
    rw [hlen, List.append_assoc, ← Text.encode_cons] at hmem
    rw [wordsFrom_cons]
    split
    · rename_i hstarts
      refine List.pairwise_cons.mpr ⟨fun w hw => ?_, hlater⟩
      obtain ⟨hocc, hge⟩ := (hmem w).mp hw
      have hbehind := Nat.lt_of_lt_of_le (Nat.lt_add_of_pos_right c.utf8Size_pos) hge
      exact (h.occurs_wordAt hstarts).lt_of_lt hocc hbehind
    · exact hlater

theorem mem_wordsOf_iff {query : String} (w : QueryWord) :
    w ∈ wordsOf query ↔ Occurs (utf8 query) w := by
  rw [Text.utf8_eq]
  exact (mem_wordsFrom_iff .start w).trans (and_iff_left (Nat.zero_le _))

theorem wordsOf_increasing (query : String) :
    (wordsOf query).Pairwise fun v w => v.stop < w.start :=
  wordsFrom_increasing .start

end QueryWord

/-! ## Words and placeholders -/

namespace Placeholder

/-- The range is that of a colon or a question mark with letters, digits and underscores behind. -/
def Extent (bs : List UInt8) (range : TextRange) : Prop :=
  ∃ i length, range = rangeAt i length ∧ (bs[i]? = some colon ∨ bs[i]? = some mark) ∧
    ∀ k, i < k → k < i + length → bs[k]?.any isNameByte = true

theorem namedAt?_extent {before : List UInt8} {rest : List Char} {x : Placeholder × TextRange}
    (h : namedAt? before.length rest = some x) :
    Extent (before ++ Text.encode (':' :: rest)) x.2 := by
  unfold namedAt? at h
  split at h <;> cases h
  rw [Text.append_encode (b := colon) rfl]
  have hrun := (longestRun_behind nameByte_ascii before colon rest _).mpr rfl
  refine ⟨_, _, rfl, .inl (by simp), fun k hk hlt => hrun.inside k hk ?_⟩
  rwa [Nat.add_assoc]

theorem positionalAt?_extent {before : List UInt8} {rest : List Char}
    {x : Placeholder × TextRange} (h : positionalAt? before.length rest = some x) :
    Extent (before ++ Text.encode ('?' :: rest)) x.2 := by
  unfold positionalAt? at h
  dsimp only at h
  split at h <;> cases h
  rw [Text.append_encode (b := mark) rfl]
  have hrun := (longestRun_behind digits_ascii before mark rest _).mpr rfl
  refine ⟨_, _, rfl, .inr (by simp), fun k hk hlt => ?_⟩
  exact any_mono (fun _ => isNameByte_of_isDigitByte) (hrun.inside k hk (by omega))

/-- However long a query is, a placeholder is found where one stands. -/
theorem scanFrom_extent {before : List UInt8} {quoted : Bool} {cs : List Char}
    {x : Placeholder × TextRange} (hx : x ∈ scanFrom before.length quoted cs) :
    Extent (before ++ Text.encode cs) x.2 := by
  generalize hpos : before.length = pos at hx
  fun_induction scanFrom pos quoted cs generalizing before <;> subst hpos
  case case1 => cases hx
  case case2 rest ih =>
    rw [Text.append_encode (b := quote) rfl]
    exact ih (by simp) hx
  case case3 rest ih =>
    rw [Text.append_encode (b := colon) rfl, Text.append_encode (b := colon) rfl]
    exact ih (by simp) hx
  case case4 rest _ ih =>
    rw [Text.append_encode (b := colon) rfl]
    exact ih (by simp) hx
  case case5 rest _ _ ih =>
    rcases List.mem_append.mp hx with hx | hx
    · exact namedAt?_extent (Option.mem_toList.mp hx)
    · rw [Text.append_encode (b := colon) rfl]
      exact ih (by simp) hx
  case case6 rest ih =>
    rw [Text.append_encode (b := mark) rfl]
    exact ih (by simp) hx
  case case7 rest _ ih =>
    rcases List.mem_append.mp hx with hx | hx
    · exact positionalAt?_extent (Option.mem_toList.mp hx)
    · rw [Text.append_encode (b := mark) rfl]
      exact ih (by simp) hx
  case case8 c rest _ _ _ _ ih =>
    rw [Text.encode_cons, ← List.append_assoc]
    exact ih (by simp) hx

end Placeholder

namespace QueryWord

open Placeholder (quote colon mark isNameByte)

/-- No position is in a word and in the range of a placeholder. -/
theorem Occurs.not_common {bs : List UInt8} {w : QueryWord} (h : Occurs bs w) {range : TextRange}
    (hrange : Placeholder.Extent bs range) {k : Nat} (hk : w.start ≤ k ∧ k < w.stop) :
    ¬ (range.start ≤ k ∧ k < range.stop) := by
  obtain ⟨i, length, rfl, hsign, hname⟩ := hrange
  rintro ⟨hge, hlt⟩
  have hik : i ≤ k ∧ k < i + length := by
    simp only [Placeholder.rangeAt, Text.narrow] at hge hlt
    omega
  -- the sign is no part of the word, and neither is it right before it
  have hbefore : i + 1 < w.start := by
    by_contra hnot
    rcases Nat.lt_or_ge i w.start with hlt' | hge'
    · obtain ⟨hcolon, hmark⟩ := h.notPlaceholder i (by omega)
      exact hsign.elim hcolon hmark
    · have hword := h.run.inside i hge' (by omega)
      rcases hsign with hsign | hsign <;> rw [hsign] at hword <;> exact absurd hword (by decide)
  obtain ⟨j, hj⟩ : ∃ j, j + 1 = w.start := ⟨w.start - 1, by omega⟩
  have hword : (bs[j]?).any isWordByte = true :=
    Placeholder.any_mono (fun b hb => by rw [isWordByte, hb, Bool.true_or])
      (hname j (by omega) (by omega))
  exact Bool.false_ne_true ((h.run.started j hj).symm.trans hword)

/-- The words of a query are exactly those that occur in its bytes, from left to right and apart
from each other, and none of them has a position in common with a placeholder. -/
theorem wordsOf_runs (query : String) :
    (∀ w, w ∈ wordsOf query ↔ Occurs (utf8 query) w) ∧
    (wordsOf query).Pairwise (fun v w => v.stop < w.start) ∧
    ∀ w ∈ wordsOf query, ∀ x ∈ Placeholder.scan query, ∀ k,
      ¬ (w.start ≤ k ∧ k < w.stop ∧ x.2.start ≤ k ∧ k < x.2.stop) := by
  refine ⟨mem_wordsOf_iff, wordsOf_increasing query, fun w hw x hx k ⟨h1, h2, h3, h4⟩ => ?_⟩
  have hextent : Placeholder.Extent ([] ++ Text.encode query.toList) x.2 :=
    Placeholder.scanFrom_extent hx
  rw [List.nil_append, ← Text.utf8_eq] at hextent
  exact ((mem_wordsOf_iff w).mp hw).not_common hextent ⟨h1, h2⟩ ⟨h3, h4⟩

/-- A letter that belongs to no word, a call behind blanks, a number, placeholders with and without
a dot, a doubled quote, and quotes that are left open. -/
example : wordsOf "éa.b (1e2 _x::y ?z.1 'it''s'c(:d e 'f" =
    [⟨"a.b", 2, true⟩, ⟨"_x", 11, false⟩, ⟨"c", 29, true⟩, ⟨"e", 34, false⟩] := by decide +kernel

end QueryWord

end EntityQuery
