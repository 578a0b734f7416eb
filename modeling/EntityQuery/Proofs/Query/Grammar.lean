import Mathlib
import EntityQuery.Proofs.Query.Occurrence
/-!
# The grammar of placeholders

The scan goes over characters and leaves out what it has read; what occurs in a query is said of all
its bytes. They agree at every position, if the scan knows of the bytes before it how many quotes
there are and whether the colons at their end are even in number.

Results:
* `mem_scanFrom_iff`: from any position on, the scan finds what occurs there.
* `scanFrom_between`, `scanFrom_increasing`: it finds it in the text, and from left to right.
* `scan_occurrences`: the placeholders of a query are those that occur in its bytes.
-/
namespace EntityQuery

namespace Placeholder

/-! ## What follows a byte -/

section
variable {q : Char → Bool} {p : UInt8 → Bool} (hclass : Text.AsciiClass q p)
  (before : List UInt8) (b : UInt8) (rest : List Char)
include hclass

theorem any_behind : (before ++ [b] ++ Text.encode rest)[before.length + 1]?.any p =
    rest.head?.any q := by
  rw [← hclass.encode_head, List.head?_eq_getElem?, List.getElem?_append_right (by simp)]
  simp

theorem longestRun_behind (stop : Nat) :
    LongestRun p (before ++ [b] ++ Text.encode rest) (before.length + 1) stop ↔
      stop = before.length + 1 + Text.byteLength (rest.takeWhile q) := by
  have hlength : before.length + 1 = (before ++ [b]).length := by simp
  rw [hlength, longestRun_iff, hclass.encode_takeWhile, Text.length_encode]

end

theorem extract_behind (q : Char → Bool) (before : List UInt8) (b : UInt8) (rest : List Char) :
    (before ++ [b] ++ Text.encode rest).extract (before.length + 1)
      (before.length + 1 + Text.byteLength (rest.takeWhile q)) =
        Text.encode (rest.takeWhile q) := by
  have hlength : before.length + 1 = (before ++ [b]).length := by simp
  have hsplit : Text.encode rest =
      Text.encode (rest.takeWhile q) ++ Text.encode (rest.dropWhile q) := by
    rw [← Text.encode_append, List.takeWhile_append_dropWhile]
  rw [List.extract_eq_take_drop, Nat.add_sub_cancel_left, hlength, List.drop_left,
    ← Text.length_encode, hsplit, List.take_left]

/-! ## The scan -/

/-- The scan knows whether it is in quotes, and it never stands inside a pair of colons. -/
structure Stands (before : List UInt8) (quoted : Bool) (cs : List Char) : Prop where
  quotes : quoted = true ↔ Odd (before.count quote)
  colons : ∃ k, EndsInColons before k ∧ (Even k ∨ cs.head? ≠ some ':')

namespace Stands

variable {before : List UInt8} {quoted : Bool} {c : Char} {rest rest' : List Char}

theorem start (cs : List Char) : Stands [] false cs where
  quotes := by simp
  colons := ⟨0, .of_getLast? (by simp), .inl .zero⟩

theorem quote (h : Stands before quoted rest) :
    Stands (before ++ [Placeholder.quote]) (!quoted) rest' where
  quotes := by
    have hcount : (before ++ [Placeholder.quote]).count Placeholder.quote =
        before.count Placeholder.quote + 1 := by simp
    rw [hcount, Nat.odd_add_one, ← h.quotes]
    simp
  colons := ⟨0, .of_getLast? (by simp [Placeholder.quote, colon]), .inl .zero⟩

theorem casts (h : Stands before quoted (':' :: rest)) :
    Stands (before ++ [colon] ++ [colon]) quoted rest' where
  quotes := by simpa [Placeholder.quote, colon] using h.quotes
  colons := by
    obtain ⟨k, hk, heven | hne⟩ := h.colons
    · exact ⟨k + 2, hk.push.push, .inl (heven.add even_two)⟩
    · exact absurd rfl hne

theorem single (h : Stands before quoted (':' :: rest)) (hrest : rest.head? ≠ some ':') :
    Stands (before ++ [colon]) quoted rest where
  quotes := by simpa [Placeholder.quote, colon] using h.quotes
  colons := by
    obtain ⟨k, hk, -⟩ := h.colons
    exact ⟨k + 1, hk.push, .inr hrest⟩

theorem other (h : Stands before quoted (c :: rest)) (hquote : c ≠ '\'') (hcolon : c ≠ ':') :
    Stands (before ++ String.utf8EncodeChar c) quoted rest' where
  quotes := by
    have hmem : Placeholder.quote ∉ String.utf8EncodeChar c := fun hmem =>
      hquote (Text.eq_of_mem_encodeChar hmem (by decide))
    rw [h.quotes, List.count_append, List.count_eq_zero.mpr hmem, Nat.add_zero]
  colons := by
    refine ⟨0, .of_getLast? fun hlast => ?_, .inl .zero⟩
    rw [List.getLast?_append_of_ne_nil _ String.utf8EncodeChar_ne_nil] at hlast
    exact hcolon (Text.eq_of_mem_encodeChar (List.mem_of_getLast? hlast) (by decide))

theorem mark (h : Stands before quoted ('?' :: rest)) :
    Stands (before ++ [Placeholder.mark]) quoted rest' :=
  h.other (by decide) (by decide)

theorem exists_even (h : Stands before quoted (':' :: rest)) :
    ∃ k, EndsInColons before k ∧ Even k := by
  obtain ⟨k, hk, heven | hne⟩ := h.colons
  · exact ⟨k, hk, heven⟩
  · exact absurd rfl hne

/-- A colon that is met alone is the last of an odd run. -/
theorem exists_oddRun (h : Stands before quoted (':' :: rest)) (hrest : rest.head? ≠ some ':') :
    ∃ first, MaximalRun (· == colon) (before ++ [colon] ++ Text.encode rest) first
      (before.length + 1) ∧ Odd (before.length + 1 - first) := by
  obtain ⟨k, hk, heven⟩ := h.exists_even
  have hafter : (Text.encode rest).head?.any (· == colon) = false := by
    rw [colon_ascii.encode_head]
    cases hhead : rest.head? with
    | none => rfl
    | some c => simpa [hhead] using hrest
  have hlength : before.length + 1 = (before ++ [colon]).length := by simp
  have hrun := hk.push.run hafter
  rw [hlength]
  refine ⟨_, hrun, ?_⟩
  rw [hk.push.eq_of_run hrun]
  exact heven.add_one

theorem even (h : Stands before false rest) : Even (before.count Placeholder.quote) := by
  rw [← Nat.not_odd_iff_even, ← h.quotes]
  exact Bool.false_ne_true

/-- In quotes, nothing occurs. -/
theorem not_occurs (h : Stands before true rest) {after : List UInt8}
    {x : Placeholder × TextRange} (hx : x.2.start = before.length) :
    ¬ Occurs (before ++ after) x := by
  intro hocc
  have heven := hocc.outside
  rw [hx, List.take_left] at heven
  exact Nat.not_even_iff_odd.mpr (h.quotes.mp rfl) heven

end Stands

theorem rangeAt_eq {start length : Nat} (h : start + length ≤ Text.maxOffset) :
    rangeAt start length = ⟨start, start + length⟩ := by
  rw [rangeAt, Text.narrow_of_le h, Text.narrow_of_le (by omega)]

theorem labelOf_eq (digits : List Char) (h : ∀ c ∈ digits, c.isDigit = true) :
    labelOf digits = min (decimal (Text.encode digits)) (2 ^ 32 - 1) := by
  refine congrArg (min · (2 ^ 32 - 1)) ?_
  induction digits using List.reverseRecOn with
  | nil => rfl
  | append_singleton digits c ih =>
    have hc : c.toNat < 128 := digits_ascii.char c (h c (by simp))
    rw [List.foldl_concat, ih fun d hd => h d (by simp [hd]), Text.encode_append, Text.encode_cons,
      Text.encodeChar_of_ascii hc, Text.encode_nil, List.append_nil, decimal, decimal,
      List.reverse_append, List.map_append]
    simp [Nat.ofDigits_cons, UInt8.toNat_ofNat']
    omega

section
variable {before : List UInt8} {rest : List Char} {x : Placeholder × TextRange}

theorem namedAt?_eq_some_iff (h : Stands before false (':' :: rest)) (hrest : rest.head? ≠ some ':')
    (hlen : before.length + 1 + Text.byteLength rest ≤ Text.maxOffset) :
    namedAt? before.length rest = some x ↔
      Occurs (before ++ [colon] ++ Text.encode rest) x ∧ x.2.start = before.length := by
  have hstart := any_behind nameStart_ascii before colon rest
  have hrun := longestRun_behind nameByte_ascii before colon rest
  have htext := extract_behind Text.isIdentChar before colon rest
  have hle := Text.byteLength_takeWhile_le Text.isIdentChar rest
  unfold namedAt?
  dsimp only
  rw [rangeAt_eq (by omega), ← Nat.add_assoc]
  constructor
  · intro hfound
    split at hfound
    · cases hfound
      obtain ⟨first, hcolons, hodd⟩ := h.exists_oddRun hrest
      refine ⟨.named ?_ hcolons hodd (hstart.trans ‹_›) ((hrun _).mpr rfl) ?_, rfl⟩
      · rw [List.append_assoc, List.take_left]
        exact h.even
      · rw [htext, Text.utf8_ofList]
    · cases hfound
  · rintro ⟨hx, hpos⟩
    cases hx with
    | @named name _ p stop _ _ _ hname hlongest hbytes =>
      obtain rfl : p = before.length := hpos
      obtain rfl := (hrun stop).mp hlongest
      have heq : name = String.ofList (rest.takeWhile Text.isIdentChar) :=
        utf8_injective (by rw [← hbytes, htext, Text.utf8_ofList])
      rw [if_pos (hstart.symm.trans hname), heq]
    | @positional p _ _ hmark =>
      obtain rfl : p = before.length := hpos
      simp [colon, mark] at hmark

theorem positionalAt?_eq_some_iff (h : Stands before false ('?' :: rest))
    (hlen : before.length + 1 + Text.byteLength rest ≤ Text.maxOffset) :
    positionalAt? before.length rest = some x ↔
      Occurs (before ++ [mark] ++ Text.encode rest) x ∧ x.2.start = before.length := by
  have hstart := any_behind digits_ascii before mark rest
  have hrun := longestRun_behind digits_ascii before mark rest
  have htext := extract_behind Char.isDigit before mark rest
  have hle := Text.byteLength_takeWhile_le Char.isDigit rest
  have hlabel := labelOf_eq (rest.takeWhile Char.isDigit) fun _ hc => List.mem_takeWhile_imp hc
  have hempty : (rest.takeWhile Char.isDigit).isEmpty = !rest.head?.any Char.isDigit := by
    cases rest with
    | nil => rfl
    | cons c rest => cases hc : c.isDigit <;> simp [hc]
  unfold positionalAt?
  dsimp only
  rw [rangeAt_eq (by omega), ← Nat.add_assoc, hempty, hlabel, ← htext]
  constructor
  · intro hfound
    split at hfound
    · cases hfound
    · cases hfound
      rename_i hdigit
      rw [Bool.not_eq_true', Bool.not_eq_false, ← hstart] at hdigit
      refine ⟨.positional ?_ (by simp) hdigit ((hrun _).mpr rfl), rfl⟩
      rw [List.append_assoc, List.take_left]
      exact h.even
  · rintro ⟨hx, hpos⟩
    cases hx with
    | @positional p stop _ _ hdigit hlongest =>
      obtain rfl : p = before.length := hpos
      obtain rfl := (hrun stop).mp hlongest
      rw [if_neg (by rw [← hstart, hdigit]; exact Bool.false_ne_true)]
    | @named _ first p _ _ hcolons hodd =>
      obtain rfl : p = before.length := hpos
      have hcolon := hcolons.inside before.length (by have := hodd.pos; omega) (Nat.lt_succ_self _)
      simp [colon, mark] at hcolon

end

/-- A placeholder starts with a colon or a question mark, and no other character has their bytes. -/
theorem not_occurs_inside {before after : List UInt8} {c : Char} {x : Placeholder × TextRange}
    (hcolon : c ≠ ':') (hmark : c ≠ '?') (hge : before.length ≤ x.2.start)
    (hlt : x.2.start < (before ++ String.utf8EncodeChar c).length) :
    ¬ Occurs (before ++ String.utf8EncodeChar c ++ after) x := by
  intro hx
  have hin : ∀ b, (before ++ String.utf8EncodeChar c ++ after)[x.2.start]? = some b →
      b ∈ String.utf8EncodeChar c := fun b hb => by
    rw [List.getElem?_append_left hlt, List.getElem?_append_right hge] at hb
    exact List.mem_of_getElem? hb
  rcases hx.byte with hb | hb
  · exact hcolon (Text.eq_of_mem_encodeChar (hin _ hb) (by decide))
  · exact hmark (Text.eq_of_mem_encodeChar (hin _ hb) (by decide))

/-- From any position on, the scan finds what occurs there. By induction on the scan: each step takes
what it has read to the bytes before it. -/
theorem mem_scanFrom_iff {before : List UInt8} {quoted : Bool} {cs : List Char}
    (h : Stands before quoted cs) (hlen : before.length + Text.byteLength cs ≤ Text.maxOffset)
    (x : Placeholder × TextRange) :
    x ∈ scanFrom before.length quoted cs ↔
      Occurs (before ++ Text.encode cs) x ∧ before.length ≤ x.2.start := by
  have hquote : '\''.utf8Size = 1 := rfl
  have hcolon : ':'.utf8Size = 1 := rfl
  have hmark : '?'.utf8Size = 1 := rfl
  have encode_colon := @Text.append_encode ':' colon rfl
  have encode_mark := @Text.append_encode '?' mark rfl
  have hhead : ∀ {rest : List Char}, (∀ more, rest = ':' :: more → False) →
      rest.head? ≠ some ':' := fun hne h => by
    obtain ⟨more, rfl⟩ := List.head?_eq_some_iff.mp h
    exact hne more rfl
  generalize hpos : before.length = pos at hlen ⊢
  fun_induction scanFrom pos quoted cs generalizing before <;> subst hpos
  case case1 =>
    refine ⟨nofun, fun ⟨hx, hle⟩ => ?_⟩
    have hnone : (before ++ Text.encode [])[x.2.start]? = none := by
      rw [Text.encode_nil, List.append_nil, List.getElem?_eq_none hle]
    rcases hx.byte with hbyte | hbyte <;> cases hnone.symm.trans hbyte
  case case2 rest ih =>
    rw [Text.byteLength_cons] at hlen
    rw [@Text.append_encode '\'' quote rfl]
    have hstep := ih h.quote (by simp) (by omega)
    refine hstep.trans (occurs_from_iff (by omega) ?_).symm
    intro hge hlt
    obtain hx : x.2.start = before.length := by omega
    exact not_occurs_of_byte (b := quote) (by simp [hx]) (by decide) (by decide)
  case case3 rest ih =>
    rw [Text.byteLength_cons, Text.byteLength_cons] at hlen
    rw [encode_colon, encode_colon]
    have hstep := ih h.casts (by simp) (by omega)
    refine hstep.trans (occurs_from_iff (by omega) ?_).symm
    intro hge hlt
    obtain hx | hx : x.2.start = before.length ∨ x.2.start = before.length + 1 := by omega
    · exact not_occurs_of_pair (by simp [hx]) (by simp [hx])
    · obtain ⟨k, hk, heven⟩ := h.exists_even
      exact not_occurs_of_even hk.push.push (heven.add even_two) (by simpa using hx)
  case case4 rest hne ih =>
    rw [Text.byteLength_cons] at hlen
    rw [encode_colon]
    have hstep := ih (h.single (hhead hne)) (by simp) (by omega)
    refine hstep.trans (occurs_from_iff (by omega) ?_).symm
    intro hge hlt
    rw [List.append_assoc]
    exact h.not_occurs (by omega)
  case case5 rest hne hout ih =>
    rw [Bool.not_eq_true] at hout
    subst hout
    rw [Text.byteLength_cons] at hlen
    rw [encode_colon, List.mem_append, Option.mem_toList,
      namedAt?_eq_some_iff h (hhead hne) (by omega)]
    have hstep := ih (h.single (hhead hne)) (by simp) (by omega)
    exact (or_congr_right hstep).trans occurs_here_or_later
  case case6 rest ih =>
    rw [Text.byteLength_cons] at hlen
    rw [encode_mark]
    have hstep := ih h.mark (by simp) (by omega)
    refine hstep.trans (occurs_from_iff (by omega) ?_).symm
    intro hge hlt
    rw [List.append_assoc]
    exact h.not_occurs (by omega)
  case case7 rest hout ih =>
    rw [Bool.not_eq_true] at hout
    subst hout
    rw [Text.byteLength_cons] at hlen
    rw [encode_mark, List.mem_append, Option.mem_toList,
      positionalAt?_eq_some_iff h (by omega)]
    have hstep := ih h.mark (by simp) (by omega)
    exact (or_congr_right hstep).trans occurs_here_or_later
  case case8 c rest hquote _ hcolon hmark ih =>
    have hlength : (before ++ String.utf8EncodeChar c).length = before.length + c.utf8Size := by
      simp
    rw [Text.byteLength_cons] at hlen
    rw [Text.encode_cons, ← List.append_assoc]
    have hstep := ih (h.other hquote hcolon) hlength (by omega)
    refine hstep.trans (occurs_from_iff (by omega) ?_).symm
    intro hge hlt
    exact not_occurs_inside hcolon hmark hge (by omega)

/-! ## Ranges and their order -/

/-- The range is that of some bytes from `start` on and before `stop`. -/
def Between (range : TextRange) (start stop : Nat) : Prop :=
  ∃ pos length, range = rangeAt pos length ∧ start ≤ pos ∧ pos + length ≤ stop

theorem Between.mono {range : TextRange} {start stop start' stop' : Nat}
    (h : Between range start stop) (hstart : start' ≤ start) (hstop : stop ≤ stop') :
    Between range start' stop' := by
  obtain ⟨pos, length, hrange, hpos, hend⟩ := h
  exact ⟨pos, length, hrange, hstart.trans hpos, hend.trans hstop⟩

theorem namedAt?_range {pos : Nat} {rest : List Char} {x : Placeholder × TextRange}
    (h : namedAt? pos rest = some x) :
    ∃ length, x.2 = rangeAt pos length ∧ length ≤ 1 + Text.byteLength rest := by
  unfold namedAt? at h
  split at h <;> cases h
  have hle := Text.byteLength_takeWhile_le Text.isIdentChar rest
  exact ⟨_, rfl, by omega⟩

theorem positionalAt?_range {pos : Nat} {rest : List Char} {x : Placeholder × TextRange}
    (h : positionalAt? pos rest = some x) :
    ∃ length, x.2 = rangeAt pos length ∧ length ≤ 1 + Text.byteLength rest := by
  unfold positionalAt? at h
  dsimp only at h
  split at h <;> cases h
  have hle := Text.byteLength_takeWhile_le Char.isDigit rest
  exact ⟨_, rfl, by omega⟩

/-- A placeholder stands in the text that is scanned. -/
theorem scanFrom_between {pos : Nat} {quoted : Bool} {cs : List Char} {x : Placeholder × TextRange}
    (hx : x ∈ scanFrom pos quoted cs) : Between x.2 pos (pos + Text.byteLength cs) := by
  have hquote : '\''.utf8Size = 1 := rfl
  have hcolon : ':'.utf8Size = 1 := rfl
  have hmark : '?'.utf8Size = 1 := rfl
  fun_induction scanFrom pos quoted cs <;> simp only [Text.byteLength_nil, Text.byteLength_cons]
  case case1 => cases hx
  case case2 ih | case3 ih | case4 ih | case6 ih | case8 ih =>
    exact (ih hx).mono (by omega) (by omega)
  case case5 ih =>
    rcases List.mem_append.mp hx with hx | hx
    · obtain ⟨length, hrange, hle⟩ := namedAt?_range (Option.mem_toList.mp hx)
      exact ⟨_, length, hrange, Nat.le_refl _, by omega⟩
    · exact (ih hx).mono (by omega) (by omega)
  case case7 ih =>
    rcases List.mem_append.mp hx with hx | hx
    · obtain ⟨length, hrange, hle⟩ := positionalAt?_range (Option.mem_toList.mp hx)
      exact ⟨_, length, hrange, Nat.le_refl _, by omega⟩
    · exact (ih hx).mono (by omega) (by omega)

/-- What is found stands in front of all that is found behind its first byte. -/
theorem increasing_cons {pos : Nat} {rest : List Char}
    (hlen : pos + 1 + Text.byteLength rest ≤ Text.maxOffset)
    {found : Option (Placeholder × TextRange)} {later : List (Placeholder × TextRange)}
    (hfound : ∀ x, found = some x →
      ∃ length, x.2 = rangeAt pos length ∧ length ≤ 1 + Text.byteLength rest)
    (hlater : ∀ x ∈ later, Between x.2 (pos + 1) (pos + 1 + Text.byteLength rest))
    (hpairs : later.Pairwise fun x y => x.2.start < y.2.start) :
    (found.toList ++ later).Pairwise fun x y => x.2.start < y.2.start := by
  cases found with
  | none => exact hpairs
  | some x =>
    refine List.pairwise_cons.mpr ⟨fun y hy => ?_, hpairs⟩
    obtain ⟨length, hx, hle⟩ := hfound x rfl
    obtain ⟨pos', length', hy, hpos, hend⟩ := hlater y hy
    rw [hx, hy, rangeAt_eq (by omega), rangeAt_eq (by omega)]
    exact hpos

theorem scanFrom_increasing {pos : Nat} {quoted : Bool} {cs : List Char}
    (hlen : pos + Text.byteLength cs ≤ Text.maxOffset) :
    (scanFrom pos quoted cs).Pairwise fun x y => x.2.start < y.2.start := by
  have hquote : '\''.utf8Size = 1 := rfl
  have hcolon : ':'.utf8Size = 1 := rfl
  have hmark : '?'.utf8Size = 1 := rfl
  fun_induction scanFrom pos quoted cs <;>
    simp only [Text.byteLength_nil, Text.byteLength_cons] at hlen
  case case1 => exact .nil
  case case2 ih | case3 ih | case4 ih | case6 ih | case8 ih => exact ih (by omega)
  case case5 ih =>
    exact increasing_cons (by omega) (fun _ => namedAt?_range) (fun _ => scanFrom_between)
      (ih (by omega))
  case case7 ih =>
    exact increasing_cons (by omega) (fun _ => positionalAt?_range) (fun _ => scanFrom_between)
      (ih (by omega))

/-! ## A whole query -/

/-- The scan of a query finds exactly what occurs in its bytes. The ranges follow each other without
overlap, and none of them cuts a character, neither at its ends nor behind its first byte. -/
theorem scan_occurrences {query : String} (hlen : byteLength query < 2 ^ 32) :
    (∀ x, x ∈ scan query ↔ Occurs (utf8 query) x) ∧
    (scan query).Pairwise (fun x y => x.2.stop ≤ y.2.start) ∧
    ∀ x ∈ scan query, x.2.start + 1 < x.2.stop ∧
      ∀ k ∈ [x.2.start, x.2.start + 1, x.2.stop], Text.isBoundary query.toList k = true := by
  have hmax : ([] : List UInt8).length + Text.byteLength query.toList ≤ Text.maxOffset := by
    rw [List.length_nil, Nat.zero_add]
    exact Nat.le_of_lt_succ hlen
  have hmem : ∀ x, x ∈ scan query ↔ Occurs (Text.encode query.toList) x := fun x => by
    simpa [scan] using mem_scanFrom_iff (.start query.toList) hmax x
  rw [Text.utf8_eq]
  refine ⟨hmem, ?_, fun x hx => ⟨((hmem x).mp hx).length_gt, fun k => ((hmem x).mp hx).isBoundary⟩⟩
  exact (scanFrom_increasing hmax).imp_of_mem fun hx hy =>
    ((hmem _).mp hx).disjoint ((hmem _).mp hy)

/-- Colons in quotes and between quotes, pairs of colons, a letter of two bytes, a number that
starts with a zero and one that is too great. -/
def dense : String := "':x''y' :::a::b ? é:n_1?07 :9 ?99999999999 ':z"

theorem scan_occurrences_dense : byteLength dense < 2 ^ 32 ∧
    scan dense = [(.named "a", ⟨10, 12⟩), (.named "n_1", ⟨20, 24⟩), (.positional 7, ⟨24, 27⟩),
      (.positional 4294967295, ⟨31, 43⟩)] ∧
    (∀ x, x ∈ scan dense ↔ Occurs (utf8 dense) x) ∧
    (scan dense).Pairwise (fun x y => x.2.stop ≤ y.2.start) ∧
    ∀ x ∈ scan dense, x.2.start + 1 < x.2.stop ∧
      ∀ k ∈ [x.2.start, x.2.start + 1, x.2.stop], Text.isBoundary dense.toList k = true := by
  have hlen : byteLength dense < 2 ^ 32 := by decide
  exact ⟨hlen, by decide +kernel, scan_occurrences hlen⟩

end Placeholder

end EntityQuery
