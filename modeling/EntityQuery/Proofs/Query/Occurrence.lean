import Mathlib
import EntityQuery.Proofs.Text.Encoding
import EntityQuery.Query.Placeholder
/-!
# Occurrences of placeholders

Where a query has placeholders can be said of its bytes, without a scan: outside quotes, at the last
colon of an odd run of colons in front of a name, and at a question mark in front of a number.

Results:
* `longestRun_iff`, `EndsInColons.run`: runs on both sides of a position.
* `Occurs.byte`, `not_occurs_of_pair`, `not_occurs_of_even`: where an occurrence may start.
* `Occurs.disjoint`, `Occurs.isBoundary`: occurrences do not overlap, and they cut no character.
-/
namespace EntityQuery

namespace Placeholder

/-! ## Occurrences in bytes -/

def quote : UInt8 := 0x27

def colon : UInt8 := 0x3a

def mark : UInt8 := 0x3f

def isDigitByte (b : UInt8) : Bool := 0x30 ≤ b && b ≤ 0x39

def isLetterByte (b : UInt8) : Bool := 0x41 ≤ b && b ≤ 0x5a || 0x61 ≤ b && b ≤ 0x7a

/-- What a name may start with. -/
def isNameStart (b : UInt8) : Bool := isLetterByte b || b == 0x5f

def isNameByte (b : UInt8) : Bool := isLetterByte b || isDigitByte b || b == 0x5f

/-- The bytes from `i` up to `j` satisfy `p`, and the one at `j` does not. -/
structure LongestRun (p : UInt8 → Bool) (bs : List UInt8) (i j : Nat) : Prop where
  le : i ≤ j
  inside : ∀ k, i ≤ k → k < j → bs[k]?.any p = true
  ended : bs[j]?.any p = false

/-- The run goes no further on the left, either. -/
structure MaximalRun (p : UInt8 → Bool) (bs : List UInt8) (i j : Nat) : Prop extends
    LongestRun p bs i j where
  started : ∀ k, k + 1 = i → bs[k]?.any p = false

/-- The value of decimal digits. -/
def decimal (digits : List UInt8) : Nat :=
  Nat.ofDigits 10 (digits.reverse.map fun b => b.toNat - 0x30)

/-- The placeholder occurs in the bytes, and the range is that of its text. -/
inductive Occurs (bs : List UInt8) : Placeholder × TextRange → Prop where
  | named {name : String} {first p stop : Nat} (outside : Even ((bs.take p).count quote))
      (colons : MaximalRun (· == colon) bs first (p + 1)) (odd : Odd (p + 1 - first))
      (start : bs[p + 1]?.any isNameStart = true) (longest : LongestRun isNameByte bs (p + 1) stop)
      (text : bs.extract (p + 1) stop = utf8 name) : Occurs bs (.named name, ⟨p, stop⟩)
  | positional {p stop : Nat} (outside : Even ((bs.take p).count quote))
      (mark : bs[p]? = some mark) (start : bs[p + 1]?.any isDigitByte = true)
      (longest : LongestRun isDigitByte bs (p + 1) stop) :
      Occurs bs (.positional (min (decimal (bs.extract (p + 1) stop)) (2 ^ 32 - 1)), ⟨p, stop⟩)

/-! ## Classes of bytes -/

theorem digits_ascii : Text.AsciiClass Char.isDigit isDigitByte where
  same := by decide
  char c h := by
    simp only [Char.isDigit, Bool.and_eq_true, decide_eq_true_eq, UInt32.le_iff_toNat_le] at h
    exact Nat.lt_of_le_of_lt h.2 (by decide)
  byte b h := by
    simp only [isDigitByte, Bool.and_eq_true, decide_eq_true_eq, UInt8.le_iff_toNat_le] at h
    exact Nat.lt_of_le_of_lt h.2 (by decide)

theorem letters_ascii : Text.AsciiClass Char.isAlpha isLetterByte where
  same := by decide
  char c h := by
    simp only [Char.isAlpha, Char.isUpper, Char.isLower, Bool.or_eq_true, Bool.and_eq_true,
      decide_eq_true_eq, UInt32.le_iff_toNat_le, ge_iff_le] at h
    rcases h with h | h <;> exact Nat.lt_of_le_of_lt h.2 (by decide)
  byte b h := by
    simp only [isLetterByte, Bool.or_eq_true, Bool.and_eq_true, decide_eq_true_eq,
      UInt8.le_iff_toNat_le] at h
    rcases h with h | h <;> exact Nat.lt_of_le_of_lt h.2 (by decide)

theorem underscore_ascii : Text.AsciiClass (· == '_') (· == 0x5f) := .single (by decide)

theorem colon_ascii : Text.AsciiClass (· == ':') (· == colon) := .single (by decide)

theorem nameStart_ascii : Text.AsciiClass Text.isIdentStart isNameStart :=
  letters_ascii.or underscore_ascii

theorem nameByte_ascii : Text.AsciiClass Text.isIdentChar isNameByte :=
  (letters_ascii.or digits_ascii).or underscore_ascii

/-! ## Runs -/

section
variable {p : UInt8 → Bool} {bs : List UInt8} {i i' j j' : Nat}

theorem LongestRun.unique (h : LongestRun p bs i j) (h' : LongestRun p bs i j') : j = j' := by
  by_contra hne
  rcases Nat.lt_or_gt_of_ne hne with hlt | hlt
  · exact Bool.false_ne_true (h.ended.symm.trans (h'.inside j h.le hlt))
  · exact Bool.false_ne_true (h'.ended.symm.trans (h.inside j' h'.le hlt))

theorem MaximalRun.start_le (h : MaximalRun p bs i j) (h' : MaximalRun p bs i' j) : i ≤ i' := by
  by_contra hlt
  obtain ⟨k, rfl⟩ : ∃ k, i = k + 1 := ⟨i - 1, by omega⟩
  have hle := h.le
  exact Bool.false_ne_true ((h.started k rfl).symm.trans (h'.inside k (by omega) (by omega)))

theorem MaximalRun.unique (h : MaximalRun p bs i j) (h' : MaximalRun p bs i' j) : i = i' :=
  Nat.le_antisymm (h.start_le h') (h'.start_le h)

theorem longestRun_append (before : List UInt8) {run after : List UInt8}
    (hrun : ∀ b ∈ run, p b = true) (hafter : after.head?.any p = false) :
    LongestRun p (before ++ (run ++ after)) before.length (before.length + run.length) where
  le := Nat.le_add_right _ _
  inside k hk hlt := by
    rw [List.getElem?_append_right hk, List.getElem?_append_left (by omega),
      List.getElem?_eq_getElem (by omega)]
    exact hrun _ (List.getElem_mem _)
  ended := by
    rwa [List.getElem?_append_right (Nat.le_add_right _ _), Nat.add_sub_cancel_left,
      List.getElem?_append_right (Nat.le_refl _), Nat.sub_self, ← List.head?_eq_getElem?]

/-- The longest run is what `takeWhile` takes. -/
theorem longestRun_iff {before after : List UInt8} :
    LongestRun p (before ++ after) before.length j ↔
      j = before.length + (after.takeWhile p).length := by
  have hrest : (after.dropWhile p).head?.any p = false := by
    have hnot := List.head?_dropWhile_not p after
    cases h : (after.dropWhile p).head? with
    | none => rfl
    | some b => simpa [h] using hnot
  have hall : ∀ b ∈ after.takeWhile p, p b = true := fun _ hb => List.mem_takeWhile_imp hb
  have hrun := longestRun_append before hall hrest
  rw [List.takeWhile_append_dropWhile] at hrun
  exact ⟨fun h => h.unique hrun, fun h => h ▸ hrun⟩

end

/-- The bytes end with `k` colons, and something else stands before these. -/
def EndsInColons (before : List UInt8) (k : Nat) : Prop :=
  ∃ start, before = start ++ List.replicate k colon ∧ start.getLast? ≠ some colon

namespace EndsInColons

variable {before after : List UInt8} {k first : Nat}

theorem of_getLast? (h : before.getLast? ≠ some colon) : EndsInColons before 0 :=
  ⟨before, by simp, h⟩

theorem push (h : EndsInColons before k) : EndsInColons (before ++ [colon]) (k + 1) := by
  obtain ⟨start, rfl, hlast⟩ := h
  exact ⟨start, by rw [List.append_assoc, List.replicate_succ'], hlast⟩

/-- They are a maximal run if no further colon follows. -/
theorem run (h : EndsInColons before k) (hafter : after.head?.any (· == colon) = false) :
    MaximalRun (· == colon) (before ++ after) (before.length - k) before.length := by
  obtain ⟨start, rfl, hlast⟩ := h
  have hlength : (start ++ List.replicate k colon).length = start.length + k := by simp
  have hcolons : ∀ b ∈ List.replicate k colon, (b == colon) = true :=
    fun b hb => by simp [List.eq_of_mem_replicate hb]
  have hrun := longestRun_append start hcolons hafter
  rw [hlength, Nat.add_sub_cancel, List.append_assoc]
  refine ⟨by simpa using hrun, fun i hi => ?_⟩
  rw [List.getElem?_append_left (by omega), ← Nat.add_sub_cancel (n := i) (m := 1), hi,
    ← List.getLast?_eq_getElem?]
  cases h : start.getLast? with
  | none => rfl
  | some b => simpa [h] using hlast

theorem eq_of_run (h : EndsInColons before k)
    (hrun : MaximalRun (· == colon) (before ++ after) first before.length) :
    before.length - first = k := by
  have hafter : after.head?.any (· == colon) = false := by
    have hended := hrun.ended
    rwa [List.getElem?_append_right (Nat.le_refl _), Nat.sub_self,
      ← List.head?_eq_getElem?] at hended
  have hk : k ≤ before.length := by
    obtain ⟨start, rfl, -⟩ := h
    simp
  rw [hrun.unique (h.run hafter)]
  omega

end EndsInColons

/-! ## Occurrences at a position -/

section
variable {bs : List UInt8} {x : Placeholder × TextRange}

theorem Occurs.byte (h : Occurs bs x) :
    bs[x.2.start]? = some colon ∨ bs[x.2.start]? = some mark := by
  cases h with
  | @named _ first p _ _ colons odd =>
    have hpos := odd.pos
    have hp := colons.inside p (by omega) (Nat.lt_succ_self p)
    obtain ⟨b, hb, heq⟩ := (Option.any_eq_true _ _).mp hp
    exact .inl (hb.trans (congrArg some (eq_of_beq heq)))
  | positional _ hmark => exact .inr hmark

theorem Occurs.outside (h : Occurs bs x) : Even ((bs.take x.2.start).count quote) := by
  cases h <;> assumption

/-- Nothing occurs at a byte that is neither a colon nor a question mark. -/
theorem not_occurs_of_byte {b : UInt8} (hb : bs[x.2.start]? = some b) (hcolon : b ≠ colon)
    (hmark : b ≠ mark) : ¬ Occurs bs x := by
  intro h
  rcases h.byte with h | h <;> rw [hb] at h
  · exact hcolon (Option.some.inj h)
  · exact hmark (Option.some.inj h)

/-- The first colon of a pair is not the last one of its run. -/
theorem not_occurs_of_pair (h0 : bs[x.2.start]? = some colon)
    (h1 : bs[x.2.start + 1]? = some colon) : ¬ Occurs bs x := by
  intro h
  cases h with
  | named _ colons => simpa [h1] using colons.ended
  | positional _ hmark => cases h0.symm.trans hmark

theorem not_occurs_of_even {before after : List UInt8} {k : Nat}
    (hends : EndsInColons (before ++ [colon]) k) (hk : Even k)
    (hx : x.2.start = before.length) : ¬ Occurs (before ++ [colon] ++ after) x := by
  intro h
  cases h with
  | @named _ first p _ _ colons odd =>
    obtain rfl : p = before.length := hx
    have hlength : before.length + 1 = (before ++ [colon]).length := by simp
    rw [hlength] at colons odd
    rw [hends.eq_of_run colons] at odd
    exact Nat.not_even_iff_odd.mpr odd hk
  | @positional p _ _ hmark =>
    obtain rfl : p = before.length := hx
    simp [colon, mark] at hmark

end

/-- Where nothing occurs before `j`, the occurrences from `i` on are those from `j` on. -/
theorem occurs_from_iff {bs : List UInt8} {x : Placeholder × TextRange} {i j : Nat} (hle : i ≤ j)
    (hnone : i ≤ x.2.start → x.2.start < j → ¬ Occurs bs x) :
    Occurs bs x ∧ i ≤ x.2.start ↔ Occurs bs x ∧ j ≤ x.2.start := by
  refine and_congr_right fun hx => ⟨fun hi => ?_, hle.trans⟩
  by_contra hj
  exact hnone hi (Nat.lt_of_not_le hj) hx

theorem occurs_here_or_later {bs : List UInt8} {x : Placeholder × TextRange} {i : Nat} :
    (Occurs bs x ∧ x.2.start = i) ∨ (Occurs bs x ∧ i + 1 ≤ x.2.start) ↔
      Occurs bs x ∧ i ≤ x.2.start := by
  rw [← and_or_left]
  exact and_congr_right fun _ => by omega

/-! ## Extent of an occurrence -/

section
variable {bs : List UInt8} {x y : Placeholder × TextRange}

theorem isNameByte_of_isNameStart {b : UInt8} (h : isNameStart b = true) : isNameByte b = true := by
  rw [isNameStart, Bool.or_eq_true] at h
  rw [isNameByte, Bool.or_eq_true, Bool.or_eq_true]
  exact h.imp_left .inl

theorem isNameByte_of_isDigitByte {b : UInt8} (h : isDigitByte b = true) : isNameByte b = true := by
  rw [isNameByte, h, Bool.or_true, Bool.true_or]

theorem any_mono {p q : UInt8 → Bool} (hpq : ∀ b, p b = true → q b = true) {b? : Option UInt8}
    (h : b?.any p = true) : b?.any q = true := by
  cases b? with
  | none => cases h
  | some b => exact hpq b h

/-- Behind its first byte, an occurrence is made of letters, digits and underscores. -/
theorem Occurs.inside (h : Occurs bs x) {k : Nat} (hk : x.2.start < k) (hlt : k < x.2.stop) :
    bs[k]?.any isNameByte = true := by
  cases h with
  | named _ _ _ _ hlongest => exact hlongest.inside k hk hlt
  | positional _ _ _ hlongest =>
    exact any_mono (fun _ => isNameByte_of_isDigitByte) (hlongest.inside k hk hlt)

theorem LongestRun.lt {p : UInt8 → Bool} {i j : Nat} (h : LongestRun p bs i j)
    (hi : bs[i]?.any p = true) : i < j := by
  refine Nat.lt_of_le_of_ne h.le ?_
  rintro rfl
  exact Bool.false_ne_true (h.ended.symm.trans hi)

theorem Occurs.length_gt (h : Occurs bs x) : x.2.start + 1 < x.2.stop := by
  cases h with
  | named _ _ _ hstart hlongest =>
    exact hlongest.lt (any_mono (fun _ => isNameByte_of_isNameStart) hstart)
  | positional _ _ hstart hlongest => exact hlongest.lt hstart

/-- No occurrence starts inside another one. -/
theorem Occurs.disjoint (hx : Occurs bs x) (hy : Occurs bs y) (hlt : x.2.start < y.2.start) :
    x.2.stop ≤ y.2.start := by
  by_contra hcross
  have hname := hx.inside hlt (Nat.lt_of_not_le hcross)
  rcases hy.byte with h | h <;> rw [h] at hname <;> cases hname

theorem Occurs.isBoundary {cs : List Char} (h : Occurs (Text.encode cs) x) {k : Nat}
    (hk : k ∈ [x.2.start, x.2.start + 1, x.2.stop]) : Text.isBoundary cs k = true := by
  have hfirst : Text.isBoundary cs x.2.start = true ∧
      Text.isBoundary cs (x.2.start + 1) = true := by
    rcases h.byte with hb | hb <;> exact Text.isBoundary_of_ascii hb (by decide)
  have hgt := h.length_gt
  obtain ⟨b, hb, hname⟩ := (Option.any_eq_true _ _).mp
    (h.inside (k := x.2.stop - 1) (by omega) (by omega))
  have hlast := (Text.isBoundary_of_ascii hb (nameByte_ascii.byte b hname)).2
  rw [Nat.sub_add_cancel (by omega)] at hlast
  simp only [List.mem_cons, List.not_mem_nil, or_false] at hk
  rcases hk with rfl | rfl | rfl
  · exact hfirst.1
  · exact hfirst.2
  · exact hlast

end

end Placeholder

end EntityQuery
