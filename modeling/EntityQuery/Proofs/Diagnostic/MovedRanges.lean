import Mathlib
import EntityQuery.Diagnostic.Origin
/-!
# Ranges moved into the source

A move takes each end of a range as far behind the first character of the literal as it lies behind
the offset. Ends before the offset go to that character, and ends past the greatest position to that
position. So the order of positions is kept, and with it nesting.

`remap` calculates with integers. `remapWords` is the same calculation with signed words of 64 bits:
no sum and no difference of positions leaves them, so nothing wraps around.

Results:
* `remap_of_order`, `remap_of_within`: the ends of a range are moved one by one, and within the
  literal by the same distance.
* `remap_nested`: nested ranges stay nested.
* `remapWords_eq`: words of 64 bits are enough.
* `remap_saturates`: where a range goes, and what a move of findings leaves alone.
-/
namespace EntityQuery

/-- The ends of a range are moved one by one. -/
theorem remap_of_order (literalStart offset : Nat) {span : TextRange}
    (horder : span.start ≤ span.stop) : remap literalStart span offset =
      ⟨Text.narrow (literalStart + 1 + (span.start - offset)),
        Text.narrow (literalStart + 1 + (span.stop - offset))⟩ := by
  unfold remap
  simp only [TextRange.mk.injEq]
  constructor <;>
  · congr 1
    omega

/-- Both ends of a range within the literal are moved by the same distance, if they fit. -/
theorem remap_of_within (literalStart : Nat) {offset : Nat} {range : TextRange}
    (hstart : offset ≤ range.start) (hstop : range.start ≤ range.stop)
    (hmax : literalStart + 1 + (range.stop - offset) ≤ Text.maxOffset) :
    remap literalStart range offset =
      ⟨literalStart + 1 + (range.start - offset), literalStart + 1 + (range.stop - offset)⟩ := by
  rw [remap_of_order literalStart offset hstop, Text.narrow_of_le (by omega),
    Text.narrow_of_le hmax]

theorem Text.narrow_mono {n k : Nat} (h : n ≤ k) : narrow n ≤ narrow k := by
  unfold narrow
  omega

namespace TextRange

/-- The range does not end before it starts. -/
def Ordered (range : TextRange) : Prop := range.start ≤ range.stop

/-- The range lies within another. -/
def Nested (inner outer : TextRange) : Prop :=
  outer.start ≤ inner.start ∧ inner.stop ≤ outer.stop

end TextRange

theorem remap_ordered (literalStart offset : Nat) {span : TextRange} (h : span.Ordered) :
    (remap literalStart span offset).Ordered := by
  rw [remap_of_order literalStart offset h]
  have hle : span.start ≤ span.stop := h
  exact Text.narrow_mono (by omega)

/-- A move keeps the order of all ends, so an inner range stays inside. -/
theorem remap_nested (literalStart offset : Nat) {inner outer : TextRange} (hinner : inner.Ordered)
    (houter : outer.Ordered) (h : inner.Nested outer) :
    (remap literalStart inner offset).Nested (remap literalStart outer offset) := by
  rw [remap_of_order literalStart offset hinner, remap_of_order literalStart offset houter]
  obtain ⟨hstart, hstop⟩ := h
  constructor
  · exact Text.narrow_mono (by omega)
  · exact Text.narrow_mono (by omega)

/-! ## The same in words -/

/-- A position as a signed word. -/
def signedWord (p : UInt32) : Int64 := p.toUInt64.toInt64

/-- A signed word as a position. One that is none becomes the greatest. -/
def positionOf (w : Int64) : UInt32 :=
  if 0 ≤ w ∧ w ≤ 4294967295 then w.toUInt64.toUInt32 else 4294967295

/-- Start and end of a moved range, calculated with signed words. -/
def remapWords (literalStart start stop offset : UInt32) : UInt32 × UInt32 :=
  let movedStart := max (signedWord start - signedWord offset) 0
  let movedStop := max (signedWord stop - signedWord offset) movedStart
  let base := signedWord literalStart + 1
  (positionOf (base + movedStart), positionOf (base + movedStop))

/-- What fits into a signed word is not reduced. -/
theorem bmod_word {n : Int} (hlower : -2 ^ 63 ≤ n) (hupper : n < 2 ^ 63) :
    n.bmod (2 ^ 64) = n :=
  Int.bmod_eq_of_le (by omega) (by omega)

theorem toInt_signedWord (p : UInt32) : (signedWord p).toInt = p.toNat := by
  have hp := p.toNat_lt
  have hword : p.toUInt64 = UInt64.ofNat p.toNat := by
    apply UInt64.toNat_inj.mp
    rw [UInt32.toNat_toUInt64, UInt64.toNat_ofNat']
    omega
  rw [signedWord, hword, UInt64.toInt64_ofNat']
  exact Int64.toInt_ofNat_of_lt (by omega)

theorem toInt_max (a b : Int64) : (max a b).toInt = max a.toInt b.toInt := by
  change (if a ≤ b then b else a).toInt = max a.toInt b.toInt
  split
  · next h => rw [max_eq_right (Int64.le_iff_toInt_le.mp h)]
  · next h =>
    have hlt := mt Int64.le_iff_toInt_le.mpr h
    omega

/-- Words that are not negative are narrowed as integers are. -/
theorem toNat_positionOf {w : Int64} (h : 0 ≤ w.toInt) :
    (positionOf w).toNat = Text.narrow w.toInt.toNat := by
  have hle : 0 ≤ w := Int64.le_iff_toInt_le.mpr h
  have hvalue : w.toUInt64.toNat = w.toInt.toNat := Int64.toNat_toUInt64_of_le hle
  unfold positionOf Text.narrow Text.maxOffset
  by_cases hmax : w ≤ 4294967295
  · have hfits : w.toInt ≤ 4294967295 := Int64.le_iff_toInt_le.mp hmax
    rw [if_pos ⟨hle, hmax⟩, UInt64.toNat_toUInt32, hvalue]
    omega
  · have hfits : ¬ w.toInt ≤ 4294967295 := fun hle => hmax (Int64.le_iff_toInt_le.mpr hle)
    rw [if_neg fun hboth => hmax hboth.2]
    change 4294967295 = _
    omega

/-- The calculation in words comes to the range that the one with integers comes to. -/
theorem remapWords_eq (literalStart start stop offset : UInt32) :
    remap literalStart.toNat ⟨start.toNat, stop.toNat⟩ offset.toNat =
      ⟨(remapWords literalStart start stop offset).1.toNat,
        (remapWords literalStart start stop offset).2.toNat⟩ := by
  have hl := literalStart.toNat_lt
  have hs := start.toNat_lt
  have he := stop.toNat_lt
  have ho := offset.toNat_lt
  -- no difference of positions leaves the words, and no sum with the base does
  have hshift (p : UInt32) :
      (signedWord p - signedWord offset).toInt = (p.toNat : Int) - offset.toNat := by
    have hp := p.toNat_lt
    rw [Int64.toInt_sub, toInt_signedWord, toInt_signedWord, bmod_word (by omega) (by omega)]
  have hbase : (signedWord literalStart + 1).toInt = (literalStart.toNat : Int) + 1 := by
    rw [Int64.toInt_add, toInt_signedWord, Int64.toInt_one, bmod_word (by omega) (by omega)]
  have hend {w : Int64} (hlower : 0 ≤ w.toInt) (hupper : w.toInt < 2 ^ 32) :
      (positionOf (signedWord literalStart + 1 + w)).toNat =
        Text.narrow ((literalStart.toNat : Int) + 1 + w.toInt).toNat := by
    have hsum : (signedWord literalStart + 1 + w).toInt =
        (literalStart.toNat : Int) + 1 + w.toInt := by
      rw [Int64.toInt_add, hbase, bmod_word (by omega) (by omega)]
    rw [toNat_positionOf (by omega), hsum]
  have hstart : (max (signedWord start - signedWord offset) 0).toInt =
      max ((start.toNat : Int) - offset.toNat) 0 := by
    rw [toInt_max, hshift, Int64.toInt_zero]
  have hstop : (max (signedWord stop - signedWord offset)
      (max (signedWord start - signedWord offset) 0)).toInt =
        max ((stop.toNat : Int) - offset.toNat) (max ((start.toNat : Int) - offset.toNat) 0) := by
    rw [toInt_max, hshift, hstart]
  simp only [remap, remapWords, TextRange.mk.injEq]
  constructor
  · rw [hend (by omega) (by omega), hstart]
  · rw [hend (by omega) (by omega), hstop]

/-! ## Where a range goes -/

/-- A range is moved end by end, as integers are, and cut off at the greatest position; signed words
of 64 bits come to the same. It ends no earlier than it starts, and ranges within it stay within it.
A move of findings moves their ranges and leaves all else alone. -/
theorem remap_saturates (literalStart offset start stop : UInt32) (horder : start ≤ stop) :
    let span : TextRange := ⟨start.toNat, stop.toNat⟩
    let moved := remap literalStart.toNat span offset.toNat
    (moved.start : Int) =
      min (2 ^ 32 - 1) (literalStart.toNat + 1 + max 0 ((start.toNat : Int) - offset.toNat)) ∧
    (moved.stop : Int) =
      min (2 ^ 32 - 1) (literalStart.toNat + 1 + max 0 ((stop.toNat : Int) - offset.toNat)) ∧
    (remapWords literalStart start stop offset).1.toNat = moved.start ∧
    (remapWords literalStart start stop offset).2.toNat = moved.stop ∧
    moved.start ≤ moved.stop ∧
    (∀ inner : TextRange, inner.Ordered → inner.Nested span →
      (remap literalStart.toNat inner offset.toNat).Nested moved) ∧
    ∀ ds : Diagnostics,
      let findings := ds.remapped ⟨literalStart.toNat, offset.toNat⟩
      findings.map (·.range) =
        ds.map (fun d => remap literalStart.toNat d.range offset.toNat) ∧
      findings.map (fun d => (d.kind, d.severity, d.message, d.hints)) =
        ds.map fun d => (d.kind, d.severity, d.message, d.hints) := by
  have hspan : TextRange.Ordered ⟨start.toNat, stop.toNat⟩ := UInt32.le_iff_toNat_le.mp horder
  have hends := remap_of_order literalStart.toNat offset.toNat hspan
  have hwords := remapWords_eq literalStart start stop offset
  intro span moved
  refine ⟨?_, ?_, ?_, ?_, remap_ordered _ _ hspan, ?_, ?_⟩
  · simp only [moved, span, hends, Text.narrow, Text.maxOffset]
    omega
  · simp only [moved, span, hends, Text.narrow, Text.maxOffset]
    omega
  · exact (congrArg TextRange.start hwords).symm
  · exact (congrArg TextRange.stop hwords).symm
  · intro inner hinner hnested
    exact remap_nested _ _ hinner hspan hnested
  · intro ds
    refine ⟨?_, Diagnostics.remapped_eq ds _⟩
    simp [Diagnostics.remapped, LiteralOrigin.remap]

/-- A range from generated text on, of a literal near the end of all positions: it starts with the
contents and ends at the greatest position. -/
theorem remap_saturates_both : (12 : UInt32) ≤ 30 ∧
    (remap 4294967290 ⟨12, 30⟩ 18).start = 4294967291 ∧
    (remap 4294967290 ⟨12, 30⟩ 18).stop = 4294967295 := by
  have horder : (12 : UInt32) ≤ 30 := by decide
  obtain ⟨hstart, hstop, -⟩ := remap_saturates 4294967290 18 12 30 horder
  refine ⟨horder, ?_, ?_⟩
  · exact Int.ofNat_inj.mp (hstart.trans (by decide))
  · exact Int.ofNat_inj.mp (hstop.trans (by decide))

end EntityQuery
