import Mathlib
import EntityQuery.Text.Offset
/-!
# Positions as places in the UTF-8 form

`byteLength` counts the bytes of the UTF-8 form that a string holds, so positions are indices into
these bytes, and the text between two positions is a slice of them.

Results:
* `byteLength_eq_size`: the length is the number of bytes.
* `slice_within`: between positions of a part, the whole and the part hold the same bytes.
-/
namespace EntityQuery

theorem Text.byteLength_eq_size (cs : List Char) : byteLength cs = cs.utf8Encode.size := by
  induction cs with
  | nil => rfl
  | cons c cs ih =>
    rw [byteLength_cons, ih, List.utf8Encode_cons, ByteArray.size_append, List.utf8Encode_singleton,
      List.size_toByteArray, String.length_utf8EncodeChar]

theorem byteLength_eq_size (s : String) : byteLength s = s.toByteArray.size := by
  rw [byteLength, Text.byteLength_eq_size, String.utf8Encode_toList]

@[simp] theorem byteLength_append (s t : String) :
    byteLength (s ++ t) = byteLength s + byteLength t := by
  simp [byteLength]

theorem Text.byteLength_takeWhile_le (p : Char → Bool) (cs : List Char) :
    Text.byteLength (cs.takeWhile p) ≤ Text.byteLength cs := by
  have h := Text.byteLength_append (cs.takeWhile p) (cs.dropWhile p)
  rw [List.takeWhile_append_dropWhile] at h
  omega

/-- The bytes of the UTF-8 form between two positions. -/
def slice (s : String) (range : TextRange) : ByteArray :=
  s.toByteArray.extract range.start range.stop

/-- The part `f` of a text, at its position in the text. -/
theorem extract_within {before f after : ByteArray} {start stop : Nat}
    (hstart : before.size ≤ start) (hstop : stop ≤ before.size + f.size) :
    (before ++ f ++ after).extract start stop =
      f.extract (start - before.size) (stop - before.size) := by
  have hbefore : before.extract start stop = ByteArray.empty :=
    ByteArray.extract_eq_empty_iff.mpr (by omega)
  have hafter : after.extract (start - (before ++ f).size) (stop - (before ++ f).size) =
      ByteArray.empty :=
    ByteArray.extract_eq_empty_iff.mpr (by rw [ByteArray.size_append]; omega)
  rw [ByteArray.extract_append, ByteArray.extract_append, hbefore, hafter, ByteArray.empty_append,
    ByteArray.append_empty]

theorem slice_within {before f after : String} {range : TextRange}
    (hstart : byteLength before ≤ range.start)
    (hstop : range.stop ≤ byteLength before + byteLength f) :
    slice (before ++ f ++ after) range =
      slice f ⟨range.start - byteLength before, range.stop - byteLength before⟩ := by
  simp only [byteLength_eq_size] at *
  exact extract_within hstart hstop

end EntityQuery
