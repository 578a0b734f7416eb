/-!
# Byte offsets and ranges

Positions in a text count bytes of its UTF-8 form. `byteLength` measures a list of characters,
`TextRange` is a half-open interval of positions, and `isBoundary` says which positions lie between
two characters.

A position that is reported has 32 bits. Some are cut off at the greatest one (`narrow`); for the
others there is no position to report, and a run that comes to a range which does not fit
(`TextRange.Fits`) is broken off.

Results:
* `byteLength_append`, `byteLength_pos`: lengths add up, and no character is empty.
* `narrow_le`, `narrow_of_le`: a narrowed position fits, and one that fits is left alone.
-/
namespace EntityQuery

namespace Text

/-- Number of bytes of the UTF-8 form. -/
def byteLength : List Char → Nat
  | [] => 0
  | c :: cs => c.utf8Size + byteLength cs

@[simp] theorem byteLength_nil : byteLength [] = 0 := rfl

@[simp] theorem byteLength_cons (c : Char) (cs : List Char) :
    byteLength (c :: cs) = c.utf8Size + byteLength cs := rfl

@[simp] theorem byteLength_append (cs ds : List Char) :
    byteLength (cs ++ ds) = byteLength cs + byteLength ds := by
  induction cs with
  | nil => simp
  | cons c cs ih => simp [ih, Nat.add_assoc]

theorem byteLength_pos (c : Char) (cs : List Char) : 0 < byteLength (c :: cs) := by
  have := c.utf8Size_pos
  simp; omega

/-- Whether the position `n` lies between two characters, at the start or at the end. -/
def isBoundary : List Char → Nat → Bool
  | _, 0 => true
  | [], _ + 1 => false
  | c :: cs, n + 1 => c.utf8Size ≤ n + 1 && isBoundary cs (n + 1 - c.utf8Size)

/-- The characters before the position `n` and those from it on; `none` if `n` cuts a character or
lies beyond the end. -/
def splitAtByte : List Char → Nat → Option (List Char × List Char)
  | cs, 0 => some ([], cs)
  | [], _ + 1 => none
  | c :: cs, n + 1 =>
    if c.utf8Size ≤ n + 1 then
      (splitAtByte cs (n + 1 - c.utf8Size)).map fun (before, after) => (c :: before, after)
    else none

/-- The greatest position. -/
def maxOffset : Nat := 4294967295

/-- The position nearest to `n` that fits in 32 bits. -/
def narrow (n : Nat) : Nat := min n maxOffset

theorem narrow_le (n : Nat) : narrow n ≤ maxOffset := Nat.min_le_right _ _

theorem narrow_of_le {n : Nat} (h : n ≤ maxOffset) : narrow n = n := Nat.min_eq_left h

end Text

/-- Number of bytes of a string's UTF-8 form. -/
def byteLength (s : String) : Nat := Text.byteLength s.toList

/-- The positions from `start` up to, not including, `stop`. -/
structure TextRange where
  start : Nat
  stop : Nat
  deriving DecidableEq, Repr, Inhabited

namespace TextRange

/-- The whole of `text`. -/
def whole (text : String) : TextRange := ⟨0, byteLength text⟩

/-- The whole of `text`, cut off at the greatest position. -/
def upTo (text : String) : TextRange := ⟨0, Text.narrow (byteLength text)⟩

/-- The empty range at `n`. -/
def empty (n : Nat) : TextRange := ⟨n, n⟩

/-- The range ends at a position that fits in 32 bits. -/
def Fits (r : TextRange) : Prop := r.stop ≤ Text.maxOffset

instance (r : TextRange) : Decidable r.Fits := inferInstanceAs (Decidable (r.stop ≤ Text.maxOffset))

end TextRange

end EntityQuery
