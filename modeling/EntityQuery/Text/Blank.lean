/-!
# Blank text

`isBlank` is the `White_Space` property of characters. A text is blank when nothing but blank
characters stand in it.
-/
namespace EntityQuery.Text

/-- The characters with the property `White_Space`. -/
def blankCodes : List Nat :=
  [0x9, 0xA, 0xB, 0xC, 0xD, 0x20, 0x85, 0xA0, 0x1680, 0x2000, 0x2001, 0x2002, 0x2003, 0x2004,
   0x2005, 0x2006, 0x2007, 0x2008, 0x2009, 0x200A, 0x2028, 0x2029, 0x202F, 0x205F, 0x3000]

/-- Whether a character is white space. -/
def isBlank (c : Char) : Bool := blankCodes.contains c.toNat

/-- The text without the blank characters at its start. -/
def trimStart (cs : List Char) : List Char := cs.dropWhile isBlank

/-- Whether nothing but white space stands in the text. -/
def allBlank (cs : List Char) : Bool := cs.all isBlank

theorem trimStart_eq_nil_iff (cs : List Char) : trimStart cs = [] ↔ allBlank cs = true := by
  induction cs with
  | nil => simp [trimStart, allBlank]
  | cons c cs ih =>
    cases h : isBlank c <;> simp_all [trimStart, allBlank, List.dropWhile]

end EntityQuery.Text
