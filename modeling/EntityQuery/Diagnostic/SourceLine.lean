import EntityQuery.Text.Blank
import EntityQuery.Text.Offset
import EntityQuery.Text.Width
/-!
# Lines of a source

A source is cut into lines at its line ends; a line end after the last line starts no further line.
A `Location` is a byte position with its line and its columns, counted in characters and as they are
shown. A position that cuts a character has no location.
-/
namespace EntityQuery

/-- A line of a source. -/
structure SourceLine where
  /-- Number of the line, from one. -/
  number : Nat
  /-- The line without its end. -/
  text : List Char
  start : Nat
  /-- Number of bytes of the line's end. -/
  endSize : Nat
  deriving DecidableEq, Repr, Inhabited

namespace SourceLine

/-- Position behind the text, before the line's end. -/
def textStop (l : SourceLine) : Nat := l.start + Text.byteLength l.text

/-- Position behind the line's end. -/
def stop (l : SourceLine) : Nat := l.textStop + l.endSize

/-- The lines of a text that starts with line `number` at position `start`; `line` holds the
characters of the line so far, the last one first. -/
def linesFrom (number start : Nat) (line : List Char) : List Char → List SourceLine
  | [] => if line.isEmpty then [] else [⟨number, line.reverse, start, 0⟩]
  | '\n' :: rest =>
    let (text, endSize) :=
      match line with
      | '\r' :: before => (before.reverse, 2)
      | _ => (line.reverse, 1)
    let l : SourceLine := ⟨number, text, start, endSize⟩
    l :: linesFrom (number + 1) l.stop [] rest
  | c :: rest => linesFrom number start (c :: line) rest

/-- The lines of a source; an empty source has one empty line. -/
def linesOf (source : List Char) : List SourceLine :=
  match linesFrom 1 0 [] source with
  | [] => [⟨1, [], 0, 0⟩]
  | lines => lines

/-- The characters that are shown for a character: controls as pictures, a tab as four blanks, marks
of writing direction as replacement characters, a joiner not at all. -/
def shown (c : Char) : List Char :=
  let n := c.toNat
  if c == '\t' then [' ', ' ', ' ', ' ']
  else if c == '\n' then [c]
  else if n < 0x20 then [Char.ofNat (0x2400 + n)]
  else if n == 0x7F then [Char.ofNat 0x2421]
  else if n == 0x200D then []
  else if (0x202A ≤ n && n ≤ 0x202E) || (0x2066 ≤ n && n ≤ 0x2069) then [Char.ofNat 0xFFFD]
  else [c]

/-- The text as it is shown. -/
def shownText (cs : List Char) : List Char := cs.flatMap shown

/-- Number of columns of a text as it is shown. -/
def shownColumns (cs : List Char) : Nat := (shownText cs).foldl (fun n c => n + Text.columns c) 0

/-- Columns of the blanks that a line starts with. -/
def indentation (l : SourceLine) : Nat :=
  (l.text.takeWhile Text.isBlank).foldl (fun n c => n + if c == '\t' then 4 else 1) 0

/-- Whether nothing but a comment or a bracket stands on a line. Comments that document are none. -/
def isTrivial (l : SourceLine) : Bool :=
  let inner := (Text.trimStart (Text.trimStart l.text).reverse).reverse
  let starts (s : String) : Bool := s.toList.isPrefixOf inner
  (starts "//" && !(starts "///" || starts "//!")) ||
    [[], ['\x7b'], ['\x7d'], ['('], [')'], ['['], [']']].contains inner

end SourceLine

/-- A position in a source. -/
structure Location where
  /-- Number of the line. -/
  line : Nat
  /-- Characters before the position on its line. -/
  char : Nat
  /-- Columns before the position on its line, as shown. -/
  column : Nat
  byte : Nat
  deriving DecidableEq, Repr, Inhabited

namespace Location

/-- The line that holds a position, the last one for a position behind it. -/
def lineAt (lines : List SourceLine) (byte : Nat) : SourceLine :=
  (lines.find? fun l => l.start ≤ byte && byte < l.stop).getD (lines.getLastD default)

/-- The location of a position within or behind the text of its line; `none` if it cuts a
character. -/
def ofByte? (lines : List SourceLine) (byte : Nat) : Option Location :=
  let l := lineAt lines byte
  (Text.splitAtByte l.text (min (byte - l.start) (Text.byteLength l.text))).map fun (before, _) =>
    ⟨l.number, before.length, SourceLine.shownColumns before, byte⟩

/-- The location where a range starts; on the end of a line it counts one character more. -/
def start? (lines : List SourceLine) (byte : Nat) : Option Location :=
  (ofByte? lines byte).map fun loc =>
    let l := lineAt lines byte
    if Text.byteLength l.text < byte - l.start then { loc with char := loc.char + 1 } else loc

/-- The location where a range that began at `start` stops; on the end of a later line it counts one
character and one column more. -/
def stop? (lines : List SourceLine) (start : Location) (byte : Nat) : Option Location :=
  if start.byte = byte then some start
  else
    (ofByte? lines byte).map fun loc =>
      if start.line ≠ loc.line ∧ (lineAt lines byte).textStop < byte then
        { loc with char := loc.char + 1, column := loc.column + 1 }
      else loc

end Location

end EntityQuery
