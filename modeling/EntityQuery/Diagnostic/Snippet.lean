import EntityQuery.Diagnostic.Styled
import EntityQuery.Diagnostic.Window
/-!
# Snippets

The lines of a source that a range covers, with the range underlined and a label at its end. A range
within one line is underlined below it; a range over several lines is drawn as a bracket at their
left, of which long stretches are left out.
-/
namespace EntityQuery

/-- The byte range to underline. It lies in the source, and an empty range grows by one byte where
it can. -/
def underlined (range : TextRange) (length : Nat) : Nat × Nat :=
  let start := min range.start length
  let stop := min range.stop length
  if start < stop then (start, stop) else (start, min (start + 1) length)

namespace Snippet

/-- Columns of a snippet: line numbers, a bar, perhaps a bracket, and the code. -/
structure Layout where
  /-- Digits of the greatest line number. -/
  digits : Nat
  isBracketed : Bool
  deriving DecidableEq, Repr

namespace Layout

/-- Column of the bar behind the line numbers. -/
def barColumn (l : Layout) : Nat := l.digits + 1

/-- Column of the bracket. -/
def bracketColumn (l : Layout) : Nat := l.digits + 3

def codeColumn (l : Layout) : Nat := if l.isBracketed then l.digits + 5 else l.digits + 3

end Layout

/-- A row with nothing but the bar. -/
def barRow (digits : Nat) : StyledRow := StyledRow.mark [] (digits + 1) .margin '|'

def dots : List Char := ['.', '.', '.']

/-- Writes the number of a line, with blanks before it so that it ends before the bar. -/
def writeNumber (l : Layout) (number : Nat) (row : StyledRow) : StyledRow :=
  let text := (toString number).toList
  row.write 0 .margin (List.replicate (l.digits - text.length) ' ' ++ text)

/-- The row of a source line, and the number of columns of the line that were left out at its
start. -/
def codeRow (l : Layout) (w : Window) (line : SourceLine) : StyledRow × Nat :=
  let text := SourceLine.shownText line.text
  let lineWidth := SourceLine.shownColumns line.text
  let left := w.leftOn lineWidth
  let right := w.rightOn lineWidth
  let (gone, rest) := Window.dropColumns left 0 text
  let code := Window.takeColumns (right - left) rest
  let left := max left gone
  let isCut := 0 < w.left
  let (count, taken) := if isCut then Window.countColumns 3 0 0 code else (0, 0)
  let row := if isCut then StyledRow.write [] l.codeColumn .margin dots else []
  let row := row.write (l.codeColumn + taken) .plain (code.drop count)
  let row :=
    if right < lineWidth then
      let (last, _) := Window.countColumns 3 0 0 code.reverse
      row.write (l.codeColumn + taken + (code.length - count) - last) .margin dots
    else row
  ((writeNumber l line.number row).mark l.barColumn .margin '|', left)

/-- Writes the carets below the columns from `start` up to `stop`. -/
def markColumns (l : Layout) (left start stop : Nat) (row : StyledRow) : StyledRow :=
  (List.range' start (stop - start)).foldl
    (fun row p => row.mark (l.codeColumn + p - left) .severity '^') row

/-- Writes the label behind the column where the range stops. -/
def writeLabel (l : Layout) (left stop : Nat) (label : List Char) (row : StyledRow) : StyledRow :=
  let column := stop + if stop == 0 then 2 else 1
  row.write (l.codeColumn + (column - left)) .severity label

/-- Writes the line from the bracket to a column of the code. -/
def writeArm (l : Layout) (left column : Nat) (row : StyledRow) : StyledRow :=
  let first := l.bracketColumn + 1
  row.write first .severity (List.replicate (l.codeColumn + column - left - first) '_')

/-- The rows of a range within one line, from the column `start` up to `stop`. A range more than
twice as wide as the window loses its middle. -/
def singleLine (l : Layout) (w : Window) (line : SourceLine) (start stop : Nat)
    (label : List Char) : List StyledRow :=
  let (code, left) := codeRow l w line
  let marks := markColumns l left start stop (writeLabel l left stop label (barRow l.digits))
  let length := stop - start
  if w.width * 2 < length && 10 < length then
    let pad := max (w.width / 3) 5
    let (first, last) := (l.codeColumn + start + pad - left, l.codeColumn + stop - pad - left)
    [code.elide first last, marks.elide first last]
  else [code, marks]

/-- The rows where a bracket starts. A range that starts with the text of its line needs no row for
its start. -/
def bracketStart (l : Layout) (w : Window) (line : SourceLine) (start : Nat) : List StyledRow :=
  let (code, left) := codeRow l w line
  if ((SourceLine.shownText line.text).take start).all Text.isBlank then
    [code.mark l.bracketColumn .severity '/']
  else
    let row := (writeArm l left start (barRow l.digits)).mark l.bracketColumn .severity ' '
    [code, markColumns l left start (start + 1) row]

/-- A row within a bracket. -/
def bracketed (l : Layout) (row : StyledRow) : StyledRow := row.mark l.bracketColumn .severity '|'

/-- The rows where a bracket stops, before the column `stop`. -/
def bracketStop (l : Layout) (w : Window) (line : SourceLine) (stop : Nat) (label : List Char) :
    List StyledRow :=
  let (code, left) := codeRow l w line
  let row := bracketed l (writeArm l left (stop - 1) (barRow l.digits))
  let row := writeLabel l left stop label row
  [bracketed l code, markColumns l left (stop - 1) (stop - 1 + 1) row]

/-- The lines between the first and the last of a bracket that are shown: up to three after the
first, without trivial ones at their end, and the line before the last unless it is trivial. -/
def innerLines (lines : List SourceLine) (first last : Nat) : List SourceLine :=
  let middle := min (first + 4) last
  let isTrivial (n : Nat) : Bool := (lines[n - 1]?.map SourceLine.isTrivial).getD true
  let untilLine :=
    match ((List.range' first (middle - first)).reverse.find? fun n => !isTrivial n) with
    | some n => n + 1
    | none => first
  let inner := List.range' (first + 1) (untilLine - (first + 1))
  let beforeLast := if middle < last - 1 && !isTrivial (last - 1) then [last - 1] else []
  (inner ++ beforeLast).filterMap fun n => lines[n - 1]?

/-- The rows between two shown lines of a bracket: a single line is shown after all, several are
left out. -/
def gapRows (l : Layout) (w : Window) (lines : List SourceLine) (line next : Nat) :
    List StyledRow :=
  if next = line + 2 then
    (lines[line]?.map fun between => bracketed l (codeRow l w between).1).toList
  else if line + 2 < next then [bracketed l (StyledRow.write [] 0 .margin dots)]
  else []

/-- The rows of the inner lines of a bracket and of the gaps around them, up to line `last`. -/
def innerRows (l : Layout) (w : Window) (lines : List SourceLine) (line last : Nat) :
    List SourceLine → List StyledRow
  | [] => gapRows l w lines line last
  | inner :: rest =>
    gapRows l w lines line inner.number ++ bracketed l (codeRow l w inner).1 ::
      innerRows l w lines inner.number last rest

/-- What the window must take into account: the shown lines, the marked columns, and the column
behind the label. Blank lines have no indentation. -/
def needsOf (shownLines : List SourceLine) (marked : List Nat) (labelRight : Nat) :
    WindowNeeds where
  indentation :=
    let withCode := shownLines.filter fun line => !Text.allBlank line.text
    (withCode.map SourceLine.indentation).min?.getD 0
  spanLeft := marked.min?.getD 0
  spanRight := marked.max?.getD 0
  labelRight := (marked ++ [labelRight]).max?.getD 0
  lineWidth := (shownLines.map fun line => SourceLine.shownColumns line.text).max?.getD 0

/-- The rows for a range from `start` to `stop`. -/
def rows (lines : List SourceLine) (digits : Nat) (start stop : Location) (label : List Char) :
    List StyledRow :=
  let labelWidth := SourceLine.shownColumns label + 1
  let startLine := Location.lineAt lines start.byte
  let stopLine := Location.lineAt lines stop.byte
  if start.line = stop.line then
    let stopColumn := if stop.column = start.column then stop.column + 1 else stop.column
    let l : Layout := ⟨digits, false⟩
    let needs := needsOf [startLine] [start.column, stopColumn] (stopColumn + labelWidth)
    let w := Window.place needs (Window.terminalWidth - l.codeColumn)
    singleLine l w startLine start.column stopColumn label
  else
    let l : Layout := ⟨digits, true⟩
    let inner := innerLines lines start.line stop.line
    let marked := [start.column, start.column + 1, stop.column - 1, stop.column]
    let needs := needsOf (startLine :: inner ++ [stopLine]) marked (stop.column + labelWidth)
    let w := Window.place needs (Window.terminalWidth - l.codeColumn)
    bracketStart l w startLine start.column ++ innerRows l w lines start.line stop.line inner ++
      bracketStop l w stopLine stop.column label

end Snippet

end EntityQuery
