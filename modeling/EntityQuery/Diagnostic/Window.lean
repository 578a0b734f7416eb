import EntityQuery.Diagnostic.SourceLine
/-!
# The window onto the source

Lines that are wider than the terminal are shown through a window of columns. It is placed so that
the marked columns and their label are in it as far as they fit; leading blanks are the first to go,
unless they are marked themselves.
-/
namespace EntityQuery

/-- The columns of the source that are shown, `left` up to `right`, in `width` columns of the
terminal. -/
structure Window where
  left : Nat
  right : Nat
  width : Nat
  deriving DecidableEq, Repr, Inhabited

/-- What a window must take into account: blanks at the start of all lines, the columns marked, the
column behind the label, and the width of the widest line. -/
structure WindowNeeds where
  indentation : Nat
  spanLeft : Nat
  spanRight : Nat
  labelRight : Nat
  lineWidth : Nat
  deriving DecidableEq, Repr, Inhabited

namespace Window

/-- Columns of a terminal. -/
def terminalWidth : Nat := 140

/-- Whether the columns from `left` up to `right` fit. -/
def fits (width left right : Nat) : Bool := left ≤ right && right - left ≤ width

/-- The window for the given needs, with six columns of room around what is marked. Blanks are left
out at the start as far as nothing in them is marked. -/
def place (needs : WindowNeeds) (width : Nat) : Window :=
  let blanks := min needs.indentation needs.spanLeft - 6
  let spanLeft := needs.spanLeft - 6
  let spanRight := needs.spanRight + 6
  let labelRight := needs.labelRight + 6
  let left := if 20 < blanks then blanks - 16 else 0
  let right := max needs.lineWidth left
  if right - left ≤ width then ⟨left, right, width⟩
  else if fits width blanks labelRight then ⟨blanks, blanks + width, width⟩
  else if fits width spanLeft labelRight then
    let left := spanLeft - (width - (labelRight - spanLeft)) / 2
    ⟨left, left + width, width⟩
  else if fits width spanLeft spanRight then
    let left := spanLeft - (width - (spanRight - spanLeft)) / 5 * 2
    ⟨left, left + width, width⟩
  else ⟨spanLeft, spanRight, width⟩

/-- Where the window starts on a line of `lineWidth` columns. -/
def leftOn (w : Window) (lineWidth : Nat) : Nat := min w.left lineWidth

/-- Where the window stops on a line of `lineWidth` columns: at its end, if that can be shown. -/
def rightOn (w : Window) (lineWidth : Nat) : Nat :=
  if lineWidth - w.left ≤ w.width then lineWidth else min lineWidth w.right

/-- Drops characters until `left` columns are gone; the columns that are. -/
def dropColumns (left : Nat) : Nat → List Char → Nat × List Char
  | gone, [] => (gone, [])
  | gone, c :: rest =>
    if gone < left then dropColumns left (gone + Text.columns c) rest else (gone, c :: rest)

/-- Takes characters as long as they fit into `room` columns. -/
def takeColumns : Nat → List Char → List Char
  | _, [] => []
  | room, c :: rest =>
    if Text.columns c ≤ room then c :: takeColumns (room - Text.columns c) rest else []

/-- Number of characters at the front that take at least `columns` columns, and the columns they
take. -/
def countColumns (columns : Nat) : Nat → Nat → List Char → Nat × Nat
  | count, taken, [] => (count, taken)
  | count, taken, c :: rest =>
    if columns ≤ taken then (count, taken)
    else countColumns columns (count + 1) (taken + Text.columns c) rest

end Window

end EntityQuery
