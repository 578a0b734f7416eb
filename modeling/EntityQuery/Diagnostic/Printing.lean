import EntityQuery.Diagnostic.Snippet
import EntityQuery.Text.Split
/-!
# Printing diagnostics

Without a source every diagnostic is one line. With a source it is a headline, the place, a snippet
and the hints; a range that cuts a character of the source cannot be printed.
-/
namespace EntityQuery

namespace Diagnostic

/-- Cuts a text at its line ends. -/
def textLines (cs : List Char) : List (List Char) := Text.split (· == '\n') cs

/-- Lines of text as rows; `head` starts the first one and `padding` blanks every other. -/
def hangingRows (head : StyledRow) (padding : Nat) (role : Role) (cs : List Char) :
    List StyledRow :=
  match textLines cs with
  | [] => [head]
  | first :: rest =>
    (head ++ StyledRow.ofText role first) :: rest.map fun line =>
      StyledRow.ofText .plain (List.replicate padding ' ') ++ StyledRow.ofText role line

/-- The rows of the headline. -/
def headline (d : Diagnostic) : List StyledRow :=
  let word := d.severity.text.toList
  hangingRows (StyledRow.ofText .severity word ++ StyledRow.ofText .headline [':', ' '])
    (word.length + 2) .headline (SourceLine.shownText d.message.toList)

/-- The row that tells the place: path, line and column. -/
def placeRow (digits : Nat) (path : String) (start : Location) : StyledRow :=
  StyledRow.ofText .plain (List.replicate digits ' ') ++
    StyledRow.ofText .margin "--> ".toList ++
    StyledRow.ofText .plain
      (path ++ ":" ++ toString start.line ++ ":" ++ toString (start.char + 1)).toList

/-- The rows of a hint. -/
def hintRows (digits : Nat) (hint : String) : List StyledRow :=
  let head := StyledRow.ofText .plain (List.replicate (digits + 1) ' ') ++
    StyledRow.ofText .margin ['=', ' '] ++ StyledRow.ofText .headline "help".toList ++
    StyledRow.ofText .plain [':', ' ']
  hangingRows head (digits + 9) .plain hint.toList

/-- Number of the last line that a text reaches; a line end at its end does not count. -/
def lastLine (cs : List Char) : Nat :=
  1 + (cs.count '\n' - if cs.getLast? == some '\n' then 1 else 0)

/-- The rows of a diagnostic against a source; `none` if its range cuts a character. -/
def rows? (d : Diagnostic) (source : List Char) (path : Option String) :
    Option (List StyledRow) := do
  let (first, last) := underlined d.range (Text.byteLength source)
  let (before, _) ← Text.splitAtByte source last
  let lines := SourceLine.linesOf source
  let start ← Location.start? lines first
  let stop ← Location.stop? lines start last
  let digits := (toString (lastLine before)).length
  let place := (path.map fun p => placeRow digits p start).toList
  let hints :=
    if d.hints.isEmpty then [] else Snippet.barRow digits :: d.hints.flatMap (hintRows digits)
  return d.headline ++ place ++ Snippet.barRow digits ::
    Snippet.rows lines digits start stop d.message.toList ++ hints

/-- A diagnostic as printed with its source. -/
def printed? (d : Diagnostic) (source : List Char) (path : Option String) (coloured : Bool) :
    Option String :=
  (d.rows? source path).map fun rows =>
    Text.joinStrings "\n" (rows.map fun row => row.text d.severity coloured)

end Diagnostic

namespace Diagnostics

/-- Diagnostics as printed, one below the other; `none` if the range of one cuts a character of the
source. -/
def print? (ds : Diagnostics) (source path : Option String) (coloured : Bool) : Option String :=
  match source with
  | none => some (Text.joinStrings "\n" (ds.map Diagnostic.text))
  | some text =>
    let printed := ds.mapM fun (d : Diagnostic) => d.printed? text.toList path coloured
    printed.map (Text.joinStrings "\n")

end Diagnostics

end EntityQuery
