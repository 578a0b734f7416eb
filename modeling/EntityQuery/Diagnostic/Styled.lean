import EntityQuery.Diagnostic.Basic
/-!
# Styled text

Rows of characters, each with a role. A row can be written at any column: what lies before is filled
with blanks. Printed with colours, a row gets an escape sequence at every change of look.
-/
namespace EntityQuery

/-- What a character of a printed diagnostic is for. -/
inductive Role where
  | plain
  /-- The word that names the severity, underlines and labels. -/
  | severity
  /-- The headline. -/
  | headline
  /-- Line numbers, separators and marks of omission. -/
  | margin
  deriving DecidableEq, Repr, Inhabited

/-- A character with its role. -/
structure StyledChar where
  char : Char
  role : Role
  deriving DecidableEq, Repr, Inhabited

/-- A row of a printed diagnostic. -/
abbrev StyledRow := List StyledChar

namespace Role

/-- The escape sequences that switch a look on; none for plain text. -/
def start (severity : Severity) : Role → String
  | .plain => ""
  | .severity =>
    match severity with
    | .error => "\x1b[1m\x1b[91m"
    | .warning => "\x1b[1m\x1b[33m"
  | .headline => "\x1b[1m"
  | .margin => "\x1b[1m\x1b[94m"

/-- The escape sequence that ends a look. -/
def stop : Role → String
  | .plain => ""
  | _ => "\x1b[0m"

end Role

namespace StyledRow

/-- Text in one role. -/
def ofText (role : Role) (cs : List Char) : StyledRow := cs.map fun c => ⟨c, role⟩

/-- Writes text from a column on, over what is there. -/
def write (row : StyledRow) (column : Nat) (role : Role) (cs : List Char) : StyledRow :=
  if cs.isEmpty then row
  else
    let padded := row ++ List.replicate (column - row.length) ⟨' ', .plain⟩
    padded.take column ++ ofText role cs ++ padded.drop (column + cs.length)

/-- Writes one character at a column. -/
def mark (row : StyledRow) (column : Nat) (role : Role) (c : Char) : StyledRow :=
  row.write column role [c]

/-- Puts three dots in the place of the columns from `start` up to `stop`, if the row reaches that
far. -/
def elide (row : StyledRow) (start stop : Nat) : StyledRow :=
  if start == stop || row.length < start || row.length < stop || stop < start + 3 then row
  else row.take start ++ ofText .margin ['.', '.', '.'] ++ row.drop stop

/-- The characters of a row. -/
def plainText (row : StyledRow) : List Char := row.map (·.char)

/-- The rest of a row with its escape sequences, where `current` is the look so far. -/
def colouredFrom (severity : Severity) (current : Role) : StyledRow → List Char
  | [] => current.stop.toList
  | c :: rest =>
    if c.role = current then c.char :: colouredFrom severity current rest
    else
      current.stop.toList ++ (c.role.start severity).toList ++
        c.char :: colouredFrom severity c.role rest

/-- A row as it is printed. -/
def text (row : StyledRow) (severity : Severity) (coloured : Bool) : String :=
  String.ofList (if coloured then colouredFrom severity .plain row else row.plainText)

end StyledRow

end EntityQuery
