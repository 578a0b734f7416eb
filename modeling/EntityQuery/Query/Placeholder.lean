import EntityQuery.Text.Offset
import EntityQuery.Text.Word
/-!
# Placeholders

The places of a query that a call site fills in: `:name` and `?1`. Text between quotes is skipped,
and so are doubled colons and a question mark without a number.
-/
namespace EntityQuery

/-- A place to be filled in, by name or by number. -/
inductive Placeholder where
  | named (name : String)
  | positional (label : Nat)
  deriving DecidableEq, Repr, Inhabited

namespace Placeholder

def text : Placeholder → String
  | .named name => ":" ++ name
  | .positional label => "?" ++ toString label

/-- The range from `start` that is `length` bytes long. -/
def rangeAt (start length : Nat) : TextRange := ⟨Text.narrow start, Text.narrow (start + length)⟩

/-- The value of decimal digits; one that does not fit 32 bits counts as the greatest that does. -/
def labelOf (digits : List Char) : Nat :=
  Text.narrow (digits.foldl (fun n c => n * 10 + (c.toNat - '0'.toNat)) 0)

/-- The named placeholder of a colon at `pos` that `rest` follows. -/
def namedAt? (pos : Nat) (rest : List Char) : Option (Placeholder × TextRange) :=
  if rest.head?.any Text.isIdentStart then
    let name := rest.takeWhile Text.isIdentChar
    some (.named (String.ofList name), rangeAt pos (1 + Text.byteLength name))
  else none

/-- The positional placeholder of a question mark at `pos` that `rest` follows. -/
def positionalAt? (pos : Nat) (rest : List Char) : Option (Placeholder × TextRange) :=
  let digits := rest.takeWhile Char.isDigit
  if digits.isEmpty then none
  else some (.positional (labelOf digits), rangeAt pos (1 + Text.byteLength digits))

/-- The placeholders of the text that starts at `pos`, with their ranges. The characters of a
placeholder's name or number start no other placeholder, so the scan may go on right behind its
first character. -/
def scanFrom (pos : Nat) (inQuotes : Bool) : List Char → List (Placeholder × TextRange)
  | [] => []
  | '\'' :: rest => scanFrom (pos + 1) (!inQuotes) rest
  | ':' :: ':' :: rest => scanFrom (pos + 2) inQuotes rest
  | ':' :: rest =>
    if inQuotes then scanFrom (pos + 1) true rest
    else (namedAt? pos rest).toList ++ scanFrom (pos + 1) false rest
  | '?' :: rest =>
    if inQuotes then scanFrom (pos + 1) true rest
    else (positionalAt? pos rest).toList ++ scanFrom (pos + 1) false rest
  | c :: rest => scanFrom (pos + c.utf8Size) inQuotes rest

/-- Every placeholder of a query, in order, with its range. -/
def scan (query : String) : List (Placeholder × TextRange) := scanFrom 0 false query.toList

end Placeholder

end EntityQuery
