import EntityQuery.Json.Number
import EntityQuery.Json.Quoted
/-!
# Skipping JSON values

A value that nobody wants is checked for its form alone, with no limit on its nesting: the brackets
that are open are kept in a list.
-/
namespace EntityQuery.Json

/-- An open bracket. -/
inductive Bracket where
  | array
  | object
  deriving DecidableEq, Repr

namespace Bracket

def closing : Bracket → Char
  | .array => ']'
  | .object => '\x7d'

end Bracket

/-- Skips the name and the colon of an entry of an object. -/
def skipEntryName : Reader Unit := do
  if (← peekSome) == '"' then
    advance
    skipQuoted
    if (← peekSome) == ':' then advance else throw .malformed
  else throw .malformed

/-- Skips the end of a value that lies in the brackets `stack`, and of every value that ends with
it. The answer is the brackets still open; `comma` says whether a comma may follow. -/
def skipClosings : Nat → Bool → List Bracket → Reader (List Bracket)
  | 0, _, _ => throw .malformed
  | _ + 1, _, [] => return []
  | fuel + 1, comma, b :: stack => do
    let c ← peekSome
    if c == ',' && comma then
      advance
      return b :: stack
    else if c == b.closing then
      advance
      skipClosings fuel true stack
    else if comma then throw .malformed
    else return b :: stack

/-- Skips the start of a value: a bracket is opened, anything else is skipped whole. -/
def skipStart (stack : List Bracket) : Reader (Bool × List Bracket) := do
  let c ← peekSome
  if c == '[' then
    advance
    return (false, .array :: stack)
  else if c == '\x7b' then
    advance
    return (false, .object :: stack)
  else if c == '"' then
    advance
    skipQuoted
    return (true, stack)
  else if c == '-' || c.isDigit then
    skipNumber
    return (true, stack)
  else
    match wordAfter c with
    | some rest =>
      advance
      restOfWord rest
      return (true, stack)
    | none => throw .malformed

/-- Skips values until no bracket is open. -/
def skipOpen : Nat → List Bracket → Reader Unit
  | 0, _ => throw .malformed
  | fuel + 1, stack => do
    let (comma, stack) ← skipStart stack
    match ← skipClosings (fuel + 1) comma stack with
    | [] => return ()
    | .array :: stack => skipOpen fuel (.array :: stack)
    | .object :: stack =>
      skipEntryName
      skipOpen fuel (.object :: stack)

/-- Skips one value. -/
def skipValue : Reader Unit := do
  let cs ← get
  skipOpen (cs.length + 2) []

end EntityQuery.Json
