/-!
# Reading JSON: the reader and its faults

A `Reader` takes characters from the front of a text. Text is read once, from left to right, against
the type that is wanted, and the first fault decides which `Fault` it is.
-/
namespace EntityQuery.Json

/-- Why a text cannot be read. -/
inductive Fault where
  /-- The text ended too early. -/
  | truncated
  /-- The text is not JSON. -/
  | malformed
  /-- The text is JSON, but not of the wanted shape, type or range. -/
  | mismatch
  deriving DecidableEq, Repr

namespace Fault

def message : Fault → String
  | truncated => "the text ends too early"
  | malformed => "the text is not JSON"
  | mismatch => "a value is not of the wanted type"

end Fault

/-- Takes a value from the front of the text. -/
abbrev Reader (α : Type) := StateT (List Char) (Except Fault) α

/-- Blank characters between tokens. -/
def isGap (c : Char) : Bool := c == ' ' || c == '\n' || c == '\t' || c == '\r'

/-- The next character, blank ones skipped, left in place. -/
def peek : Reader (Option Char) := fun cs =>
  let cs := cs.dropWhile isGap
  .ok (cs.head?, cs)

/-- The next character, no matter which, left in place. -/
def peekHere : Reader (Option Char) := fun cs => .ok (cs.head?, cs)

/-- Takes one character. -/
def advance : Reader Unit := modify List.tail

/-- The next character, blank ones skipped; the text must not end. -/
def peekSome : Reader Char := do
  match ← peek with
  | some c => return c
  | none => throw .truncated

/-- Takes the remaining letters of a word such as `true`. -/
def restOfWord : List Char → Reader Unit
  | [] => return ()
  | c :: rest => do
    match ← peekHere with
    | none => throw .truncated
    | some d =>
      if d == c then
        advance
        restOfWord rest
      else throw .malformed

/-- The remaining letters of the word that starts with `c`. -/
def wordAfter (c : Char) : Option (List Char) :=
  if c == 'n' then some ['u', 'l', 'l']
  else if c == 't' then some ['r', 'u', 'e']
  else if c == 'f' then some ['a', 'l', 's', 'e']
  else none

/-- Reads a whole text: nothing but blanks may follow the value. -/
def Reader.run? {α : Type} (reader : Reader α) (text : String) : Except Fault α := do
  let (value, rest) ← reader text.toList
  if (rest.dropWhile isGap).isEmpty then return value else throw .malformed

end EntityQuery.Json
