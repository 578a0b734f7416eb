import EntityQuery.Command.Occurrence
import EntityQuery.Text.Offset
import EntityQuery.Text.Split
/-!
# Choices made on the command line

The occurrences of an action put together. A value is checked when the part behind it is known: a
part that the action does not know is reported before a fault in the value right before it.
-/
namespace EntityQuery.Command

/-- When output is coloured. -/
inductive Colour where
  | auto
  | always
  | never
  deriving DecidableEq, Repr, Inhabited

namespace Colour

def name : Colour → String
  | auto => "auto"
  | always => "always"
  | never => "never"

def ofName? (name : String) : Option Colour := [auto, always, never].find? (·.name == name)

/-- Whether to colour: by default only on a terminal. -/
def isOn (terminal : Bool) : Colour → Bool
  | auto => terminal
  | always => true
  | never => false

theorem ofName?_name (c : Colour) : ofName? c.name = some c := by cases c <;> rfl

end Colour

/-- What was chosen so far. -/
structure Choices where
  types : Option String := none
  calls : Option String := none
  source : Option String := none
  color : Option Colour := none
  params : Option Nat := none
  named : Option (List String) := none
  sort : Option (List String) := none
  noBindings : Bool := false
  noSubtypeFallback : Bool := false
  strict : Bool := false
  /-- How often more words were asked for. -/
  verbosity : Nat := 0
  words : List String := []
  deriving DecidableEq, Repr, Inhabited

namespace Choices

/-- The number that decimal digits stand for. -/
def decimal? (digits : List Char) : Option Nat :=
  if !digits.isEmpty && digits.all Char.isDigit then
    some (digits.foldl (fun n c => n * 10 + (c.toNat - '0'.toNat)) 0)
  else none

/-- A whole number that may have a sign, unless it is negative. -/
def unsigned? : List Char → Option Nat
  | '+' :: digits => decimal? digits
  | '-' :: digits => (decimal? digits).filter (· == 0)
  | digits => decimal? digits

/-- A file name; there is no empty one. -/
def path (s : Setting) (value : String) : Except UsageError String :=
  if value.isEmpty then .error (.missingValue s) else .ok value

def colour (s : Setting) (value : String) : Except UsageError Colour :=
  match Colour.ofName? value with
  | some c => .ok c
  | none => .error (.unknownChoice s value)

/-- A count of 32 bits. -/
def count (s : Setting) (value : String) : Except UsageError Nat :=
  match unsigned? value.toList with
  | some n => if n ≤ Text.maxOffset then .ok n else .error (.malformedNumber s value)
  | none => .error (.malformedNumber s value)

/-- The names between commas. -/
def names (value : String) : List String :=
  (Text.split (· == ',') value.toList).map String.ofList

/-- The new value of a setting, which may be given once. -/
def once {α : Type} (s : Switch) (old : Option α) (new : Except UsageError α) :
    Except UsageError (Option α) :=
  if old.isSome then .error (.repeated s) else some <$> new

/-- A setting that is given a value. -/
def set (c : Choices) (s : Setting) (value : String) : Except UsageError Choices := do
  let switch := Switch.setting s
  match s with
  | .types => return { c with types := ← once switch c.types (path s value) }
  | .calls => return { c with calls := ← once switch c.calls (path s value) }
  | .source => return { c with source := ← once switch c.source (path s value) }
  | .color => return { c with color := ← once switch c.color (colour s value) }
  | .params => return { c with params := ← once switch c.params (count s value) }
  | .named => return { c with named := ← once switch c.named (.ok (names value)) }
  | .sort => return { c with sort := ← once switch c.sort (.ok (names value)) }

/-- A flag, which may be given once. -/
def raise (f : Flag) (old : Bool) : Except UsageError Bool :=
  if old then .error (.repeated (.flag f)) else .ok true

def mark (c : Choices) (f : Flag) : Except UsageError Choices := do
  match f with
  | .help => throw .helpAsked
  | .verbose => return { c with verbosity := min 255 (c.verbosity + 1) }
  | .noBindings => return { c with noBindings := ← raise f c.noBindings }
  | .noSubtypeFallback => return { c with noSubtypeFallback := ← raise f c.noSubtypeFallback }
  | .strict => return { c with strict := ← raise f c.strict }

/-- The choices after one more part of the command line. -/
def add (c : Choices) : Occurrence → Except UsageError Choices
  | .word text => .ok { c with words := c.words ++ [text] }
  | .flag f => c.mark f
  | .attached s value => c.set s value
  | .detached s none => .error (.missingValue s)
  | .detached s (some value) => c.set s value
  | .refused e => .error e

/-- The choices after the rest of the command line. -/
def addAll (c : Choices) : List Occurrence → Except UsageError Choices
  | [] => .ok c
  | .detached _ _ :: .refused e :: _ => .error e
  | o :: rest => do addAll (← c.add o) rest

end Choices

end EntityQuery.Command
