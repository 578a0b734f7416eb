import EntityQuery.Json.Skip
import EntityQuery.Keyed
/-!
# Reading JSON against a type

Readers for the shapes that declarations and call sites have: text, numbers, flags, optional values,
lists, maps, records and choices. A value of another kind than the wanted one is a mismatch at its
first token; words, numbers and strings must still be well formed.
-/
namespace EntityQuery.Json

/-- The fault of a value that starts with `c` and is not of the wanted kind. -/
def otherKind {α : Type} (c : Char) : Reader α := do
  match wordAfter c with
  | some rest =>
    advance
    restOfWord rest
    throw .mismatch
  | none =>
    if c == '-' || c.isDigit then
      let _ ← number
      throw .mismatch
    else if c == '"' then
      advance
      let _ ← quoted
      throw .mismatch
    else if c == '[' || c == '\x7b' then throw .mismatch
    else throw .malformed

/-- Reads a text. -/
def text : Reader String := do
  let c ← peekSome
  if c == '"' then
    advance
    quoted
  else otherKind c

/-- Reads a natural number up to `greatest`. -/
def natural (greatest : Nat) : Reader Nat := do
  let c ← peekSome
  if c == '-' || c.isDigit then
    match ← number with
    | .natural n => if n ≤ greatest then return n else throw .mismatch
    | .other => throw .mismatch
  else otherKind c

/-- Reads `true` or `false`. -/
def flag : Reader Bool := do
  let c ← peekSome
  if c == 't' || c == 'f' then
    advance
    restOfWord (if c == 't' then ['r', 'u', 'e'] else ['a', 'l', 's', 'e'])
    return c == 't'
  else otherKind c

/-- Reads `null`, or a value. -/
def nullable {α : Type} (reader : Reader α) : Reader (Option α) := do
  match ← peek with
  | some 'n' =>
    advance
    restOfWord ['u', 'l', 'l']
    return none
  | _ => return some (← reader)

/-- Reads `null`. -/
def nothing : Reader Unit := do
  let c ← peekSome
  if c == 'n' then
    advance
    restOfWord ['u', 'l', 'l']
  else otherKind c

/-- Whether another item follows in an array; its comma is taken. -/
def hasNextItem (first : Bool) : Reader Bool := do
  let c ← peekSome
  if c == ']' then return false
  else if first then return true
  else if c == ',' then
    advance
    if (← peekSome) == ']' then throw .malformed
    return true
  else throw .malformed

/-- Takes the end of an array. -/
def endArray : Reader Unit := do
  if (← peekSome) == ']' then advance else throw .malformed

/-- Items until the array ends; `fuel` bounds their number. -/
def items {α : Type} (reader : Reader α) : Nat → Bool → Reader (List α)
  | 0, _ => throw .malformed
  | fuel + 1, first => do
    if ← hasNextItem first then
      let item ← reader
      return item :: (← items reader fuel false)
    else return []

/-- Reads a list. -/
def list {α : Type} (reader : Reader α) : Reader (List α) := do
  let c ← peekSome
  if c == '[' then
    advance
    let result ← items reader ((← get).length + 1) true
    endArray
    return result
  else otherKind c

/-- Reads the name of an entry of an object. -/
def entryName : Reader String := do
  if (← peekSome) == '"' then
    advance
    quoted
  else throw .malformed

/-- The name of the next entry of an object, if there is one. -/
def nextName? (first : Bool) : Reader (Option String) := do
  let c ← peekSome
  if c == '\x7d' then return none
  else if first then return some (← entryName)
  else if c == ',' then
    advance
    return some (← entryName)
  else throw .malformed

/-- Takes a colon. -/
def colon : Reader Unit := do
  if (← peekSome) == ':' then advance else throw .malformed

/-- Entries until the object ends; `fuel` bounds their number. -/
def entries {α : Type} (reader : Reader α) :
    Nat → Bool → List (String × α) → Reader (List (String × α))
  | 0, _, _ => throw .malformed
  | fuel + 1, first, taken => do
    match ← nextName? first with
    | none => return taken
    | some key =>
      colon
      let value ← reader
      entries reader fuel false (Keyed.setKey taken key value)

/-- Reads an object with keys of any name; a repeated key keeps its first place and its last
value. -/
def map {α : Type} (reader : Reader α) : Reader (List (String × α)) := do
  let c ← peekSome
  if c == '\x7b' then
    advance
    let result ← entries reader ((← get).length + 1) true []
    advance
    return result
  else otherKind c

/-- A field of a record of type `σ`: reading it fills in a draft. -/
structure Field (σ : Type) where
  name : String
  required : Bool
  fill : σ → Reader σ

/-- A field that may be left out. -/
def optionalField {σ α : Type} (name : String) (reader : Reader α) (store : σ → α → σ) : Field σ :=
  ⟨name, false, fun draft => return store draft (← reader)⟩

/-- A field that must be there. -/
def requiredField {σ α : Type} (name : String) (reader : Reader α) (store : σ → α → σ) : Field σ :=
  ⟨name, true, fun draft => return store draft (← reader)⟩

/-- The fields of a record given as an array, in their order. -/
def positionalFields {σ : Type} : List (Field σ) → Bool → σ → Reader σ
  | [], _, draft => return draft
  | field :: fields, first, draft => do
    if ← hasNextItem first then
      let draft ← field.fill draft
      positionalFields fields false draft
    else if field.required then throw .mismatch
    else positionalFields fields first draft

/-- The fields of a record given as an object. `seen` are the names read so far: none may come
twice, and other names are skipped with their values. -/
def namedFields {σ : Type} (fields : List (Field σ)) :
    Nat → Bool → List String → σ → Reader σ
  | 0, _, _, _ => throw .malformed
  | fuel + 1, first, seen, draft => do
    match ← nextName? first with
    | none =>
      if fields.any fun f => f.required && !seen.contains f.name then throw .mismatch
      return draft
    | some name =>
      match fields.find? (·.name == name) with
      | some field =>
        if seen.contains name then throw .mismatch
        colon
        let draft ← field.fill draft
        namedFields fields fuel false (name :: seen) draft
      | none =>
        colon
        skipValue
        namedFields fields fuel false seen draft

/-- Reads a record, as an object or as the array of its fields. -/
def record {σ : Type} (fields : List (Field σ)) (draft : σ) : Reader σ := do
  let c ← peekSome
  if c == '[' then
    advance
    let result ← positionalFields fields true draft
    endArray
    return result
  else if c == '\x7b' then
    advance
    let result ← namedFields fields ((← get).length + 1) true [] draft
    advance
    return result
  else otherKind c

/-- One alternative of a choice: a bare name, or a name with a record. -/
inductive Variant (α : Type) where
  | bare (name : String) (value : α)
  | withRecord (name : String) (payload : Reader α)

namespace Variant

def name {α : Type} : Variant α → String
  | .bare name _ => name
  | .withRecord name _ => name

end Variant

/-- Reads a choice: a string for a bare alternative, or an object with one entry. -/
def choice {α : Type} (variants : List (Variant α)) : Reader α := do
  let c ← peekSome
  if c == '"' then
    advance
    let name ← quoted
    match variants.find? (·.name == name) with
    | some (.bare _ value) => return value
    | _ => throw .mismatch
  else if c == '\x7b' then
    advance
    let name ← entryName
    match variants.find? (·.name == name) with
    | none => throw .mismatch
    | some variant =>
      colon
      let value ←
        match variant with
        | .bare _ value => do
          nothing
          pure value
        | .withRecord _ payload => payload
      if (← peekSome) == '\x7d' then
        advance
        return value
      else throw .malformed
  else throw .malformed

end EntityQuery.Json
