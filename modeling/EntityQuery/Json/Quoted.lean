import EntityQuery.Json.Basic
import EntityQuery.Text.Offset
/-!
# JSON strings

The body of a string, after its opening quote. A string that is kept must name real characters: an
escaped surrogate is one only with its partner. A string that is skipped is checked for its form.
-/
namespace EntityQuery.Json

def hexDigit? (c : Char) : Option Nat :=
  if c.isDigit then some (c.toNat - '0'.toNat)
  else if 'a' ≤ c && c ≤ 'f' then some (c.toNat - 'a'.toNat + 10)
  else if 'A' ≤ c && c ≤ 'F' then some (c.toNat - 'A'.toNat + 10)
  else none

/-- Takes the four hexadecimal digits of an escape. Fewer than four bytes are too few whatever they
are. -/
def hexEscape : Reader Nat := do
  let cs ← get
  if Text.byteLength cs < 4 then throw .truncated
  match (cs.take 4).mapM hexDigit? with
  | some [a, b, c, d] =>
    set (cs.drop 4)
    return ((a * 16 + b) * 16 + c) * 16 + d
  | _ => throw .malformed

/-- Takes the given character; the text must not end before it. -/
def expectHere (c : Char) : Reader Unit := do
  match ← peekHere with
  | none => throw .truncated
  | some d => if d == c then advance else throw .malformed

def isHighSurrogate (n : Nat) : Bool := 0xD800 ≤ n && n ≤ 0xDBFF

def isLowSurrogate (n : Nat) : Bool := 0xDC00 ≤ n && n ≤ 0xDFFF

/-- The character of a `\u` escape, both halves of a pair taken. -/
def unicodeEscape : Reader Char := do
  let n ← hexEscape
  if isLowSurrogate n then throw .malformed
  if isHighSurrogate n then
    expectHere '\\'
    expectHere 'u'
    let low ← hexEscape
    if isLowSurrogate low then
      return Char.ofNat (0x10000 + (n - 0xD800) * 0x400 + (low - 0xDC00))
    else throw .malformed
  return Char.ofNat n

/-- The character that a one-letter escape stands for. -/
def shortEscape? (c : Char) : Option Char :=
  if c == '"' || c == '\\' || c == '/' then some c
  else if c == 'b' then some '\x08'
  else if c == 'f' then some '\x0c'
  else if c == 'n' then some '\n'
  else if c == 'r' then some '\r'
  else if c == 't' then some '\t'
  else none

/-- The character of an escape, after its backslash. -/
def escape : Reader Char := do
  match ← peekHere with
  | none => throw .truncated
  | some c =>
    advance
    if c == 'u' then unicodeEscape
    else
      match shortEscape? c with
      | some d => return d
      | none => throw .malformed

/-- The same for a string that is skipped: surrogates need no partner. -/
def skipEscape : Reader Char := do
  match ← peekHere with
  | none => throw .truncated
  | some c =>
    advance
    if c == 'u' then
      let _ ← hexEscape
      return c
    else if (shortEscape? c).isSome then return c
    else throw .malformed

/-- The characters up to the closing quote, escapes read by `readEscape`; `fuel` bounds their
number. -/
def quotedBody (readEscape : Reader Char) : Nat → List Char → Reader (List Char)
  | 0, _ => throw .truncated
  | fuel + 1, taken => do
    match ← peekHere with
    | none => throw .truncated
    | some c =>
      advance
      if c == '"' then return taken.reverse
      else if c == '\\' then
        let d ← readEscape
        quotedBody readEscape fuel (d :: taken)
      else if c.toNat < 0x20 then throw .malformed
      else quotedBody readEscape fuel (c :: taken)

/-- Takes a string that is kept, after its opening quote. -/
def quoted : Reader String := do
  let cs ← get
  return String.ofList (← quotedBody escape (cs.length + 1) [])

/-- Skips a string, after its opening quote. -/
def skipQuoted : Reader Unit := do
  let cs ← get
  let _ ← quotedBody skipEscape (cs.length + 1) []
  return ()

end EntityQuery.Json
