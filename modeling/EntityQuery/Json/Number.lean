import EntityQuery.Json.Basic
/-!
# JSON numbers

A number is kept as a natural number if it is written as one; every other number is only checked.
A number that is kept must fit a double-precision value.
-/
namespace EntityQuery.Json

/-- A number as far as it matters: integers that are not negative and fit 64 bits, or any other. -/
inductive Number where
  | natural (n : Nat)
  | other
  deriving DecidableEq, Repr

/-- The nearest multiple of a power of two with at most 53 significant bits, ties to even. -/
def roundToDouble (n : Nat) : Nat :=
  let unit := Nat.pow 2 (Nat.log2 n + 1 - 53)
  let low := n / unit
  let rest := n % unit
  if unit < 2 * rest || (2 * rest == unit && low % 2 == 1) then (low + 1) * unit else low * unit

/-- Whether `significand` times ten to the `exponent` is too great for a double-precision value. -/
def overflows (significand : Nat) (exponent : Int) : Bool :=
  match exponent with
  | .ofNat e =>
    significand != 0 &&
      (308 < e || Nat.pow 2 1024 - Nat.pow 2 970 ≤
        roundToDouble significand * roundToDouble (Nat.pow 10 e))
  | .negSucc _ => false

/-- The greatest number of 64 bits. -/
def maxWord : Nat := 18446744073709551615

def digitValue (c : Char) : Nat := c.toNat - '0'.toNat

/-- Takes the digits at the front. -/
def digits : Reader (List Nat) := fun cs =>
  .ok ((cs.takeWhile Char.isDigit).map digitValue, cs.dropWhile Char.isDigit)

/-- Takes at least one digit; `atEnd` is the fault where the text ends instead. -/
def digits1 (atEnd : Fault) : Reader (List Nat) := do
  match ← digits with
  | [] =>
    match ← peekHere with
    | none => throw atEnd
    | some _ => throw .malformed
  | ds => return ds

/-- Digits appended to a significand as long as it fits 64 bits; the digits that did not. -/
def accumulate : Nat → List Nat → Nat × List Nat
  | n, [] => (n, [])
  | n, d :: ds => if maxWord < n * 10 + d then (n, d :: ds) else accumulate (n * 10 + d) ds

/-- Digits of the integer part: no further digit follows a leading zero. -/
def integerDigits (atEnd : Fault) : Reader (List Nat) := do
  let ds ← digits1 atEnd
  if ds.length != 1 && ds.head? == some 0 then throw .malformed
  return ds

/-- Takes an exponent, if one follows: its sign and its digits. -/
def exponentPart (atEnd : Fault) : Reader (Option (Bool × List Nat)) := do
  match ← peekHere with
  | some c =>
    if c == 'e' || c == 'E' then
      advance
      let negative ← do
        match ← peekHere with
        | some '-' => advance; pure true
        | some '+' => advance; pure false
        | _ => pure false
      return some (negative, ← digits1 atEnd)
    else return none
  | none => return none

/-- Takes the digits after a point, if one follows. -/
def fractionPart (atEnd : Fault) : Reader (Option (List Nat)) := do
  match ← peekHere with
  | some '.' =>
    advance
    return some (← digits1 atEnd)
  | _ => return none

/-- The value of the digits. -/
def digitsValue (ds : List Nat) : Nat := ds.foldl (fun n d => n * 10 + d) 0

/-- Takes a number that is kept. -/
def number : Reader Number := do
  let negative ← do
    match ← peekHere with
    | some '-' => advance; pure true
    | _ => pure false
  let whole ← integerDigits .truncated
  let fraction ← fractionPart .truncated
  let (significand, excess) := accumulate 0 whole
  let (significand, used) :=
    match fraction with
    | some ds =>
      let (s, unused) := accumulate significand ds
      (s, ds.length - unused.length)
    | none => (significand, 0)
  let point : Int := (excess.length : Int) - used
  match ← exponentPart .truncated with
  | some (minus, ds) =>
    let e := digitsValue ds
    if 2147483647 < e then
      if significand != 0 && !minus then throw .malformed
      return .other
    let exponent := if minus then point - e else point + e
    if overflows significand exponent then throw .malformed
    return .other
  | none =>
    if overflows significand point then throw .malformed
    if fraction.isNone && excess.isEmpty && !negative then return .natural significand
    return .other

/-- Skips a number: its form is checked, its size is not, and a number cut short is malformed. -/
def skipNumber : Reader Unit := do
  if (← peekHere) == some '-' then advance
  let _ ← integerDigits .malformed
  let _ ← fractionPart .malformed
  let _ ← exponentPart .malformed
  return ()

end EntityQuery.Json
