import EntityQuery.Query.Bindings
import EntityQuery.Shorthand.Sort
import EntityQuery.Shorthand.Verb
import EntityQuery.Text.Blank
import EntityQuery.Text.Case
/-!
# Expansion of shorthand calls

A call names a verb, an entity and perhaps a filter; the expansion is the query that it stands for,
together with the position in it at which the filter starts. Calls that have no expansion are
refused for one of five causes, of which three are reported.
-/
namespace EntityQuery

/-- A shorthand call as written at a call site. -/
structure ShorthandCall where
  verb : Verb
  entity : String
  filter : Option String
  bindings : Bindings
  sort : SortChain
  deriving DecidableEq, Repr, Inhabited

/-- A whole query, with the position of the filter in it. -/
structure Expansion where
  text : String
  offset : Nat
  deriving DecidableEq, Repr, Inhabited

/-- Why a call has no expansion. -/
inductive Refusal where
  | unsupportedVerb (verb : Verb)
  /-- The filter names a query kept elsewhere. -/
  | namedQuery
  | missingParameter (filter : String)
  | tooManyParameters (filter : String)
  | alreadySorted (filter : Option String)
  deriving DecidableEq, Repr

namespace Refusal

/-- What is reported of a refusal, against the filter. -/
def diagnostic? : Refusal → Option Diagnostic
  | .unsupportedVerb _ => none
  | .namedQuery => none
  | .missingParameter filter => some (.report .missingParameter (.whole filter) (some filter))
  | .tooManyParameters filter => some (.report .tooManyParameters (.whole filter) (some filter))
  | .alreadySorted filter =>
    some (.report .sortAlreadySpecified ((filter.map TextRange.whole).getD ⟨0, 0⟩) none)

end Refusal

namespace Expansion

/-- Whether two neighbouring words are `order` and `by`. -/
def orderThenBy : List (List Char) → Bool
  | a :: b :: rest =>
    (Text.sameIgnoringCase a "order".toList && Text.sameIgnoringCase b "by".toList) ||
      orderThenBy (b :: rest)
  | _ => false

/-- The words of a stretch of text, in order. -/
def wordsOf (cs : List Char) : List (List Char) :=
  (Text.split (fun c => !Text.isWordChar c) cs).filter (!·.isEmpty)

/-- Whether a text orders its results. Of the stretches between quotes every second one, the first
included, lies outside of them. -/
def isOrdered (text : String) : Bool :=
  (Text.everyOther (Text.split (· == '\'') text.toList)).any fun outside =>
    orderThenBy (wordsOf outside)

/-- Whether a filter is one name, to be compared with the only binding. -/
def isSingleIdentifier (filter : String) : Bool :=
  !filter.toList.contains ' ' && !filter.toList.contains '='

/-- Whether a filter begins with a keyword. -/
def startsWithKeyword (filter keyword : String) : Bool :=
  Text.startsIgnoringCase keyword.toList filter.toList

/-- Whether a filter names a query kept elsewhere. -/
def isNamedQuery (filter : String) : Bool := (Text.trimStart filter.toList).head? == some '#'

/-- The filter of a call, unless it is blank. -/
def filterOf (call : ShorthandCall) : Option String :=
  call.filter.filter fun f => !Text.allBlank f.toList

/-- The start of a generated query. -/
def fromClause (call : ShorthandCall) : String :=
  (if call.verb.isCount then "SELECT COUNT(*) " else "") ++ "FROM " ++ call.entity

/-- The expansion `start ++ filter ++ stop`. -/
def around (start filter stop : String) : Expansion :=
  ⟨start ++ filter ++ stop, Text.narrow (byteLength start)⟩

/-- How the only parameter is written: a positional one is always the first. -/
def comparedWith : Placeholder → String
  | .positional _ => (Placeholder.positional 1).text
  | .named name => (Placeholder.named name).text

/-- The expansion without its sort clause. -/
def unsorted (call : ShorthandCall) : Except Refusal Expansion :=
  let start := fromClause call
  match filterOf call with
  | none => .ok ⟨start, Text.narrow (byteLength start + 1)⟩
  | some f =>
    if startsWithKeyword f "from " || startsWithKeyword f "select " then .ok ⟨f, 0⟩
    else if startsWithKeyword f "order by " then .ok (around (start ++ " ") f "")
    else if isSingleIdentifier f then
      match call.bindings.single? with
      | some p => .ok (around (start ++ " WHERE ") f (" = " ++ comparedWith p))
      | none =>
        if call.bindings.isEmpty then .error (.missingParameter f)
        else .error (.tooManyParameters f)
    else .ok (around (start ++ " WHERE ") f "")

/-- Adds the sort clause of a call, if it has one. -/
def addSort (call : ShorthandCall) (e : Expansion) : Except Refusal Expansion :=
  match call.sort.orderByClause? with
  | none => .ok e
  | some clause =>
    if isOrdered e.text then .error (.alreadySorted (filterOf call))
    else .ok { e with text := e.text ++ " " ++ clause }

/-- The expansion of a call, or why it has none. -/
def ofCall (call : ShorthandCall) : Except Refusal Expansion :=
  if !call.verb.isSupported then .error (.unsupportedVerb call.verb)
  else if (filterOf call).any isNamedQuery then .error .namedQuery
  else
    match unsorted call with
    | .error r => .error r
    | .ok e => addSort call e

end Expansion

/-- Expands a call; what is reported of a refusal is added to the findings. -/
def expand (call : ShorthandCall) (ds : Diagnostics) : Option Expansion × Diagnostics :=
  match Expansion.ofCall call with
  | .ok e => (some e, ds)
  | .error r => (none, ds ++ r.diagnostic?.toList)

end EntityQuery
