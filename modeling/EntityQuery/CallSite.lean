import EntityQuery.Json.Decode
import EntityQuery.Shorthand.Expansion
/-!
# Call sites

A literal in some source with the call around it: a whole query, or the filter of a shorthand call
where a verb and an entity are given. Call sites are read from JSON.
-/
namespace EntityQuery

/-- A query literal as found in a source. -/
structure CallSite where
  /-- The contents of the literal. -/
  literal : Option String
  /-- Position of the literal's opening delimiter in the source. -/
  literalStart : Nat
  verb : Option String
  entity : Option String
  bindings : Bindings
  sort : SortChain
  deriving DecidableEq, Repr, Inhabited

namespace Bindings

/-- Reads bindings; both lists may be left out. -/
def reader : Json.Reader Bindings :=
  Json.record [
    Json.optionalField "named" (Json.list Json.text) fun b v => { b with named := .ofList v },
    Json.optionalField "positional" (Json.list (Json.natural Text.maxOffset))
      fun b v => { b with positional := .ofList v }]
    .empty

end Bindings

namespace Direction

/-- Reads a direction. -/
def reader : Json.Reader Direction :=
  Json.choice [.bare "ascending" .ascending, .bare "descending" .descending]

end Direction

namespace SortCall

/-- Reads a column with an optional direction. -/
def columnReader : Json.Reader (String × Option Direction) :=
  Json.record [
    Json.requiredField "column" Json.text fun c v => (v, c.2),
    Json.optionalField "direction" (Json.nullable Direction.reader) fun c v => (c.1, v)]
    ("", none)

/-- Reads one call of a sort chain. -/
def reader : Json.Reader SortCall :=
  Json.choice [
    .withRecord "by" ((fun c => .sortBy c.1 c.2) <$> columnReader),
    .withRecord "and" ((fun c => .thenBy c.1 c.2) <$> columnReader),
    .bare "ascending" (.chainWide .ascending),
    .bare "descending" (.chainWide .descending)]

end SortCall

namespace SortChain

/-- Reads a sort chain. -/
def reader : Json.Reader SortChain := Json.list SortCall.reader

end SortChain

namespace CallSite

/-- A call site with nothing given. -/
def blank : CallSite := ⟨none, 0, none, none, .empty, []⟩

/-- Reads a call site; every field may be left out. -/
def reader : Json.Reader CallSite :=
  Json.record [
    Json.optionalField "literal" (Json.nullable Json.text) fun s v => { s with literal := v },
    Json.optionalField "literal_start" (Json.natural Text.maxOffset)
      fun s v => { s with literalStart := v },
    Json.optionalField "verb" (Json.nullable Json.text) fun s v => { s with verb := v },
    Json.optionalField "entity" (Json.nullable Json.text) fun s v => { s with entity := v },
    Json.optionalField "bindings" Bindings.reader fun s v => { s with bindings := v },
    Json.optionalField "sort" SortChain.reader fun s v => { s with sort := v }]
    blank

/-- Reads a list of call sites. -/
def readAll (text : String) : Except Json.Fault (List CallSite) := (Json.list reader).run? text

/-- The shorthand call of a site: none unless it gives both a verb and an entity. -/
def shorthandCall? (site : CallSite) : Except UnknownVerb (Option ShorthandCall) :=
  match site.verb, site.entity with
  | some verb, some entity =>
    match Verb.ofName verb with
    | .ok verb => .ok (some ⟨verb, entity, site.literal, site.bindings, site.sort⟩)
    | .error e => .error e
  | _, _ => .ok none

/-- The range of the literal's contents. -/
def literalRange (site : CallSite) : TextRange := ((site.literal).map TextRange.whole).getD ⟨0, 0⟩

end CallSite

end EntityQuery
