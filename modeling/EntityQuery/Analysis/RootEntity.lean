import EntityQuery.Analysis.Analyser
import EntityQuery.Analysis.QueryWord
/-!
# The root-entity analyser

Looks at the entity after `FROM` and at every path that belongs to it: paths that start with its
alias, or every word where there is no alias. Queries with joins are left alone beyond their root.
-/
namespace EntityQuery

namespace RootEntity

/-- The shape of a query as far as the analyser reads it. -/
structure Root where
  /-- Position of `FROM` among the words. -/
  position : Nat
  entity : QueryWord
  shortName : Option QueryWord

/-- Why a query has no root. -/
inductive NoRoot where
  | missingFrom
  | missingEntity

/-- The root of a query, from its words: the word after the first `from` names the entity, and the
one after that is the alias unless it is a keyword. -/
def rootOf (words : List QueryWord) : Except NoRoot Root :=
  match words.findIdx? (·.isWord "from") with
  | none => .error .missingFrom
  | some position =>
    match words[position + 1]? with
    | none => .error .missingEntity
    | some entity => .ok ⟨position, entity, words[position + 2]?.filter (!·.isKeyword)⟩

namespace Root

/-- Position of the last word of the root. -/
def lastPosition (r : Root) : Nat := r.position + if r.shortName.isSome then 2 else 1

/-- The words outside the root that may be paths. -/
def candidates (r : Root) (words : List QueryWord) : List QueryWord :=
  (words.zipIdx.filter fun (w, i) =>
    !(r.position ≤ i && i ≤ r.lastPosition) && !w.isKeyword && !w.isCall).map (·.1)

/-- The path on the root entity that a word stands for, if it belongs to it. -/
def pathOf (r : Root) (w : QueryWord) : Option String :=
  match r.shortName with
  | none => some w.text
  | some short =>
    let start := short.text.toList ++ ['.']
    if start.isPrefixOf w.text.toList then some (String.ofList (w.text.toList.drop start.length))
    else none

end Root

/-- Asks for the type of every path; each that has none is a finding. -/
def checkPaths (lookup : Lookup) (entity : String) :
    List (QueryWord × String) → GraphM (List Finding)
  | [] => return []
  | (w, path) :: rest => do
    let answer ← lookup.propertyType entity path
    let findings ← checkPaths lookup entity rest
    return if answer.isSome then findings
      else .error w.range (entity ++ " has no mapped " ++ path) :: findings

/-- The findings on a query with a root. -/
def analyseRoot (lookup : Lookup) (words : List QueryWord) (root : Root) :
    GraphM (List Finding) := do
  match ← lookup.entity root.entity.text with
  | none =>
    return [.error root.entity.range ("`" ++ root.entity.text ++ "` is not a mapped entity")]
  | some entity =>
    if words.any (·.isWord "join") then return []
    else
      checkPaths lookup entity.name
        ((root.candidates words).filterMap fun w => (root.pathOf w).map fun path => (w, path))

/-- The findings on a query. -/
def analyse (lookup : Lookup) (query : String) : GraphM (List Finding) :=
  let words := QueryWord.wordsOf query
  match rootOf words with
  | .error .missingFrom => return [.error (.whole query) "query has no FROM clause"]
  | .error .missingEntity =>
    return [.error (.empty (byteLength query)) "expected an entity after FROM"]
  | .ok root => analyseRoot lookup words root

/-- The analyser; it keeps no state. -/
def analyser : Analyser Unit where
  analyse lookup query _ := do return (← analyse lookup query, ())

end RootEntity

end EntityQuery
