import EntityQuery.Name
/-!
# Shorthand verbs

The first word of a shorthand call. Two of the verbs are known but never expanded.
-/
namespace EntityQuery

inductive Verb where
  | find
  | list
  | stream
  | count
  | exists
  | update
  | delete
  deriving DecidableEq, Repr, Inhabited

/-- A verb that is none. -/
structure UnknownVerb where
  name : String
  deriving DecidableEq, Repr

namespace UnknownVerb

def message (e : UnknownVerb) : String := "unknown shorthand verb `" ++ e.name ++ "`"

end UnknownVerb

namespace Verb

def text : Verb → String
  | .find => "find"
  | .list => "list"
  | .stream => "stream"
  | .count => "count"
  | .exists => "exists"
  | .update => "update"
  | .delete => "delete"

/-- Every verb. -/
def all : List Verb := [.find, .list, .stream, .count, .exists, .update, .delete]

/-- Whether the call yields a number of rows. -/
def isCount : Verb → Bool
  | .count | .exists => true
  | _ => false

/-- Whether the call is expanded. -/
def isSupported : Verb → Bool
  | .update | .delete => false
  | _ => true

/-- The verb with a name. One `All` at the end of the name does not matter. -/
def ofName (name : String) : Except UnknownVerb Verb :=
  let base := (Name.stripEnd ['A', 'l', 'l'] name.toList).getD name.toList
  match all.find? fun v => v.text.toList == base with
  | some v => .ok v
  | none => .error ⟨name⟩

end Verb

end EntityQuery
