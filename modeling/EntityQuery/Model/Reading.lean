import EntityQuery.Json.Decode
import EntityQuery.Model.Declared
/-!
# Declarations in JSON

Readers for declared types, and the model that a text of declarations gives.
-/
namespace EntityQuery

/-- Why a text of declarations gives no model. -/
inductive LoadError where
  | json (fault : Json.Fault)
  | model (error : ModelError)
  deriving DecidableEq, Repr

namespace LoadError

def message : LoadError → String
  | json fault => "invalid type declarations: " ++ fault.message
  | model error => error.message

end LoadError

namespace Annotation

/-- Reads an annotation; only its name is required. -/
def reader : Json.Reader Annotation :=
  Json.record [
    Json.requiredField "name" Json.text fun a v => { a with name := v },
    Json.optionalField "attributes" (Json.map Json.text) fun a v => { a with attributes := v }]
    ⟨"", []⟩

end Annotation

namespace Member

/-- A member while it is read: the number of parameters is kept for methods only. -/
structure Draft where
  member : Member
  isMethod : Bool
  parameters : Nat

def Draft.finish (d : Draft) : Member :=
  { d.member with kind := if d.isMethod then .method d.parameters else .field }

/-- Reads a member; its name and its type are required. -/
def reader : Json.Reader Member :=
  Draft.finish <$> Json.record [
    Json.requiredField "name" Json.text fun d v => { d with member.name := v },
    Json.optionalField "kind" (Json.choice [.bare "field" false, .bare "method" true])
      fun d v => { d with isMethod := v },
    Json.requiredField "type" Json.text fun d v => { d with member.type.name := v },
    Json.optionalField "arguments" (Json.list Json.text)
      fun d v => { d with member.type.arguments := v },
    Json.optionalField "parameters" (Json.natural 255) fun d v => { d with parameters := v },
    Json.optionalField "static" Json.flag fun d v => { d with member.isStatic := v },
    Json.optionalField "transient" Json.flag fun d v => { d with member.isTransient := v },
    Json.optionalField "annotations" (Json.list Annotation.reader)
      fun d v => { d with member.annotations := v }]
    ⟨⟨"", .field, ⟨"", []⟩, false, false, []⟩, false, 0⟩

end Member

namespace Declaration

/-- Reads a declared type; only its name is required. -/
def reader : Json.Reader Declaration :=
  Json.record [
    Json.requiredField "name" Json.text fun d v => { d with name := v },
    Json.optionalField "superclass" (Json.nullable Json.text) fun d v => { d with superclass := v },
    Json.optionalField "annotations" (Json.list Annotation.reader)
      fun d v => { d with annotations := v },
    Json.optionalField "members" (Json.list Member.reader) fun d v => { d with members := v }]
    ⟨"", none, [], []⟩

/-- Reads a list of declared types. -/
def readAll (text : String) : Except Json.Fault (List Declaration) :=
  (Json.list reader).run? text

end Declaration

namespace Declared

/-- The model that a text of declarations gives. -/
def ofJson (text : String) : Except LoadError Declared :=
  match Declaration.readAll text with
  | .error fault => .error (.json fault)
  | .ok ds =>
    match build ds with
    | .error e => .error (.model e)
    | .ok m => .ok m

end Declared

end EntityQuery
