import EntityQuery.Path
import EntityQuery.Text.Case
/-!
# Names

Names of types and members: the simple name of a qualified one, the change of case between a
property and its accessors, and the property that an accessor stands for.
-/
namespace EntityQuery

namespace Name

/-- The last segment of a qualified name. -/
def simple (qualified : String) : String := Path.lastSegment qualified

/-- The name with its first character in upper case. -/
def capitalize (name : String) : String := String.ofList (Text.capitalize name.toList)

/-- The name with its first character in lower case; a name that starts with two uppercase
characters is left alone. -/
def decapitalize (name : String) : String := String.ofList (Text.decapitalize name.toList)

/-- The characters after `start`, if the text begins with it. -/
def stripStart (start : List Char) (text : List Char) : Option (List Char) :=
  if start.isPrefixOf text then some (text.drop start.length) else none

/-- The characters before `stop`, if the text ends with it. -/
def stripEnd (stop : List Char) (text : List Char) : Option (List Char) :=
  if stop.isSuffixOf text then some (text.take (text.length - stop.length)) else none

/-- The property of an accessor `get…` or `is…`: what follows must start with an uppercase
character. Parameters and type of the method are not looked at. -/
def accessorProperty (method : String) : Option String :=
  match stripStart ['g', 'e', 't'] method.toList <|> stripStart ['i', 's'] method.toList with
  | some (c :: rest) =>
    if Text.isUppercase c then some (String.ofList (Text.decapitalize (c :: rest))) else none
  | _ => none

end Name

end EntityQuery
