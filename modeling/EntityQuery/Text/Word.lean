/-!
# Words and identifiers

The ASCII characters that make up words of a query, where a dot joins segments, and identifiers.
-/
namespace EntityQuery.Text

/-- Letters, digits, underscore and dot. -/
def isWordChar (c : Char) : Bool := c.isAlphanum || c == '_' || c == '.'

/-- Letters, digits and underscore. -/
def isIdentChar (c : Char) : Bool := c.isAlphanum || c == '_'

/-- Letters and underscore: what an identifier may start with. -/
def isIdentStart (c : Char) : Bool := c.isAlpha || c == '_'

end EntityQuery.Text
