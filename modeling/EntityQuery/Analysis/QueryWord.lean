import EntityQuery.Text.Blank
import EntityQuery.Text.Case
import EntityQuery.Text.Offset
import EntityQuery.Text.Word
/-!
# Words of a query

The words of a query that may name something: runs of word characters outside of quotes that are
neither numbers nor placeholders.
-/
namespace EntityQuery

/-- A word, with its position in the query. -/
structure QueryWord where
  text : String
  start : Nat
  /-- Whether an opening parenthesis follows. -/
  isCall : Bool
  deriving DecidableEq, Repr, Inhabited

namespace QueryWord

/-- Words with a meaning in the language, in any case. -/
def keywords : List String := [
  "all", "and", "as", "asc", "between", "by", "count", "desc", "distinct", "else", "end",
  "escape", "exists", "false", "fetch", "from", "group", "having", "in", "is", "join", "left",
  "like", "member", "not", "null", "of", "on", "or", "order", "select", "then", "true", "when",
  "where", "case", "inner", "outer", "empty"]

/-- Whether the word is `keyword`, in any case. -/
def isWord (w : QueryWord) (keyword : String) : Bool :=
  Text.sameIgnoringCase keyword.toList w.text.toList

def isKeyword (w : QueryWord) : Bool := keywords.any w.isWord

def range (w : QueryWord) : TextRange := ⟨w.start, w.start + byteLength w.text⟩

/-- Where in a query the reader of words is. -/
inductive Mode where
  /-- Where a word may start. -/
  | between
  /-- Between quotes. -/
  | quoted
  /-- Within a run of word characters: of a word already taken, a number or a placeholder. -/
  | within
  deriving DecidableEq, Repr

/-- Whether `rest`, which follows a word, goes on with an opening parenthesis. -/
def opensCall (rest : List Char) : Bool := (Text.trimStart rest).head? == some '('

/-- The word that `c` at `pos` starts. -/
def wordAt (pos : Nat) (c : Char) (rest : List Char) : QueryWord :=
  ⟨String.ofList (c :: rest.takeWhile Text.isWordChar), pos,
    opensCall (rest.dropWhile Text.isWordChar)⟩

/-- The words of the text that starts at `pos`. -/
def wordsFrom : Mode → Nat → List Char → List QueryWord
  | _, _, [] => []
  | mode, pos, c :: rest =>
    let next := pos + c.utf8Size
    if mode == .quoted then
      if c == '\'' then wordsFrom .between next rest else wordsFrom .quoted next rest
    else if mode == .within && Text.isWordChar c then wordsFrom .within next rest
    else if c == '\'' then wordsFrom .quoted next rest
    else if c == ':' || c == '?' || c.isDigit then wordsFrom .within next rest
    else if Text.isWordChar c then wordAt pos c rest :: wordsFrom .within next rest
    else wordsFrom .between next rest

/-- The words of a query, in order. -/
def wordsOf (query : String) : List QueryWord := wordsFrom .between 0 query.toList

end QueryWord

end EntityQuery
