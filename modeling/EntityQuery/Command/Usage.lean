import EntityQuery.Command.Switch
/-!
# Usage errors

Why arguments are refused, and the text that tells it.
-/
namespace EntityQuery.Command

inductive UsageError where
  /-- Help was asked for. -/
  | helpAsked
  /-- There are no arguments at all. -/
  | nothingGiven
  /-- The first word is no action. -/
  | unknownAction (word : String)
  /-- A switch that the action does not know, or a word too many. -/
  | unknownArgument (argument : String)
  /-- A flag with a value. -/
  | unwantedValue (f : Flag)
  | missingValue (s : Setting)
  /-- A value that is none of the choices. -/
  | unknownChoice (s : Setting) (value : String)
  /-- A value that is no number in range. -/
  | malformedNumber (s : Setting) (value : String)
  /-- A switch that may be given once is given again. -/
  | repeated (s : Switch)
  /-- Two settings that exclude each other. -/
  | exclusive (s t : Setting)
  /-- Something required is not given. -/
  | missing (what : String)
  deriving DecidableEq, Repr

namespace UsageError

/-- One line on the cause. -/
def message : UsageError → String
  | helpAsked => "entity queries against type declarations"
  | nothingGiven => "nothing to do"
  | unknownAction word => "unknown action `" ++ word ++ "`"
  | unknownArgument argument => "unexpected argument `" ++ argument ++ "`"
  | unwantedValue f => "`--" ++ (Switch.flag f).name ++ "` takes no value"
  | missingValue s => "`--" ++ (Switch.setting s).name ++ "` needs a value"
  | unknownChoice s value =>
    "`" ++ value ++ "` is no choice for `--" ++ (Switch.setting s).name ++ "`"
  | malformedNumber s value =>
    "`" ++ value ++ "` is no number for `--" ++ (Switch.setting s).name ++ "`"
  | repeated s => "`--" ++ s.name ++ "` is given twice"
  | exclusive s t =>
    "`--" ++ (Switch.setting s).name ++ "` excludes `--" ++ (Switch.setting t).name ++ "`"
  | missing what => what ++ " is missing"

end UsageError

/-- How the program is called. -/
def usageText : String :=
  "usage: check --types FILE --calls FILE [--source FILE] [--no-bindings]\n" ++
  "             [--no-subtype-fallback] [--strict] [--color auto|always|never] [-v]\n" ++
  "       dump --types FILE [-v]\n" ++
  "       expand ENTITY VERB [FILTER] [--params N | --named NAMES] [--sort COLUMNS]\n" ++
  "              [--color auto|always|never] [-v]\n"

end EntityQuery.Command
