import EntityQuery.Command.Outcome
/-!
# The program

Reads the files that the arguments name, runs the program on them and prints what it says.
-/
namespace EntityQuery.Command

/-- Why a file cannot be read, by the error that reading it gave. The code of the system may come
negated. -/
def faultOf (e : IO.Error) : ReadFault :=
  let isCode (n code : UInt32) : Bool := code == n || code == 0 - n
  match e with
  | .noFileOrDirectory .. => .missing
  | .inappropriateType _ code _ =>
    if isCode 21 code then .isDirectory
    else if isCode 20 code then .throughFile
    else .other (toString e)
  | .invalidArgument _ code _ => if isCode 36 code then .nameTooLong else .other (toString e)
  | e => .other (toString e)

/-- The text of a file, as far as it can be read. -/
def readFileText (path : String) : IO (Except ReadFault String) := do
  try
    let bytes ← IO.FS.readBinFile path
    match String.fromUTF8? bytes with
    | some text => return .ok text
    | none => return .error .notText
  catch e => return .error (faultOf e)

end EntityQuery.Command

open EntityQuery.Command

def main (arguments : List String) : IO UInt32 := do
  let paths := ((Invocation.ofArguments arguments).map Invocation.paths).toOption.getD []
  let texts ← paths.mapM fun path => return (path, ← readFileText path)
  let terminal ← (← IO.getStderr).isTty
  let outcome := run arguments (fun path => (texts.lookup path).getD (.error .missing)) terminal
  IO.print outcome.output
  IO.eprint outcome.errors
  return outcome.status.toUInt32
