import EntityQuery.Analysis.RootEntity
import EntityQuery.Command.Directory
import EntityQuery.Command.Invocation
import EntityQuery.Diagnostic.Printing
import EntityQuery.Graph.Summary
import EntityQuery.Model.Reading
/-!
# Outcomes

What the program prints and its exit status, as a function of its arguments and the files it reads.
Findings and failures go to the error output.
-/
namespace EntityQuery.Command

/-- Why an action comes to no end. -/
inductive Failure where
  | unreadable (path : String) (fault : ReadFault)
  | types (path : String) (error : LoadError)
  | calls (path : String) (fault : Json.Fault)
  /-- A call that is not expanded, with what is said about it. -/
  | unexpanded (text : String)
  /-- A finding that cuts a character of the source. -/
  | unprintable
  /-- A position that does not fit in 32 bits. -/
  | tooFar
  | missingId (e : MissingId)
  deriving DecidableEq, Repr

namespace Failure

def message : Failure → String
  | unreadable path fault => "failed to read " ++ path ++ ": " ++ fault.message
  | types path error => path ++ ": " ++ error.message
  | calls path fault => path ++ ": invalid call sites: " ++ fault.message
  | unexpanded text => text
  | unprintable => "a range cuts a character of the source"
  | tooFar => "a position does not fit in 32 bits"
  | missingId e => e.message

/-- Failures that no valid input leads to have a status of their own. -/
def status : Failure → Nat
  | unprintable | tooFar | missingId _ => 101
  | _ => 1

end Failure

/-- What a run of the program leaves behind. -/
structure Outcome where
  status : Nat
  output : String
  errors : String
  deriving DecidableEq, Repr

namespace Outcome

def ofFailure (f : Failure) : Outcome := ⟨f.status, "", "error: " ++ f.message ++ "\n"⟩

def ofUsageError (e : UsageError) : Outcome := ⟨2, "", e.message ++ "\n" ++ usageText⟩

end Outcome

/-- The text of a file. -/
def readText (read : FileReader) (path : String) : Except Failure String :=
  (read path).mapError (.unreadable path)

def readTypes (read : FileReader) (path : String) : Except Failure TypeModel := do
  let text ← readText read path
  ((Declared.ofJson text).mapError (.types path)).map Declared.toModel

def readCalls (read : FileReader) (path : String) : Except Failure (List CallSite) := do
  let text ← readText read path
  (CallSite.readAll text).mapError (.calls path)

namespace CheckOptions

/-- Every finding on call sites. -/
def findings (o : CheckOptions) (types : TypeModel) (sites : List CallSite) :
    Except Failure Diagnostics := do
  let checked := Checker.reportEach types RootEntity.analyser o.config sites () Graph.empty
  let ((reports, _), _) ← checked.mapError .missingId
  if ∀ r ∈ reports, r.Fits then return reports.flatMap (·.inSource) else throw .tooFar

/-- Whether findings let a check fail. -/
def failsOn (o : CheckOptions) (ds : Diagnostics) : Bool :=
  if o.strict then !ds.isEmpty else Diagnostics.hasErrors ds

def outcome (o : CheckOptions) (read : FileReader) (terminal : Bool) : Except Failure Outcome := do
  let types ← readTypes read o.types
  let sites ← readCalls read o.calls
  let source ← o.source.mapM (readText read)
  let ds ← o.findings types sites
  let errors ←
    if ds.isEmpty then pure ""
    else
      match Diagnostics.print? ds source o.source (o.color.isOn terminal) with
      | some text => pure (text ++ "\n")
      | none => throw .unprintable
  return ⟨if o.failsOn ds then 1 else 0, "", errors⟩

end CheckOptions

namespace DumpOptions

def outcome (o : DumpOptions) (read : FileReader) : Except Failure Outcome := do
  let types ← readTypes read o.types
  let text ← (summary types).mapError .missingId
  return ⟨0, text, ""⟩

end DumpOptions

namespace ExpandOptions

/-- The parameters bound: those with names, else as many as the count says. -/
def bindings (o : ExpandOptions) : Bindings :=
  if o.named.isEmpty then .ofCount (o.positional.getD 0) else .ofNames o.named

def sortChain (o : ExpandOptions) : SortChain := .ofColumns o.sortColumns

/-- The expanded text with its offset, or why there is none. -/
def result (o : ExpandOptions) (terminal : Bool) : Except Failure String := do
  let verb ← (Verb.ofName o.verb).mapError fun e => Failure.unexpanded e.message
  match EntityQuery.expand ⟨verb, o.entity, o.filter, o.bindings, o.sortChain⟩ [] with
  | (some e, _) => return e.text ++ "\noffset: " ++ toString e.offset
  | (none, []) => throw (.unexpanded ("`" ++ verb.text ++ "` calls are not expanded"))
  | (none, ds) =>
    if ds.Fit then
      match Diagnostics.print? ds (o.filter.getD "") "<filter>" (o.color.isOn terminal) with
      | some text => throw (.unexpanded text)
      | none => throw .unprintable
    else throw .tooFar

def outcome (o : ExpandOptions) (terminal : Bool) : Except Failure Outcome := do
  let text ← o.result terminal
  return ⟨0, text ++ "\n", ""⟩

end ExpandOptions

namespace Invocation

def outcome (i : Invocation) (read : FileReader) (terminal : Bool) : Except Failure Outcome :=
  match i with
  | check o => o.outcome read terminal
  | dump o => o.outcome read
  | expand o => o.outcome terminal

end Invocation

/-- Runs the program. -/
def run (arguments : List String) (read : FileReader) (terminal : Bool) : Outcome :=
  match Invocation.ofArguments arguments with
  | .error e => .ofUsageError e
  | .ok i =>
    match i.outcome read terminal with
    | .ok outcome => outcome
    | .error f => .ofFailure f

end EntityQuery.Command
