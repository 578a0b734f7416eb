import EntityQuery.Checker
import EntityQuery.Command.Choices
/-!
# Invocations

The actions with all that they need, and the invocation that the arguments of the program stand for.
-/
namespace EntityQuery.Command

/-- Check the call sites of a file. -/
structure CheckOptions where
  types : String
  calls : String
  /-- The source that positions refer to. -/
  source : Option String
  config : CheckConfig
  /-- Take warnings for errors. -/
  strict : Bool
  color : Colour
  verbosity : Nat
  deriving DecidableEq, Repr

/-- List the entities of a file. -/
structure DumpOptions where
  types : String
  verbosity : Nat
  deriving DecidableEq, Repr

/-- Expand one shorthand call. -/
structure ExpandOptions where
  entity : String
  verb : String
  filter : Option String
  positional : Option Nat
  named : List String
  sortColumns : List String
  color : Colour
  verbosity : Nat
  deriving DecidableEq, Repr

inductive Invocation where
  | check (o : CheckOptions)
  | dump (o : DumpOptions)
  | expand (o : ExpandOptions)
  deriving DecidableEq, Repr

/-- What is required. -/
def require {α : Type} (what : String) : Option α → Except UsageError α
  | some a => .ok a
  | none => .error (.missing what)

namespace Choices

/-- Settings that exclude each other. -/
def checkExclusive (c : Choices) : Except UsageError Unit :=
  if c.params.isSome && c.named.isSome then .error (.exclusive .params .named) else .ok ()

def toCheck (c : Choices) : Except UsageError CheckOptions := do
  return {
    types := ← require "--types" c.types
    calls := ← require "--calls" c.calls
    source := c.source
    config := {
      checkBindings := !c.noBindings
      fallbackToSubtypes := !c.noSubtypeFallback
      reportUnknownEntity := true }
    strict := c.strict
    color := c.color.getD .auto
    verbosity := c.verbosity }

def toDump (c : Choices) : Except UsageError DumpOptions := do
  return ⟨← require "--types" c.types, c.verbosity⟩

def toExpand (c : Choices) : Except UsageError ExpandOptions := do
  return {
    entity := ← require "ENTITY" c.words[0]?
    verb := ← require "VERB" c.words[1]?
    filter := c.words[2]?
    positional := c.params
    named := c.named.getD []
    sortColumns := c.sort.getD []
    color := c.color.getD .auto
    verbosity := c.verbosity }

end Choices

namespace Invocation

/-- The invocation of an action with arguments. -/
def ofAction (a : Action) (arguments : List String) : Except UsageError Invocation := do
  let c ← Choices.addAll {} (Occurrence.ofArguments a arguments)
  c.checkExclusive
  match a with
  | .check => return check (← c.toCheck)
  | .dump => return dump (← c.toDump)
  | .expand => return expand (← c.toExpand)

/-- Whether a word may stand where an action is wanted. -/
def isTopic (word : String) : Bool := word == "help" || (Action.ofName? word).isSome

/-- The words after `help`: nothing, or one thing that there is help on. -/
def ofHelp : List String → UsageError
  | [] => .helpAsked
  | topic :: rest =>
    if isTopic topic then (rest.head?.map UsageError.unknownAction).getD .helpAsked
    else .unknownAction topic

/-- Why there is no action, if the first argument is none. -/
def ofOther (argument : String) (rest : List String) : UsageError :=
  match Argument.ofString argument with
  | .separator =>
    match rest.head? with
    | none => .nothingGiven
    | some word => if isTopic word then .unknownArgument word else .unknownAction word
  | .long name none => if name == "help" then .helpAsked else .unknownArgument argument
  | .long name (some _) =>
    if name == "help" then .unwantedValue .help else .unknownArgument argument
  | .letters cs => if cs.head? == some 'h' then .helpAsked else .unknownArgument argument
  | .word text => .unknownAction text

/-- The invocation that arguments stand for. -/
def ofArguments : List String → Except UsageError Invocation
  | [] => .error .nothingGiven
  | argument :: rest =>
    match Action.ofName? argument with
    | some a => ofAction a rest
    | none => .error (if argument == "help" then ofHelp rest else ofOther argument rest)

/-- The files that an invocation reads, in order. -/
def paths : Invocation → List String
  | check o => o.types :: o.calls :: o.source.toList
  | dump o => [o.types]
  | expand _ => []

end Invocation

end EntityQuery.Command
