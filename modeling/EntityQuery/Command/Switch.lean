/-!
# Actions and their switches

What the command line can be told: an action, and for each action the switches it knows and the
words it takes. A flag stands alone, a setting has a value.
-/
namespace EntityQuery.Command

/-- A switch that stands alone. -/
inductive Flag where
  | help
  | verbose
  | noBindings
  | noSubtypeFallback
  | strict
  deriving DecidableEq, Repr

/-- A switch with a value. -/
inductive Setting where
  | types
  | calls
  | source
  | color
  | params
  | named
  | sort
  deriving DecidableEq, Repr

inductive Switch where
  | flag (f : Flag)
  | setting (s : Setting)
  deriving DecidableEq, Repr

namespace Switch

/-- The name after two hyphens. -/
def name : Switch → String
  | flag .help => "help"
  | flag .verbose => "verbose"
  | flag .noBindings => "no-bindings"
  | flag .noSubtypeFallback => "no-subtype-fallback"
  | flag .strict => "strict"
  | setting .types => "types"
  | setting .calls => "calls"
  | setting .source => "source"
  | setting .color => "color"
  | setting .params => "params"
  | setting .named => "named"
  | setting .sort => "sort"

/-- The letter after one hyphen. -/
def letter? : Switch → Option Char
  | flag .help => some 'h'
  | flag .verbose => some 'v'
  | setting .types => some 't'
  | setting .calls => some 'c'
  | _ => none

end Switch

namespace Setting

/-- Whether an argument can be the value. One that looks like a switch can only be a list of sort
columns, where a hyphen asks for descending order. -/
def accepts (s : Setting) (argument : String) : Bool :=
  match s, argument.toList with
  | .sort, _ => true
  | _, '-' :: _ :: _ => false
  | _, _ => true

end Setting

/-- What the program is asked to do. -/
inductive Action where
  | check
  | dump
  | expand
  deriving DecidableEq, Repr

namespace Action

def all : List Action := [.check, .dump, .expand]

def name : Action → String
  | .check => "check"
  | .dump => "dump"
  | .expand => "expand"

def ofName? (name : String) : Option Action := all.find? (·.name == name)

/-- The switches of an action. -/
def switches : Action → List Switch
  | .check => [.setting .types, .setting .calls, .setting .source, .flag .noBindings,
      .flag .noSubtypeFallback, .flag .strict, .setting .color, .flag .verbose, .flag .help]
  | .dump => [.setting .types, .flag .verbose, .flag .help]
  | .expand => [.setting .params, .setting .named, .setting .sort, .setting .color, .flag .verbose,
      .flag .help]

/-- How many words an action takes. -/
def wordLimit : Action → Nat
  | .check | .dump => 0
  | .expand => 3

def switchNamed? (a : Action) (name : String) : Option Switch := a.switches.find? (·.name == name)

def switchLettered? (a : Action) (letter : Char) : Option Switch :=
  a.switches.find? (·.letter? == some letter)

theorem ofName?_name (a : Action) : ofName? a.name = some a := by cases a <;> rfl

end Action

end EntityQuery.Command
