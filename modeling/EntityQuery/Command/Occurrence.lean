import EntityQuery.Command.Usage
/-!
# Occurrences on the command line

The arguments of an action as the words and switches they stand for, in order. A setting takes its
value from the same argument (`--types=FILE`, `-tFILE`) or from the next one, letters of flags may
share an argument (`-vv`), and after `--` every argument is a word.

Results:
* `scan_words`: arguments that start with no hyphen are words.
-/
namespace EntityQuery.Command

/-- What a part of the command line stands for. -/
inductive Occurrence where
  | word (text : String)
  | flag (f : Flag)
  /-- A setting with its value in the same argument. -/
  | attached (s : Setting) (value : String)
  /-- A setting with its value in the next argument, or with none. -/
  | detached (s : Setting) (value : Option String)
  /-- Nothing that the action knows. -/
  | refused (e : UsageError)
  deriving DecidableEq, Repr

/-- An argument by its hyphens. -/
inductive Argument where
  /-- Two hyphens alone. -/
  | separator
  | long (name : String) (value : Option String)
  | letters (letters : List Char)
  | word (text : String)
  deriving DecidableEq, Repr

namespace Argument

/-- The name before the first equals sign, and the value after it. -/
def ofLong (cs : List Char) : Argument :=
  let name := String.ofList (cs.takeWhile (· != '='))
  match cs.dropWhile (· != '=') with
  | [] => long name none
  | _ :: value => long name (some (String.ofList value))

def ofString (argument : String) : Argument :=
  match argument.toList with
  | ['-', '-'] => separator
  | '-' :: '-' :: rest => ofLong rest
  | '-' :: c :: rest => letters (c :: rest)
  | _ => word argument

end Argument

namespace Occurrence

/-- What a long switch stands for, and the setting that still waits for its value. -/
def ofLong (a : Action) (name : String) (value : Option String) :
    List Occurrence × Option Setting :=
  match a.switchNamed? name, value with
  | none, _ => ([refused (.unknownArgument ("--" ++ name))], none)
  | some (.flag f), none => ([flag f], none)
  | some (.flag f), some _ => ([refused (.unwantedValue f)], none)
  | some (.setting s), none => ([], some s)
  | some (.setting s), some v => ([attached s v], none)

/-- What letters stand for, and the setting that still waits for its value. The letters after that
of a setting are its value, without a leading equals sign. -/
def ofLetters (a : Action) : List Char → List Occurrence × Option Setting
  | [] => ([], none)
  | c :: rest =>
    match a.switchLettered? c with
    | none => ([refused (.unknownArgument (String.ofList ['-', c]))], none)
    | some (.flag f) =>
      let (os, waiting) := ofLetters a rest
      (flag f :: os, waiting)
    | some (.setting s) =>
      match rest with
      | [] => ([], some s)
      | '=' :: value => ([attached s (String.ofList value)], none)
      | value => ([attached s (String.ofList value)], none)

/-- Words, as many as there is room for; the next one is refused. -/
def ofWords : Nat → List String → List Occurrence
  | _, [] => []
  | 0, text :: _ => [refused (.unknownArgument text)]
  | room + 1, text :: rest => word text :: ofWords room rest

/-- What arguments stand for, with room for so many words. `waiting` is the setting whose value the
first argument may be. -/
def scan (a : Action) : Nat → Option Setting → List String → List Occurrence
  | _, waiting, [] => (waiting.map (detached · none)).toList
  | room, waiting, argument :: rest =>
    match waiting.filter (·.accepts argument) with
    | some s => detached s (some argument) :: scan a room none rest
    | none =>
      (waiting.map (detached · none)).toList ++
        match Argument.ofString argument with
        | .separator => ofWords room rest
        | .long name value =>
          let (os, waiting) := ofLong a name value
          os ++ scan a room waiting rest
        | .letters cs =>
          let (os, waiting) := ofLetters a cs
          os ++ scan a room waiting rest
        | .word text =>
          match room with
          | 0 => [refused (.unknownArgument text)]
          | room + 1 => word text :: scan a room none rest

/-- What the arguments of an action stand for. -/
def ofArguments (a : Action) (arguments : List String) : List Occurrence :=
  scan a a.wordLimit none arguments

theorem scan_words (a : Action) (texts : List String) (room : Nat)
    (h : ∀ text ∈ texts, Argument.ofString text = .word text) :
    scan a room none texts = ofWords room texts := by
  induction texts generalizing room with
  | nil => cases room <;> rfl
  | cons text texts ih =>
    have hw := h text (by simp)
    have ih := fun room => ih room fun t ht => h t (by simp [ht])
    cases room <;> simp [scan, ofWords, hw, ih]

end Occurrence

end EntityQuery.Command
