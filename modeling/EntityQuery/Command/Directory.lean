import EntityQuery.Text.Split
/-!
# The working directory

The files that the program can read, and which of them a path names. A path is followed step by
step: an empty step and a single dot stay where they are, two dots go up.

Results:
* `text?_add`: a file that was added has the text it was added with.
* `follow_here`: a single dot leads from a directory to itself.
* `follow_file`, `follow_below_file`: the last step to a file gives its text, and no step leads on
  from a file.
-/
namespace EntityQuery.Command

/-- Why a file cannot be read. -/
inductive ReadFault where
  | missing
  | notText
  | isDirectory
  /-- The path goes on behind a file. -/
  | throughFile
  | nameTooLong
  | other (reason : String)
  deriving DecidableEq, Repr

namespace ReadFault

def message : ReadFault → String
  | missing => "No such file or directory (os error 2)"
  | notText => "stream did not contain valid UTF-8"
  | isDirectory => "Is a directory (os error 21)"
  | throughFile => "Not a directory (os error 20)"
  | nameTooLong => "File name too long (os error 36)"
  | other reason => reason

end ReadFault

/-- Gives the text of a file. -/
abbrev FileReader := String → Except ReadFault String

/-- A tree of files and the directory in it where the program runs. Files and directories are given
by the names that lead to them from the root. -/
structure Directory where
  files : List (List String × String)
  home : List String
  deriving DecidableEq, Repr

namespace Directory

/-- The steps of a path: its parts between slashes. -/
def steps (path : String) : List String :=
  (Text.split (· == '/') path.toList).map String.ofList

/-- Where a path starts: at the root if it starts with a slash. -/
def start (home : List String) (path : String) : List String :=
  if path.toList.head? == some '/' then [] else home

/-- Where a step leads from a directory. Up from the root is the root. -/
def after (names : List String) (step : String) : List String :=
  if step == "" || step == "." then names
  else if step == ".." then names.dropLast
  else names ++ [step]

/-- The same files and one more, in the place of an older one that its path names too. -/
def add (d : Directory) (path text : String) : Directory :=
  let names := (steps path).foldl after (start d.home path)
  { d with files := (names, text) :: d.files.filter (·.1 != names) }

/-- A directory for temporary files with nothing in it. What else there is outside is not known, but
for the empty device; the own name of the directory is one that no step has. -/
def temporary : Directory := ⟨[(["dev", "null"], "")], ["tmp", "/"]⟩

/-- A temporary directory with the given files, each under its path. -/
def ofFiles (files : List (String × String)) : Directory :=
  files.foldl (fun d (path, text) => d.add path text) temporary

/-- The text of the file that the given names lead to. -/
def text? (d : Directory) (names : List String) : Option String :=
  (d.files.find? (·.1 == names)).map (·.2)

/-- Whether the given names lead to a directory: the one where the program runs, one with a file in
it, or one above these. -/
def hasDirectory (d : Directory) (names : List String) : Bool :=
  names.isPrefixOf d.home || d.files.any fun (file, _) => names.isPrefixOf file

/-- Most bytes of a name. -/
def nameLimit : Nat := 255

/-- Most bytes of a path. -/
def pathLimit : Nat := 4095

/-- Why a step leads to nothing: no name is longer than the limit. -/
def notFound (step : String) : ReadFault :=
  if nameLimit < step.utf8ByteSize then .nameTooLong else .missing

/-- Follows steps from a directory to a file. -/
def follow (d : Directory) (names : List String) : List String → Except ReadFault String
  | [] => .error .isDirectory
  | step :: rest =>
    let next := after names step
    match d.text? next with
    | some text => if rest.isEmpty then .ok text else .error .throughFile
    | none => if d.hasDirectory next then d.follow next rest else .error (notFound step)

/-- Reads the file that a path names. An empty path names nothing, and a path over the limit is not
followed at all. -/
def read (d : Directory) : FileReader := fun path =>
  if path.isEmpty then .error .missing
  else if pathLimit < path.utf8ByteSize then .error .nameTooLong
  else d.follow (start d.home path) (steps path)

theorem after_here (names : List String) : after names "." = names := by simp [after]

theorem after_up_root : after [] ".." = [] := by simp [after]

theorem text?_add (d : Directory) (path text : String) :
    (d.add path text).text? ((steps path).foldl after (start d.home path)) = some text := by
  simp [add, text?]

/-- A single dot leads from a directory to itself. -/
theorem follow_here (d : Directory) {names : List String} (h : d.hasDirectory names = true)
    (hfile : d.text? names = none) (rest : List String) :
    d.follow names ("." :: rest) = d.follow names rest := by
  rw [follow]
  simp [after_here, h, hfile]

/-- The last step to a file gives its text. -/
theorem follow_file (d : Directory) {names : List String} {step text : String}
    (h : d.text? (after names step) = some text) : d.follow names [step] = .ok text := by
  simp [follow, h]

/-- From a file no step leads on, not even an empty one. -/
theorem follow_below_file (d : Directory) {names : List String} {step text next : String}
    (h : d.text? (after names step) = some text) (rest : List String) :
    d.follow names (step :: next :: rest) = .error .throughFile := by
  simp [follow, h]

end Directory

end EntityQuery.Command
