import EntityQuery.Text.CaseTable
/-!
# Upper and lower case

Case of single characters by the Unicode tables, the two name transformations built on it, and the
comparison that ignores the case of ASCII letters only.

Results:
* `sameIgnoringCase_refl`, `sameIgnoringCase_length`: a text is the same as itself, and as texts of
  its length only.
* `sameIgnoringCase_iff`: two texts are the same ignoring case if they are in lower case.
-/
namespace EntityQuery.Text

/-- The characters that replace `c`, given the expansions and the runs of one direction. -/
def mapCase (expansions : List (Nat × List Nat)) (runs : List CaseRun) (c : Char) : List Char :=
  match expansions.lookup c.toNat with
  | some codes => codes.map Char.ofNat
  | none =>
    match runs.find? (·.covers c.toNat) with
    | some run => [Char.ofNat (run.apply c.toNat)]
    | none => [c]

/-- The upper case of a character: more than one character for some. -/
def upper (c : Char) : List Char := mapCase upperExpansions upperRuns c

/-- The lower case of a character: more than one character for some. -/
def lower (c : Char) : List Char := mapCase lowerExpansions lowerRuns c

/-- Whether a character is an uppercase one. -/
def isUppercase (c : Char) : Bool := uppercaseRuns.any (·.covers c.toNat)

/-- The name with its first character in upper case. -/
def capitalize : List Char → List Char
  | [] => []
  | c :: cs => upper c ++ cs

/-- The name with its first character in lower case, unless its first two are both uppercase: an
acronym keeps its case. -/
def decapitalize : List Char → List Char
  | [] => []
  | c :: cs =>
    if isUppercase c && cs.head?.any isUppercase then c :: cs else lower c ++ cs

/-- Whether two texts differ at most in the case of ASCII letters. -/
def sameIgnoringCase : List Char → List Char → Bool
  | [], [] => true
  | c :: cs, d :: ds => c.toLower == d.toLower && sameIgnoringCase cs ds
  | _, _ => false

theorem sameIgnoringCase_refl (cs : List Char) : sameIgnoringCase cs cs = true := by
  induction cs with
  | nil => rfl
  | cons c cs ih => simp [sameIgnoringCase, ih]

theorem sameIgnoringCase_length {cs ds : List Char} (h : sameIgnoringCase cs ds = true) :
    cs.length = ds.length := by
  induction cs generalizing ds with
  | nil => cases ds <;> simp_all [sameIgnoringCase]
  | cons c cs ih =>
    cases ds with
    | nil => simp [sameIgnoringCase] at h
    | cons d ds =>
      simp only [sameIgnoringCase, Bool.and_eq_true] at h
      simp [ih h.2]

theorem sameIgnoringCase_iff {cs ds : List Char} :
    sameIgnoringCase cs ds = true ↔ cs.map Char.toLower = ds.map Char.toLower := by
  induction cs generalizing ds with
  | nil => cases ds <;> simp [sameIgnoringCase]
  | cons c cs ih =>
    cases ds with
    | nil => simp [sameIgnoringCase]
    | cons d ds => simp [sameIgnoringCase, ih]

/-- Whether `text` begins with `word`, ASCII letters compared without case. -/
def startsIgnoringCase (word text : List Char) : Bool :=
  word.length ≤ text.length && sameIgnoringCase word (text.take word.length)

end EntityQuery.Text
