import Mathlib
import EntityQuery.Analysis.RootEntity
import EntityQuery.Proofs.Analysis.WordGrammar
/-!
# How a query with a root is read

The words of a query with a root are those before `FROM`, `FROM` itself, the entity, and those
behind it. The first of these is the alias if it is no keyword. Every other word may be a path, and
with an alias only what stands behind the alias and a dot is one.

Results:
* `Reading.rootOf_words`: the root of such words.
* `askedBy_eq_some`: the path that a word asks for.
* `Reading.checked_words`: what the analyser checks.
* `Reading.Of.mem_paths_iff`, `Reading.Of.paths_increasing`: the paths of a query, in order.
-/
namespace EntityQuery

/-- Where the positions decide one thing only, a filter on items and positions is one on items. -/
theorem filter_zipIdx {α : Type} (p : α → Bool) (q : Nat → Bool) (b : Bool) (items : List α)
    (k : Nat) (hq : ∀ i, k ≤ i → i < k + items.length → q i = b) :
    ((items.zipIdx k).filter fun (a, i) => q i && p a).map (·.1) =
      items.filter fun a => b && p a := by
  have hsame : ∀ x ∈ items.zipIdx k, (q x.2 && p x.1) = (b && p x.1) := fun x hx => by
    rw [hq x.2 (List.le_snd_of_mem_zipIdx hx) (List.snd_lt_add_of_mem_zipIdx hx)]
  rw [List.filter_congr hsame]
  conv_rhs => rw [← List.zipIdx_map_fst k items, List.filter_map]
  rfl

namespace RootEntity

/-! ## Paths under an alias -/

/-- How a path on the root entity is written: behind the alias and a dot, or without an alias. -/
def written (short : Option QueryWord) (path : String) : String :=
  match short with
  | none => path
  | some a => a.text ++ "." ++ path

/-- A word stands for the path that is written so. -/
theorem Root.pathOf_eq_some {r : Root} {w : QueryWord} {path : String} :
    r.pathOf w = some path ↔ w.text = written r.shortName path := by
  unfold pathOf written
  cases r.shortName with
  | none => exact Option.some_inj
  | some short =>
    dsimp only
    constructor
    · intro h
      split at h <;> cases h
      rename_i hprefix
      obtain ⟨behind, hbehind⟩ := List.isPrefixOf_iff_prefix.mp hprefix
      refine String.toList_injective ?_
      simp [← hbehind]
    · intro h
      have hlist : w.text.toList = short.text.toList ++ ['.'] ++ path.toList := by rw [h]; simp
      have hprefix : (short.text.toList ++ ['.']).isPrefixOf w.text.toList = true :=
        List.isPrefixOf_iff_prefix.mpr ⟨path.toList, hlist.symm⟩
      rw [if_pos hprefix, hlist, List.drop_left, String.ofList_toList]

/-- What may be a path at all: no keyword and no call. -/
def mayBePath (w : QueryWord) : Bool := !w.isKeyword && !w.isCall

/-- The path that a word asks for under an alias, or without one. -/
def askedBy (short : Option QueryWord) (w : QueryWord) : Option String :=
  if mayBePath w then (Root.mk 0 w short).pathOf w else none

theorem askedBy_eq_some {short : Option QueryWord} {w : QueryWord} {path : String} :
    askedBy short w = some path ↔
      w.isKeyword = false ∧ w.isCall = false ∧ w.text = written short path := by
  rw [askedBy, mayBePath]
  cases w.isKeyword <;> cases w.isCall <;> simp [Root.pathOf_eq_some]

/-! ## The words of a query with a root -/

/-- The words of a query with a root. -/
structure Reading where
  /-- The words before `FROM`. -/
  before : List QueryWord
  /-- The word `FROM`. -/
  start : QueryWord
  entity : QueryWord
  /-- The words behind the entity. -/
  behind : List QueryWord

namespace Reading

def words (r : Reading) : List QueryWord := r.before ++ r.start :: r.entity :: r.behind

/-- The alias: the word behind the entity, if it is no keyword. -/
def shortName (r : Reading) : Option QueryWord := r.behind.head?.filter (!·.isKeyword)

/-- The words of the root: `FROM`, the entity and the alias. -/
def rootWords (r : Reading) : List QueryWord := r.start :: r.entity :: r.shortName.toList

/-- The words besides those of the root. -/
def others (r : Reading) : List QueryWord :=
  r.before ++ if r.shortName.isSome then r.behind.tail else r.behind

/-- The root, as the analyser keeps it. -/
def toRoot (r : Reading) : Root := ⟨r.before.length, r.entity, r.shortName⟩

/-- The words are those of the query, and `FROM` is the first of its kind. -/
structure Of (r : Reading) (query : String) : Prop where
  occurs : ∀ w, w ∈ r.words ↔ w.Occurs (utf8 query)
  increasing : r.words.Pairwise fun v w => v.stop < w.start
  first : ∀ w ∈ r.before, w.isWord "from" = false
  start : r.start.isWord "from" = true

variable {r : Reading}

theorem of_wordsOf {query : String} (hwords : QueryWord.wordsOf query = r.words)
    (hfirst : ∀ w ∈ r.before, w.isWord "from" = false) (hstart : r.start.isWord "from" = true) :
    r.Of query where
  occurs w := hwords ▸ QueryWord.mem_wordsOf_iff w
  increasing := hwords ▸ QueryWord.wordsOf_increasing query
  first := hfirst
  start := hstart

theorem nodup_of_increasing {ws : List QueryWord}
    (h : ws.Pairwise fun v w => v.stop < w.start) : ws.Nodup :=
  h.imp fun {v w} hlt hsame => by
    rw [hsame, QueryWord.stop] at hlt
    omega

/-- The analyser reads the same words. -/
theorem Of.wordsOf_eq {query : String} (h : r.Of query) : QueryWord.wordsOf query = r.words := by
  have hincreasing := QueryWord.wordsOf_increasing query
  have hperm : (QueryWord.wordsOf query).Perm r.words :=
    (List.perm_ext_iff_of_nodup (nodup_of_increasing hincreasing)
      (nodup_of_increasing h.increasing)).mpr fun w =>
      (QueryWord.mem_wordsOf_iff w).trans (h.occurs w).symm
  refine hperm.eq_of_pairwise (fun v w _ _ hvw hwv => ?_) hincreasing h.increasing
  rw [QueryWord.stop] at hvw hwv
  omega

theorem rootOf_words (hfirst : ∀ w ∈ r.before, w.isWord "from" = false)
    (hstart : r.start.isWord "from" = true) : rootOf r.words = .ok r.toRoot := by
  have hnone : r.before.findIdx? (·.isWord "from") = none := List.findIdx?_eq_none_iff.mpr hfirst
  have hfind : r.words.findIdx? (·.isWord "from") = some r.before.length := by
    rw [words, List.findIdx?_append, hnone, List.findIdx?_cons]
    simp [hstart]
  have hat : ∀ k, r.words[r.before.length + k]? = (r.start :: r.entity :: r.behind)[k]? :=
    fun k => by rw [words, List.getElem?_append_right (by omega), Nat.add_sub_cancel_left]
  unfold rootOf
  rw [hfind]
  dsimp only
  rw [hat, hat]
  simp [toRoot, shortName, List.head?_eq_getElem?]

/-- Where a query has no root, there is no `FROM`, or it is the last word. -/
theorem rootOf_cases (ws : List QueryWord) :
    (rootOf ws = .error .missingFrom ∧ ∀ w ∈ ws, w.isWord "from" = false) ∨
    (rootOf ws = .error .missingEntity ∧ ∃ before start, ws = before ++ [start] ∧
      (∀ w ∈ before, w.isWord "from" = false) ∧ start.isWord "from" = true) ∨
    ∃ r : Reading, ws = r.words ∧ (∀ w ∈ r.before, w.isWord "from" = false) ∧
      r.start.isWord "from" = true := by
  cases hfind : ws.findIdx? (·.isWord "from") with
  | none =>
    refine .inl ⟨by rw [rootOf, hfind], List.findIdx?_eq_none_iff.mp hfind⟩
  | some i =>
    obtain ⟨hlt, hstart, hfirst⟩ := List.findIdx?_eq_some_iff_getElem.mp hfind
    have hbefore : ∀ w ∈ ws.take i, w.isWord "from" = false := fun w hw => by
      obtain ⟨j, hj, rfl⟩ := List.getElem_of_mem hw
      rw [List.length_take] at hj
      rw [List.getElem_take]
      exact Bool.eq_false_iff.mpr (hfirst j (by omega))
    have hsplit : ws = ws.take i ++ ws[i] :: ws.drop (i + 1) := by
      rw [← List.drop_eq_getElem_cons hlt, List.take_append_drop]
    cases hdrop : ws.drop (i + 1) with
    | nil =>
      rw [hdrop] at hsplit
      refine .inr (.inl ⟨?_, _, _, hsplit, hbefore, hstart⟩)
      rw [rootOf, hfind]
      dsimp only
      rw [List.getElem?_eq_none (List.drop_eq_nil_iff.mp hdrop)]
    | cons entity behind =>
      rw [hdrop] at hsplit
      exact .inr (.inr ⟨⟨ws.take i, ws[i], entity, behind⟩, hsplit, hbefore, hstart⟩)

/-! ## Paths -/

/-- The words of the root stand between other words. -/
theorem words_split (r : Reading) : ∃ rest, r.words = r.before ++ (r.rootWords ++ rest) ∧
    r.others = r.before ++ rest := by
  cases hshort : r.shortName with
  | none => exact ⟨r.behind, by simp [words, rootWords, hshort], by simp [others, hshort]⟩
  | some short =>
    have hhead := (Option.filter_eq_some_iff.mp hshort).1
    obtain ⟨rest, hbehind⟩ := List.head?_eq_some_iff.mp hhead
    exact ⟨rest, by simp [words, rootWords, hshort, hbehind], by simp [others, hshort, hbehind]⟩

theorem lastPosition_toRoot (r : Reading) :
    r.toRoot.lastPosition + 1 = r.before.length + r.rootWords.length := by
  have hlast : r.toRoot.lastPosition = r.before.length + if r.shortName.isSome then 2 else 1 := rfl
  rw [hlast, rootWords]
  cases r.shortName <;> simp

/-- The words that may be paths are the others, in their order. -/
theorem candidates_words (r : Reading) :
    r.toRoot.candidates r.words = r.others.filter mayBePath := by
  obtain ⟨rest, hwords, hothers⟩ := r.words_split
  have hposition : r.toRoot.position = r.before.length := rfl
  have hlast := r.lastPosition_toRoot
  let q : Nat → Bool := fun i => !(r.toRoot.position ≤ i && i ≤ r.toRoot.lastPosition)
  have hbefore := filter_zipIdx mayBePath q true r.before 0 fun i _ hlt => by simp [q]; omega
  have hroot := filter_zipIdx mayBePath q false r.rootWords (0 + r.before.length)
    fun i hge hlt => by simp [q]; omega
  have hrest := filter_zipIdx mayBePath q true rest (0 + r.before.length + r.rootWords.length)
    fun i hge hlt => by simp [q]; omega
  rw [Root.candidates, hwords, hothers, List.zipIdx_append, List.zipIdx_append,
    List.filter_append, List.filter_append, List.map_append, List.map_append, List.filter_append]
  simp only [Bool.and_assoc]
  refine congrArg₂ _ hbefore ((congrArg₂ _ hroot hrest).trans ?_)
  simp

/-- The paths of a query, each with its word. -/
def paths (r : Reading) : List (QueryWord × String) :=
  r.others.filterMap fun w => (askedBy r.shortName w).map fun path => (w, path)

/-- They are what the analyser checks. -/
theorem checked_words (r : Reading) : ((r.toRoot.candidates r.words).filterMap fun w =>
    (r.toRoot.pathOf w).map fun path => (w, path)) = r.paths := by
  rw [candidates_words, List.filterMap_filter]
  refine List.filterMap_congr fun w _ => ?_
  rw [askedBy]
  split <;> rfl

/-- The word is a path on the root entity: it stands besides the root, is no keyword and no call,
and says what is written for the path. -/
structure AsksFor (r : Reading) (query : String) (w : QueryWord) (path : String) : Prop where
  occurs : w.Occurs (utf8 query)
  besides : w ≠ r.start ∧ w ≠ r.entity ∧ r.shortName ≠ some w
  notKeyword : w.isKeyword = false
  notCall : w.isCall = false
  text : w.text = written r.shortName path

variable {query : String}

/-- The other words are all words but those of the root. -/
theorem Of.mem_others_iff (h : r.Of query) {w : QueryWord} : w ∈ r.others ↔
    w.Occurs (utf8 query) ∧ w ≠ r.start ∧ w ≠ r.entity ∧ r.shortName ≠ some w := by
  obtain ⟨rest, hwords, hothers⟩ := r.words_split
  have hnodup := nodup_of_increasing h.increasing
  have hroot : w ∉ r.rootWords ↔ w ≠ r.start ∧ w ≠ r.entity ∧ r.shortName ≠ some w := by
    simp [rootWords]
  rw [← h.occurs, ← hroot, hwords, hothers]
  rw [hwords] at hnodup
  obtain ⟨-, hbehind, hbefore⟩ := List.nodup_append.mp hnodup
  obtain ⟨-, -, hrest⟩ := List.nodup_append.mp hbehind
  simp only [List.mem_append]
  constructor
  · rintro (hw | hw)
    · exact ⟨.inl hw, fun hw' => hbefore _ hw _ (List.mem_append_left _ hw') rfl⟩
    · exact ⟨.inr (.inr hw), fun hw' => hrest _ hw' _ hw rfl⟩
  · rintro ⟨hw | hw | hw, hnot⟩
    · exact .inl hw
    · exact absurd hw hnot
    · exact .inr hw

/-- The paths of a query are those that its words ask for. -/
theorem Of.mem_paths_iff (h : r.Of query) {w : QueryWord} {path : String} :
    (w, path) ∈ r.paths ↔ r.AsksFor query w path := by
  have hmem : (w, path) ∈ r.paths ↔ w ∈ r.others ∧ askedBy r.shortName w = some path := by
    simp [paths]
  rw [hmem, h.mem_others_iff, askedBy_eq_some]
  constructor
  · rintro ⟨⟨hoccurs, hbesides⟩, hkeyword, hcall, htext⟩
    exact ⟨hoccurs, hbesides, hkeyword, hcall, htext⟩
  · intro hw
    exact ⟨⟨hw.occurs, hw.besides⟩, hw.notKeyword, hw.notCall, hw.text⟩

/-- They come from left to right, each from a word of its own. -/
theorem Of.paths_increasing (h : r.Of query) :
    r.paths.Pairwise fun p q => p.1.stop < q.1.start := by
  obtain ⟨rest, hwords, hothers⟩ := r.words_split
  have hsub : r.others.Sublist r.words := by
    rw [hwords, hothers]
    exact (List.Sublist.refl _).append (List.sublist_append_right _ _)
  refine List.Pairwise.filterMap _ (fun v w hlt p hp q hq => ?_)
    (h.increasing.sublist hsub)
  obtain ⟨_, -, rfl⟩ := Option.map_eq_some_iff.mp hp
  obtain ⟨_, -, rfl⟩ := Option.map_eq_some_iff.mp hq
  exact hlt

end Reading

end RootEntity

end EntityQuery
