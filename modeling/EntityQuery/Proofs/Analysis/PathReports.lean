import Mathlib
import EntityQuery.Proofs.Analysis.RootReading
import EntityQuery.Proofs.Checker.Context
import EntityQuery.Proofs.Graph.Handles
/-!
# What is reported on a query

On any graph that clients leave, the analyser reports one error about the structure of a query, or
it asks for the paths of the query from left to right and reports those without a type. Every error
on a path is at its word, and a path that should have been asked for and has no error was found to
have a type.

Results:
* `checkPaths_inquiries`: what is asked for, and what is answered at the time.
* `Reading.analyse_gives_inquiries`: the findings on a query with a root.
* `analyse_reports`: the findings on a query.
-/
namespace EntityQuery

/-- The outcome of a sequence from the run of its first lookup. -/
theorem Gives.after {α β : Type} {x : GraphM α} {f : α → GraphM β} {g g₁ : Graph} {a : α}
    {post : β → Graph → Prop} (hrun : x g = .ok (a, g₁)) (h : Gives (f a) g₁ post) :
    Gives (x >>= f) g post := by
  rw [Gives, GraphM.bind_of_eq_ok hrun]
  exact h

namespace RootEntity

/-! ## Asking for paths -/

/-- A path that was asked for, with its word and the type that it was found to have. -/
structure Inquiry where
  word : QueryWord
  path : String
  type : Option PropertyType

/-- What an inquiry is about. -/
def Inquiry.subject (i : Inquiry) : QueryWord × String := (i.word, i.path)

/-- The paths are asked for on the entity one after the other; each lookup finds the graph that the
lookups before it have left. -/
inductive Asked (m : TypeModel) (fallback : Bool) (entity : String) :
    Graph → List Inquiry → Graph → Prop
  | nil (g : Graph) : Asked m fallback entity g [] g
  | cons {i : Inquiry} {is : List Inquiry} {g g₁ g' : Graph}
    (hfirst : propertyTypeByName m fallback entity i.path g = .ok (i.type, g₁))
    (hrest : Asked m fallback entity g₁ is g') : Asked m fallback entity g (i :: is) g'

/-- The errors on the paths that were found to have no type. -/
def unresolved (entity : String) (is : List Inquiry) : List Finding :=
  (is.filter (·.type.isNone)).map fun i => missing entity i.subject

section
variable {m : TypeModel} (hm : m.Accepted) (fallback : Bool) {g : Graph} (hg : g.Consistent m)
include hm hg

theorem checkPaths_inquiries (entity : String) (paths : List (QueryWord × String)) :
    Gives (checkPaths (lookupIn m fallback) entity paths) g fun findings g' =>
      ∃ is, Asked m fallback entity g is g' ∧ is.map Inquiry.subject = paths ∧
        findings = unresolved entity is := by
  induction paths generalizing g with
  | nil => exact Gives.pure ⟨[], .nil g, rfl, rfl⟩
  | cons p rest ih =>
    obtain ⟨a, g₁, hfirst, hg₁, -⟩ := propertyTypeByName_gives hm fallback hg entity p.2
    refine Gives.after hfirst (Gives.bind (ih hg₁) fun later g' ⟨is, hrest, hpaths, hlater⟩ =>
      Gives.pure ⟨⟨p.1, p.2, a⟩ :: is, .cons hfirst hrest, ?_, ?_⟩)
    · rw [List.map_cons, hpaths]
      rfl
    · rw [hlater]
      cases a <;> rfl

/-- The findings on a query with a root: the entity is asked for, and then the paths on it, unless
there is a join. -/
theorem Reading.analyse_gives_inquiries {r : Reading} {query : String} (h : r.Of query) :
    ∃ e? g₁, entityByName m r.entity.text g = .ok (e?, g₁) ∧
      Gives (analyse (lookupIn m fallback) query) g fun findings g' =>
        match e? with
        | none => g' = g₁ ∧ findings =
          [.error r.entity.range ("`" ++ r.entity.text ++ "` is not a mapped entity")]
        | some e => ∃ is, Asked m fallback e.name g₁ is g' ∧
          is.map Inquiry.subject = (if r.words.any (·.isWord "join") then [] else r.paths) ∧
          findings = unresolved e.name is := by
  obtain ⟨e?, g₁, hentity, hg₁, -⟩ := entityByName_gives hm hg r.entity.text
  refine ⟨e?, g₁, hentity, ?_⟩
  unfold analyse
  simp only [h.wordsOf_eq, rootOf_words h.first h.start]
  refine Gives.after hentity ?_
  cases e? with
  | none => exact Gives.pure ⟨rfl, rfl⟩
  | some e =>
    dsimp only
    split
    · exact Gives.pure ⟨[], .nil _, rfl, rfl⟩
    · rw [checked_words]
      exact checkPaths_inquiries hm fallback hg₁ e.name r.paths

end

/-! ## Reports -/

/-- The inquiries are those of the query: from left to right, for every path that a word asks for,
unless some word is a join. -/
structure Reading.Inquires (r : Reading) (query : String) (is : List Inquiry) : Prop where
  increasing : is.Pairwise fun i j => i.word.stop < j.word.start
  asked : ∀ i ∈ is, r.AsksFor query i.word i.path
  complete : (∀ w : QueryWord, w.Occurs (utf8 query) → w.isWord "join" = false) →
    ∀ w path, r.AsksFor query w path → ∃ i ∈ is, i.word = w ∧ i.path = path
  noneWithJoin : ∀ w : QueryWord, w.Occurs (utf8 query) → w.isWord "join" = true → is = []

/-- The error on an inquiry, at its word. -/
def Inquiry.finding (entity : String) (i : Inquiry) : Finding :=
  .error ⟨i.word.start, i.word.stop⟩ (entity ++ " has no mapped " ++ i.path)

/-- What is reported on a query in a graph, and the graph behind. -/
inductive Report (m : TypeModel) (fallback : Bool) (query : String) (g : Graph) :
    List Finding → Graph → Prop
  /-- No word is `FROM`. -/
  | missingFrom (hno : ∀ w : QueryWord, w.Occurs (utf8 query) → w.isWord "from" = false) :
    Report m fallback query g
      [.error ⟨0, byteLength query⟩ "query has no FROM clause"] g
  /-- The only `FROM` is the last word. -/
  | missingEntity {start : QueryWord} (hstart : start.Occurs (utf8 query))
    (hfrom : start.isWord "from" = true)
    (hlast : ∀ w, w.Occurs (utf8 query) → w ≠ start →
      w.isWord "from" = false ∧ w.stop < start.start) :
    Report m fallback query g
      [.error ⟨byteLength query, byteLength query⟩ "expected an entity after FROM"] g
  /-- The word behind `FROM` names no entity. -/
  | unmapped {r : Reading} {g' : Graph} (hr : r.Of query)
    (hentity : entityByName m r.entity.text g = .ok (none, g')) :
    Report m fallback query g [.error ⟨r.entity.start, r.entity.stop⟩
      ("`" ++ r.entity.text ++ "` is not a mapped entity")] g'
  /-- The paths on the entity were asked for; each that had no type then is an error. -/
  | paths {r : Reading} {e : Entity} {is : List Inquiry} {g₁ g' : Graph} (hr : r.Of query)
    (hentity : entityByName m r.entity.text g = .ok (some e, g₁))
    (hasked : Asked m fallback e.name g₁ is g') (hinquires : r.Inquires query is) :
    Report m fallback query g ((is.filter (·.type.isNone)).map (Inquiry.finding e.name)) g'

/-- What was asked for is what a query without joins asks for. -/
theorem Reading.Of.inquires {r : Reading} {query : String} (h : r.Of query) {is : List Inquiry}
    (his : is.map Inquiry.subject = if r.words.any (·.isWord "join") then [] else r.paths) :
    r.Inquires query is := by
  cases hjoin : r.words.any (·.isWord "join") with
  | true =>
    rw [hjoin, if_pos rfl, List.map_eq_nil_iff] at his
    subst his
    obtain ⟨v, hv, hword⟩ := List.any_eq_true.mp hjoin
    refine ⟨.nil, nofun, fun hno => ?_, fun _ _ _ => rfl⟩
    exact absurd (hno v ((h.occurs v).mp hv)) (by rw [hword]; exact Bool.true_eq_false_eq_False)
  | false =>
    rw [hjoin, if_neg Bool.false_ne_true] at his
    have hmem : ∀ w path, (∃ i ∈ is, i.subject = (w, path)) ↔ r.AsksFor query w path := by
      intro w path
      rw [← h.mem_paths_iff, ← his, List.mem_map]
    refine ⟨?_, fun i hi => (hmem _ _).mp ⟨i, hi, rfl⟩, fun _ w path hw => ?_, fun w hw hword => ?_⟩
    · have hincreasing := h.paths_increasing
      rw [← his] at hincreasing
      exact List.pairwise_map.mp hincreasing
    · obtain ⟨i, hi, hsubject⟩ := (hmem w path).mpr hw
      exact ⟨i, hi, congrArg Prod.fst hsubject, congrArg Prod.snd hsubject⟩
    · have hnone := List.any_eq_false.mp hjoin w ((h.occurs w).mpr hw)
      exact absurd hword hnone

section
variable {m : TypeModel} (hm : m.Accepted) (fallback : Bool) {g : Graph} (hg : g.Consistent m)
include hm hg

theorem analyse_gives_report (query : String) :
    Gives (analyse (lookupIn m fallback) query) g (Report m fallback query g) := by
  rcases Reading.rootOf_cases (QueryWord.wordsOf query) with
    ⟨hroot, hno⟩ | ⟨hroot, before, start, hwords, hfirst, hstart⟩ | ⟨r, hwords, hfirst, hstart⟩
  · unfold analyse
    simp only [hroot]
    exact Gives.pure <| .missingFrom fun w hw => hno w ((QueryWord.mem_wordsOf_iff w).mpr hw)
  · unfold analyse
    simp only [hroot]
    refine Gives.pure ?_
    have hincreasing := QueryWord.wordsOf_increasing query
    rw [hwords] at hincreasing
    have hoccurs : ∀ w, w ∈ before ++ [start] ↔ w.Occurs (utf8 query) :=
      fun w => hwords ▸ QueryWord.mem_wordsOf_iff w
    refine .missingEntity ((hoccurs start).mp (by simp)) hstart fun w hw hne => ?_
    have hw : w ∈ before := by simpa [hne] using (hoccurs w).mpr hw
    exact ⟨hfirst w hw, (List.pairwise_append.mp hincreasing).2.2 w hw start (by simp)⟩
  · have hr := Reading.of_wordsOf hwords hfirst hstart
    obtain ⟨e?, g₁, hentity, hgives⟩ := Reading.analyse_gives_inquiries hm fallback hg hr
    refine hgives.mono fun findings g' hpost => ?_
    cases e? with
    | none =>
      obtain ⟨rfl, rfl⟩ := hpost
      exact .unmapped hr hentity
    | some e =>
      obtain ⟨is, hasked, his, rfl⟩ := hpost
      exact .paths hr hentity hasked (hr.inquires his)

end

/-- Errors come from left to right, and something stands between them. -/
theorem Report.apart {m : TypeModel} {fallback : Bool} {query : String} {g g' : Graph}
    {findings : List Finding} (h : Report m fallback query g findings g') :
    findings.Pairwise fun f f' => f.range.stop < f'.range.start := by
  cases h with
  | missingFrom | missingEntity | unmapped => exact List.pairwise_singleton _ _
  | paths _ _ _ hinquires =>
    exact List.pairwise_map.mpr (hinquires.increasing.sublist List.filter_sublist)

/-- On any graph that clients leave, the analyser reports one error about the structure of a query,
or the paths that had no type when they were asked for, which are all paths on the root entity
unless there is a join. Errors are in the query, at positions that fit, from left to right and apart
from each other. -/
theorem analyse_reports {ds : List Declaration} {m : Declared} (hbuild : Declared.build ds = .ok m)
    {steps : List Step} (hfair : Step.Fair m.toModel steps [] Graph.empty)
    {replies : List Reply} {g : Graph}
    (hrun : Step.runAll m.toModel steps Graph.empty = .ok (replies, g)) (fallback : Bool)
    {query : String} (hlen : byteLength query < 2 ^ 32) :
    ∃ findings g', analyse (lookupIn m.toModel fallback) query g = .ok (findings, g') ∧
      Report m.toModel fallback query g findings g' ∧
      findings.Pairwise (fun f f' => f.range.stop < f'.range.start) ∧
      ∀ f ∈ findings, f.range.start ≤ f.range.stop ∧ f.range.stop ≤ byteLength query ∧
        f.range.Fits := by
  have hm := Declared.build_accepted hbuild
  have hg : g.Consistent m.toModel := (Step.runAll_gives hm (Graph.empty_consistent m.toModel)
    (Graph.numbers_nil _) hfair).of_eq_ok hrun
  obtain ⟨findings, g', hanalyse, hreport⟩ := analyse_gives_report hm fallback hg query
  refine ⟨findings, g', hanalyse, hreport, hreport.apart, fun f hf => ?_⟩
  have hwithin := analyse_within hanalyse hf
  exact ⟨hwithin.order, hwithin.stop, hwithin.fits (Nat.le_of_lt_succ hlen)⟩

/-- A state of the graph, and a query with paths before and behind its root, a keyword, a call, a
placeholder and a text in quotes. -/
theorem analyse_reports_staff : Declared.build staff = .ok staffModel ∧
    Step.Fair staffModel.toModel [⟨.entityByName "Employee", false⟩] [] Graph.empty ∧
    byteLength "SELECT p.age FROM Person p WHERE p.name = 'p.x' OR p.f(p.boss.number) = :p.y" <
      2 ^ 32 ∧
    ∃ replies g,
      Step.runAll staffModel.toModel [⟨.entityByName "Employee", false⟩] Graph.empty =
        .ok (replies, g) ∧
      ∃ findings g', analyse (lookupIn staffModel.toModel true)
        "SELECT p.age FROM Person p WHERE p.name = 'p.x' OR p.f(p.boss.number) = :p.y" g =
          .ok (findings, g') ∧
        Report staffModel.toModel true
          "SELECT p.age FROM Person p WHERE p.name = 'p.x' OR p.f(p.boss.number) = :p.y" g
          findings g' ∧
        findings.Pairwise (fun f f' => f.range.stop < f'.range.start) ∧
        ∀ f ∈ findings, f.range.start ≤ f.range.stop ∧ f.range.stop ≤ byteLength
          "SELECT p.age FROM Person p WHERE p.name = 'p.x' OR p.f(p.boss.number) = :p.y" ∧
          f.range.Fits := by
  have hfair : Step.Fair staffModel.toModel [⟨.entityByName "Employee", false⟩] [] Graph.empty := by
    decide +kernel
  have hlen : byteLength
      "SELECT p.age FROM Person p WHERE p.name = 'p.x' OR p.f(p.boss.number) = :p.y" < 2 ^ 32 := by
    decide +kernel
  obtain ⟨replies, g, hrun, -⟩ := Step.runAll_gives (Declared.build_accepted build_staff)
    (Graph.empty_consistent staffModel.toModel) (Graph.numbers_nil _) hfair
  exact ⟨build_staff, hfair, hlen, replies, g, hrun,
    analyse_reports build_staff hfair hrun true hlen⟩

/-- Without employees there is no number, either. -/
example : (analyse (lookupIn staffModel.toModel true)
    "SELECT p.age FROM Person p WHERE p.name = 'p.x' OR p.f(p.boss.number) = :p.y"
    Graph.empty).map Prod.fst = .ok [.error ⟨7, 12⟩ "Person has no mapped age",
      .error ⟨55, 68⟩ "Person has no mapped boss.number"] := by decide +kernel

end RootEntity

end EntityQuery
