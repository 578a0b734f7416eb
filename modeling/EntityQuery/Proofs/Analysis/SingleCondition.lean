import Mathlib
import EntityQuery.Proofs.Analysis.RootReading
import EntityQuery.Proofs.Graph.Outcome
import EntityQuery.Proofs.Query.Placeholders
/-!
# The analyser on one condition

On a generated query with one condition the analyser asks for the entity behind `FROM` and for one
path, the condition's; a path without a type is the only finding, at the place of the path.

Results:
* `rootOf_eq`, `candidates_eq`: the root of such a query, and its only path.
* `analyse_single`: what the analyser finds.
-/
namespace EntityQuery

namespace RootEntity

section
variable {before : List QueryWord} {w₁ w₂ w₃ w₄ : QueryWord}

theorem rootOf_eq (hbefore : ∀ w ∈ before, w.isWord "from" = false)
    (h₁ : w₁.isWord "from" = true) (h₃ : w₃.isKeyword = true) :
    rootOf (before ++ [w₁, w₂, w₃, w₄]) = .ok ⟨before.length, w₂, none⟩ := by
  have hroot := Reading.rootOf_words (r := ⟨before, w₁, w₂, [w₃, w₄]⟩) hbefore h₁
  have hshort : Reading.shortName ⟨before, w₁, w₂, [w₃, w₄]⟩ = none := by
    simp [Reading.shortName, h₃]
  rwa [Reading.toRoot, hshort] at hroot

theorem candidates_eq (hbefore : ∀ w ∈ before, w.isKeyword = true) (h₃ : w₃.isKeyword = true)
    (h₄ : w₄.isKeyword = false) (hcall : w₄.isCall = false) :
    (Root.mk before.length w₂ none).candidates (before ++ [w₁, w₂, w₃, w₄]) = [w₄] := by
  have hcandidates := Reading.candidates_words ⟨before, w₁, w₂, [w₃, w₄]⟩
  have hshort : Reading.shortName ⟨before, w₁, w₂, [w₃, w₄]⟩ = none := by
    simp [Reading.shortName, h₃]
  have hnone : before.filter mayBePath = [] := List.filter_eq_nil_iff.mpr fun w hw => by
    simp [mayBePath, hbefore w hw]
  rw [Reading.toRoot, Reading.others, hshort] at hcandidates
  refine hcandidates.trans ?_
  simp [hnone, mayBePath, h₃, h₄, hcall]

end

/-- The analyser asks for the entity, then for the path of the condition on the entity so found. -/
theorem analyse_single {n p : String} (hn : QueryWord.IsName n) (hp : QueryWord.IsName p)
    (count : Bool) (lookup : Lookup) {g g₁ g₂ : Graph} {e : Entity} {answer : Option PropertyType}
    (hentity : lookup.entity n g = .ok (some e, g₁))
    (hpath : lookup.propertyType e.name p g₁ = .ok (answer, g₂)) :
    analyse lookup (QueryWord.singleQuery count n p) g =
      .ok (if answer.isSome then [] else
        [.error (QueryWord.range ⟨p, byteLength (QueryWord.singleStart count n), false⟩)
          (e.name ++ " has no mapped " ++ p)], g₂) := by
  obtain ⟨before, w₁, w₂, w₃, hwords, h₁, h₂, h₃, hbefore⟩ := QueryWord.wordsOf_single hn hp count
  have hword : ∀ {w : QueryWord} {k : String}, QueryWord.IsName w.text →
      k ∈ QueryWord.keywords → w.isWord k = false := fun hw hk => hw.notKeyword _ hk
  have hisWord : ∀ {w : QueryWord} {s : String} (k : String), w.text = s →
      w.isWord k = Text.sameIgnoringCase k.toList s.toList := fun k h => by rw [← h]; rfl
  -- the entity and the path are no keywords, and the keywords of the query are not `JOIN`
  have hjoin : (before ++ [w₁, w₂, w₃, ⟨p, byteLength (QueryWord.singleStart count n),
      false⟩]).any (·.isWord "join") = false := by
    rw [List.any_append, List.any_eq_false.mpr fun w hw => by simp [(hbefore w hw).2.2]]
    simp only [List.any_cons, List.any_nil, hisWord "join" h₁, hisWord "join" h₃,
      hword (h₂ ▸ hn) (show "join" ∈ QueryWord.keywords by decide)]
    simp [hword (w := ⟨p, _, false⟩) hp (show "join" ∈ QueryWord.keywords by decide)]
    decide
  have hfrom : w₁.isWord "from" = true := by rw [hisWord _ h₁]; decide
  have hwhere : w₃.isKeyword = true :=
    List.any_eq_true.mpr ⟨"where", by decide, by rw [hisWord _ h₃]; decide⟩
  have hnot : ∀ start, (QueryWord.mk p start false).isKeyword = false := fun start =>
    List.any_eq_false.mpr fun k hk => by simp [hword (w := ⟨p, start, false⟩) hp hk]
  unfold analyse
  simp only [hwords, rootOf_eq (fun w hw => (hbefore w hw).2.1) hfrom hwhere]
  unfold analyseRoot
  rw [h₂, GraphM.bind_of_eq_ok hentity]
  simp only [hjoin, candidates_eq (fun w hw => (hbefore w hw).1) hwhere (hnot _) rfl,
    Bool.false_eq_true, if_false]
  change (lookup.propertyType e.name p >>= _ : GraphM (List Finding)) g₁ = _
  rw [GraphM.bind_of_eq_ok hpath]
  rfl

end RootEntity

end EntityQuery
