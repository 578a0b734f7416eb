import Mathlib
import EntityQuery.Proofs.Query.Placeholders
import EntityQuery.Proofs.Shorthand.SingleName
/-!
# Calls with one binding

The expander writes the placeholder that the only binding of a call is compared with, and the check
of the bindings reads the text again. Both agree on a name and on the first number. With another
number the expansion still compares with the first, so the check misses a value for that one and
finds no use for the number that is bound.

Results:
* `check_expanded`: what the check of the bindings has to say on an expanded call.
* `check_expanded_second`: a single binding that is reported.
-/
namespace EntityQuery

namespace Placeholder

/-- What a single binding is compared with in a generated query. -/
def asCompared : Placeholder → Placeholder
  | .positional _ => .positional 1
  | .named name => .named name

theorem comparedWith_eq (b : Placeholder) : Expansion.comparedWith b = b.asCompared.text := by
  cases b <;> rfl

theorem asCompared_eq {b : Placeholder} (h : ∀ label, b = .positional label → label = 1) :
    b.asCompared = b := by
  cases b with
  | named name => rfl
  | positional label =>
    have hlabel := h label rfl
    subst hlabel
    rfl

theorem isReadBack_asCompared {b : Placeholder} (h : ∀ name, b = .named name → IsIdentifier name) :
    IsReadBack b.asCompared := by
  cases b with
  | named name => exact isReadBack_named (h name rfl)
  | positional label => exact isReadBack_first

end Placeholder

namespace Bindings

/-- The warnings on a query with the first number as its only placeholder, at `range`, where another
number is bound. -/
theorem check_first {b : Bindings} {query : String} {range : TextRange} {label : Nat}
    (hscan : Placeholder.scan query = [(.positional 1, range)])
    (hb : b.toList = [.positional label]) (hlabel : label ≠ 1) (found : Diagnostics) :
    (b.check query found).2 = found ++
      [.report .unboundParameters range (some "Missing value for parameter ?1"),
       .report .unusedParameters (.upTo query)
        (some ("Parameter ?" ++ toString label ++ " does not occur in the query"))] := by
  have hnot : b.contains (.positional 1) = false := by
    rw [Bool.eq_false_iff, ne_eq, b.contains_iff, hb]
    simpa using hlabel.symm
  have hunbound : b.unbound query = [(.positional 1, range)] := by
    simp [unbound, hscan, hnot]
  have hunused : b.unused query = [.positional label] := by
    simp [unused, hscan, hb, hlabel]
  have hwarning : b.unboundWarning? query =
      some (.report .unboundParameters range (some "Missing value for parameter ?1")) := by
    rw [unboundWarning?, hunbound]
    rfl
  have htext : Placeholder.text (.positional label) = "?" ++ toString label := rfl
  rw [check, hwarning, unusedWarning?, hunused]
  simp only [htext, Option.toList_some, List.append_assoc, List.cons_append, List.nil_append,
    String.append_assoc]
  rfl

end Bindings

/-- A supported call on a word, with another word for a filter, one binding and no sort chain, has
an expansion. The check of its bindings adds nothing where the binding is a name or the first
number; with any other number it misses a value for the first, at the end of the query, and finds
no use for the number. -/
theorem check_expanded (call : ShorthandCall) {p : String} {b : Placeholder}
    (hverb : call.verb.isSupported = true) (hentity : QueryWord.IsRun call.entity)
    (hfilter : call.filter = some p) (hp : QueryWord.IsRun p)
    (hbindings : call.bindings.toList = [b])
    (hname : ∀ name, b = .named name → Placeholder.IsIdentifier name) (hsort : call.sort = [])
    (ds found : Diagnostics) :
    ∃ e, expand call ds = (some e, ds) ∧
      ((∀ label, b = .positional label → label = 1) →
        (call.bindings.check e.text found).2 = found) ∧
      ∀ label, b = .positional label → label ≠ 1 →
        (call.bindings.check e.text found).2 = found ++
          [.report .unboundParameters
            (Placeholder.rangeAt
              (byteLength (Expansion.fromClause call ++ " WHERE " ++ p ++ " = ")) 2)
            (some "Missing value for parameter ?1"),
           .report .unusedParameters (.upTo e.text)
            (some ("Parameter ?" ++ toString label ++ " does not occur in the query"))] := by
  have hof := Expansion.ofCall_run call hp hverb hfilter hbindings hsort
  generalize he : Expansion.around (Expansion.fromClause call ++ " WHERE ") p
    (" = " ++ Expansion.comparedWith b) = e at hof
  have htext : e.text =
      Expansion.fromClause call ++ " WHERE " ++ p ++ " = " ++ b.asCompared.text := by
    rw [← he, Placeholder.comparedWith_eq]
    exact String.append_assoc.symm
  have hscan : Placeholder.scan e.text =
      [(b.asCompared, Placeholder.rangeAt
        (byteLength (Expansion.fromClause call ++ " WHERE " ++ p ++ " = "))
        (byteLength b.asCompared.text))] := by
    rw [htext]
    exact Placeholder.scan_behind (Placeholder.all_isPlain_single hentity hp call.verb.isCount)
      (Placeholder.isReadBack_asCompared hname)
  refine ⟨e, by rw [expand, hof], fun hfirst => ?_, fun label hlabel hne => ?_⟩
  · have hsame : b.asCompared = b := Placeholder.asCompared_eq hfirst
    refine Bindings.check_eq_of_scan (fun q => ?_) found
    rw [hscan, hbindings, hsame]
    rfl
  · subst hlabel
    have hlen : byteLength (Placeholder.positional label).asCompared.text = 2 :=
      show byteLength (Placeholder.positional 1).text = 2 by decide
    rw [hlen] at hscan
    exact Bindings.check_first hscan hbindings hne found

/-- A call with one binding. -/
def ShorthandCall.comparing (verb : Verb) (entity filter : String) (bindings : Bindings) :
    ShorthandCall :=
  ⟨verb, entity, some filter, bindings, []⟩

theorem check_expanded_names :
    (∃ e, expand (.comparing .count "Person" "address.city" (.ofNames ["city"])) [] =
        (some e, []) ∧ ((Bindings.ofNames ["city"]).check e.text []).2 = []) ∧
    ∃ e, expand (.comparing .find "Person" "name" ⟨.empty, .ofList [2]⟩) [] = (some e, []) ∧
      ((Bindings.mk .empty (.ofList [2])).check e.text []).2 =
        [.report .unboundParameters ⟨25, 27⟩ (some "Missing value for parameter ?1"),
         .report .unusedParameters (.upTo e.text)
          (some "Parameter ?2 does not occur in the query")] := by
  have hperson := QueryWord.isRun_of_all (s := "Person") (by decide) rfl
  constructor
  · obtain ⟨e, he, h, -⟩ := check_expanded
      (.comparing .count "Person" "address.city" (.ofNames ["city"])) (b := .named "city")
      rfl hperson rfl (QueryWord.isRun_of_all (by decide) rfl) rfl
      (fun name hname =>
        ⟨'c', ['i', 't', 'y'], by cases hname; rfl, rfl, List.all_eq_true.mp rfl⟩) rfl [] []
    exact ⟨e, he, h fun label hlabel => by cases hlabel⟩
  · obtain ⟨e, he, -, h⟩ := check_expanded
      (.comparing .find "Person" "name" ⟨.empty, .ofList [2]⟩) (b := .positional 2)
      rfl hperson rfl (QueryWord.isRun_of_all (by decide) rfl) rfl
      (fun name hname => by cases hname) rfl [] []
    exact ⟨e, he, h 2 rfl (by decide)⟩

/-- The only binding of a call is not always found in its expansion: the placeholder there does not
take over the number. -/
theorem check_expanded_second :
    ¬ ∀ (call : ShorthandCall) (p : String) (b : Placeholder),
      call.verb.isSupported = true → QueryWord.IsRun call.entity → call.filter = some p →
      QueryWord.IsRun p → call.bindings.toList = [b] →
      (∀ name, b = .named name → Placeholder.IsIdentifier name) → call.sort = [] →
      ∃ e, expand call [] = (some e, []) ∧ (call.bindings.check e.text []).2 = [] := by
  intro h
  obtain ⟨e, he, hcheck⟩ := h (.comparing .find "Person" "name" ⟨.empty, .ofList [2]⟩) "name"
    (.positional 2) rfl (QueryWord.isRun_of_all (by decide) rfl) rfl
    (QueryWord.isRun_of_all (by decide) rfl) rfl (fun name hname => by cases hname) rfl
  have hexpand : expand (.comparing .find "Person" "name" ⟨.empty, .ofList [2]⟩) [] =
      (some ⟨"FROM Person WHERE name = ?1", 18⟩, []) := rfl
  cases hexpand.symm.trans he
  exact absurd hcheck (by decide +kernel)

end EntityQuery
