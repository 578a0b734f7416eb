import Mathlib
import EntityQuery.Proofs.Analysis.Words
import EntityQuery.Query.Bindings
/-!
# Placeholders of generated queries

Only quotes, colons and question marks matter to the scan for placeholders. A generated query with
one condition has one placeholder, and a site that binds this one has nothing to report.

Results:
* `scanFrom_plain`: other characters are passed over.
* `scan_behind`: a name or the first number behind other text is the only placeholder.
* `scan_single`: the placeholder of a query with one condition.
* `check_eq_of_scan`: bindings that are the placeholders of the query are not reported.
-/
namespace EntityQuery

namespace Placeholder

/-- Whether a character starts no placeholder and no quotation. -/
def isPlain (c : Char) : Bool := c != '\'' && c != ':' && c != '?'

theorem isPlain_of_isWordChar {c : Char} (h : Text.isWordChar c = true) : isPlain c = true := by
  have hquote : c ≠ '\'' := QueryWord.ne_of_isWordChar h (by decide)
  have hcolon : c ≠ ':' := QueryWord.ne_of_isWordChar h (by decide)
  have hmark : c ≠ '?' := QueryWord.ne_of_isWordChar h (by decide)
  simp [isPlain, hquote, hcolon, hmark]

theorem all_isPlain_of_isWordChar {cs : List Char} (h : ∀ c ∈ cs, Text.isWordChar c = true) :
    cs.all isPlain = true :=
  List.all_eq_true.mpr fun c hc => isPlain_of_isWordChar (h c hc)

theorem scanFrom_plain {cs : List Char} (hcs : cs.all isPlain = true) (pos : Nat) (quoted : Bool)
    (rest : List Char) : scanFrom pos quoted (cs ++ rest) =
      scanFrom (pos + Text.byteLength cs) quoted rest := by
  induction cs generalizing pos with
  | nil => rfl
  | cons c cs ih =>
    rw [List.all_cons, Bool.and_eq_true] at hcs
    have hc := hcs.1
    simp only [isPlain, Bool.and_eq_true, bne_iff_ne] at hc
    rw [Text.byteLength_cons, ← Nat.add_assoc, ← ih hcs.2]
    simp [scanFrom, hc]

/-! ## A placeholder at the end -/

/-- A letter or underscore with letters, digits and underscores behind it. -/
def IsIdentifier (name : String) : Prop :=
  ∃ c rest, name.toList = c :: rest ∧ Text.isIdentStart c = true ∧
    ∀ d ∈ rest, Text.isIdentChar d = true

/-- The text of the placeholder is read as the placeholder, wherever it stands. -/
def IsReadBack (p : Placeholder) : Prop :=
  ∀ pos, scanFrom pos false p.text.toList = [(p, rangeAt pos (byteLength p.text))]

theorem isReadBack_first : IsReadBack (.positional 1) := fun _ => rfl

theorem isPlain_of_isIdentChar {c : Char} (h : Text.isIdentChar c = true) : isPlain c = true := by
  refine isPlain_of_isWordChar ?_
  unfold Text.isIdentChar at h
  rw [Text.isWordChar, h, Bool.true_or]

/-- No character of a name starts another placeholder. -/
theorem isReadBack_named {name : String} (h : IsIdentifier name) : IsReadBack (.named name) := by
  obtain ⟨c, rest, hname, hc, hrest⟩ := h
  have hchar : Text.isIdentChar c = true := by
    simp only [Text.isIdentStart, Bool.or_eq_true] at hc
    simp only [Text.isIdentChar, Char.isAlphanum, Bool.or_eq_true]
    tauto
  have hall : ∀ d ∈ c :: rest, Text.isIdentChar d = true := by
    simpa [hchar] using hrest
  have hcolon : c ≠ ':' := by
    rintro rfl
    exact absurd hchar (by decide)
  have htake : (c :: rest).takeWhile Text.isIdentChar = c :: rest :=
    List.takeWhile_eq_self_iff.mpr hall
  have htext : (text (.named name)).toList = ':' :: c :: rest := by
    rw [text, String.toList_append, hname]
    rfl
  intro pos
  have hnone : scanFrom (pos + 1) false (c :: rest) = [] := by
    have hplain : (c :: rest).all isPlain = true :=
      List.all_eq_true.mpr fun d hd => isPlain_of_isIdentChar (hall d hd)
    have h := scanFrom_plain hplain (pos + 1) false []
    rw [List.append_nil] at h
    rw [h]
    rfl
  have hlen : byteLength (text (.named name)) = 1 + Text.byteLength (c :: rest) := by
    rw [byteLength, htext, Text.byteLength_cons]
    rfl
  have hat : namedAt? pos (c :: rest) =
      some (.named name, rangeAt pos (1 + Text.byteLength (c :: rest))) := by
    have hofList : String.ofList (c :: rest) = name := by rw [← hname, String.ofList_toList]
    simp [namedAt?, hc, htake, hofList]
  rw [htext, hlen, scanFrom]
  · simp [hat, hnone]
  · intro more hmore
    exact hcolon (List.cons.inj hmore).1

/-- Behind a text without quotes and placeholders stands one placeholder. -/
theorem scan_behind {start : String} (hstart : start.toList.all isPlain = true) {p : Placeholder}
    (hp : IsReadBack p) :
    scan (start ++ p.text) = [(p, rangeAt (byteLength start) (byteLength p.text))] := by
  rw [scan, String.toList_append, scanFrom_plain hstart, Nat.zero_add, hp]
  rfl

theorem all_isPlain_of_isRun {s : String} (h : QueryWord.IsRun s) : s.toList.all isPlain = true :=
  all_isPlain_of_isWordChar h.isWordChar

/-- A generated query up to what its condition compares with. -/
theorem all_isPlain_single {n p : String} (hn : QueryWord.IsRun n) (hp : QueryWord.IsRun p)
    (count : Bool) :
    (QueryWord.singleStart count n ++ p ++ " = ").toList.all isPlain = true := by
  have hcount : (if count then "SELECT COUNT(*) " else "").toList.all isPlain = true := by
    cases count <;> decide
  simp only [QueryWord.singleStart, String.toList_append, List.all_append, Bool.and_eq_true,
    all_isPlain_of_isRun hn, all_isPlain_of_isRun hp, hcount]
  decide

theorem scan_single {n p : String} (hn : QueryWord.IsName n) (hp : QueryWord.IsName p)
    (count : Bool) : ∃ k, scan (QueryWord.singleQuery count n p) =
      [(.positional 1, rangeAt k 2)] := by
  have htext : QueryWord.singleQuery count n p =
      QueryWord.singleStart count n ++ p ++ " = " ++ text (.positional 1) := by
    rw [String.append_assoc]
    rfl
  exact ⟨_, htext ▸ scan_behind (all_isPlain_single hn.isRun hp.isRun count) isReadBack_first⟩

end Placeholder

/-- Where every placeholder is bound and every binding used, nothing is reported. -/
theorem Bindings.check_eq_of_scan {b : Bindings} {query : String}
    (h : ∀ p, p ∈ (Placeholder.scan query).map (·.1) ↔ p ∈ b.toList) (ds : Diagnostics) :
    (b.check query ds).2 = ds := by
  have hunbound : b.unbound query = [] := by
    refine List.filter_eq_nil_iff.mpr fun p hp => ?_
    have hc := (b.contains_iff p.1).mpr ((h p.1).mp (List.mem_map_of_mem hp))
    simp [hc]
  have hunused : b.unused query = [] := by
    refine List.filter_eq_nil_iff.mpr fun p hp => ?_
    simpa using (h p).mpr hp
  simp [Bindings.check, unboundWarning?, unusedWarning?, hunbound, hunused]

end EntityQuery
