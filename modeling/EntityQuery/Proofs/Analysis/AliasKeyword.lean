import Mathlib
import EntityQuery.Proofs.Analysis.PathReports
import EntityQuery.Proofs.Analysis.Words
import EntityQuery.Proofs.Shorthand.SingleName
/-!
# A keyword before an alias

`AS` is a keyword, and what stands behind the entity is an alias only if it is none. So a query with
`AS` before its alias is read as one without an alias, whose paths are the name that should have
been the alias and all words behind it.

Results:
* `analyse_gives_messages`: the messages on a query, from what its words say.
* `Messages.unique`: on a graph there is one answer.
* `analyse_as`: a query with `AS` and the query without it.
-/
namespace EntityQuery

/-! ## The words of the two queries -/

namespace QueryWord

/-- Every quote takes the reader into quotes or out of them. -/
theorem foldl_after_eq_quoted (cs : List Char) (mode : Mode) :
    cs.foldl Mode.after mode = .quoted ↔ (Odd (cs.count '\'') ↔ mode ≠ .quoted) := by
  induction cs generalizing mode with
  | nil => simp
  | cons c cs ih =>
    rw [List.foldl_cons, ih, List.count_cons]
    by_cases hc : c = '\''
    · subst hc
      rw [beq_self_eq_true, if_pos rfl, Nat.odd_add_one]
      cases mode <;> simp [Mode.after]
    · rw [if_neg (by simpa using hc), Nat.add_zero]
      cases mode <;> cases hhold : holdsOn c <;> simp [Mode.after, hc, hhold]

/-- Text without quotes adds no words to quotes that are open. -/
theorem wordsFrom_quoted {cs : List Char} (hcs : '\'' ∉ cs) (pos : Nat) (rest : List Char) :
    wordsFrom .quoted pos (cs ++ rest) = wordsFrom .quoted (pos + Text.byteLength cs) rest := by
  induction cs generalizing pos with
  | nil => rfl
  | cons c cs ih =>
    obtain ⟨hc, hrest⟩ := not_or.mp (List.mem_cons.not.mp hcs)
    have hafter : Mode.after .quoted c = .quoted := by simp [Mode.after, Ne.symm hc]
    rw [List.cons_append, wordsFrom_cons, hafter, ih hrest, Text.byteLength_cons, Nat.add_assoc]
    rfl

/-- Behind a blank a word may start. -/
theorem wordsFrom_blank {mode : Mode} (hmode : mode ≠ .quoted) (pos : Nat) (cs : List Char) :
    wordsFrom mode pos (' ' :: cs) = wordsFrom .between (pos + 1) cs := by
  cases mode
  · rfl
  · exact absurd rfl hmode
  · rfl

section
variable {a t : List Char} (ha : IsWordText a) (ht : ∀ c ∈ t.head?, c = ' ') {mode : Mode}
include ha

theorem opensCall_name : opensCall (' ' :: (a ++ t)) = false := by
  obtain ⟨c, rest, rfl, hc, -⟩ := ha
  have hword := isWordChar_of_isIdentStart hc
  have hblank := Text.isBlank_of_isWordChar hword
  have hparenthesis : c ≠ '(' := ne_of_isWordChar hword (by decide)
  have htrim : Text.trimStart (' ' :: ((c :: rest) ++ t)) = c :: (rest ++ t) := by
    rw [Text.trimStart, List.dropWhile_cons_of_pos (by decide), List.cons_append,
      List.dropWhile_cons_of_neg (by rw [hblank]; exact Bool.false_ne_true)]
  rw [opensCall, htrim]
  simpa using hparenthesis

theorem quote_not_mem_name : '\'' ∉ a := fun hmem => by
  have hword := ha.isWordChar _ hmem
  revert hword
  decide

variable (hmode : mode ≠ .quoted)
include ht hmode

/-- Behind a blank a name is read, and then the text behind it. -/
theorem unplaced_name (pos : Nat) :
    (wordsFrom mode pos (' ' :: (a ++ t))).map unplaced =
      ⟨String.ofList a, 0, opensCall t⟩ :: (wordsFrom .between 0 t).map unplaced := by
  have hended : ∀ c ∈ t.head?, Text.isWordChar c = false := fun c hc => by rw [ht c hc]; rfl
  have hbehind : ∀ pos, wordsFrom .within pos t = wordsFrom .between pos t := by
    intro pos
    cases t with
    | nil => rfl
    | cons c t =>
      obtain rfl := ht c rfl
      rw [wordsFrom_blank Mode.noConfusion, wordsFrom_blank Mode.noConfusion]
  rw [wordsFrom_blank hmode, wordsFrom_word ha _ hended, hbehind, List.map_cons]
  exact congrArg _ (unplaced_wordsFrom _ _ _ _)

theorem unplaced_as (pos : Nat) :
    (wordsFrom mode pos (" AS ".toList ++ (a ++ t))).map unplaced =
      ⟨"AS", 0, false⟩ :: ⟨String.ofList a, 0, opensCall t⟩ ::
        (wordsFrom .between 0 t).map unplaced := by
  have hread : wordsFrom .between (pos + 1) ("AS ".toList ++ (a ++ t)) =
      ⟨"AS", pos + 1, opensCall (' ' :: (a ++ t))⟩ ::
        wordsFrom .within (pos + 3) (' ' :: (a ++ t)) := rfl
  have hblank := wordsFrom_blank hmode pos ("AS ".toList ++ (a ++ t))
  refine (congrArg (List.map unplaced) (hblank.trans hread)).trans ?_
  rw [opensCall_name ha, List.map_cons, unplaced_name ha ht Mode.noConfusion]
  rfl

end

end QueryWord

namespace RootEntity

/-! ## Messages -/

/-- The paths that the words behind the entity ask for. The first of them is the alias, or a
keyword, but no path. -/
def pathsBehind : List QueryWord → List String
  | [] => []
  | w :: rest => rest.filterMap (askedBy (if w.isKeyword then none else some w))

theorem askedBy_of_isKeyword {w : QueryWord} (h : w.isKeyword = true) (short : Option QueryWord) :
    askedBy short w = none := by
  simp [askedBy, mayBePath, h]

/-- Where the words start with `FROM`, these are the paths of the query. -/
theorem Reading.paths_eq {r : Reading} (h : r.before = []) :
    r.paths.map (·.2) = pathsBehind r.behind := by
  have hall : r.paths.map (·.2) = r.others.filterMap (askedBy r.shortName) := by
    rw [paths, List.map_filterMap]
    refine List.filterMap_congr fun w _ => ?_
    rw [Option.map_map]
    exact Option.map_id'
  rw [hall, others, h, List.nil_append]
  have hshort : r.shortName = r.behind.head?.filter (!·.isKeyword) := rfl
  rw [hshort]
  cases r.behind with
  | nil => rfl
  | cons w rest =>
    cases hw : w.isKeyword <;> simp [pathsBehind, Option.filter, hw, askedBy_of_isKeyword]

/-- The messages on a query with a root, from what it says: the entity, whether there is a join, and
the paths. -/
inductive Messages (m : TypeModel) (fallback : Bool) (g : Graph) (entity : String) (join : Bool)
    (paths : List String) : List String → Prop
  | unmapped {g' : Graph} (hentity : entityByName m entity g = .ok (none, g')) :
    Messages m fallback g entity join paths ["`" ++ entity ++ "` is not a mapped entity"]
  | joined {e : Entity} {g' : Graph} (hentity : entityByName m entity g = .ok (some e, g'))
    (hjoin : join = true) : Messages m fallback g entity join paths []
  | asked {e : Entity} {g₁ g' : Graph} {is : List Inquiry}
    (hentity : entityByName m entity g = .ok (some e, g₁)) (hjoin : join = false)
    (hasked : Asked m fallback e.name g₁ is g') (hpaths : is.map (·.path) = paths) :
    Messages m fallback g entity join paths
      ((is.filter (·.type.isNone)).map fun i => e.name ++ " has no mapped " ++ i.path)

/-- The messages on a query that starts with `FROM`, from the words behind it. -/
def MessagesBehind (m : TypeModel) (fallback : Bool) (g : Graph) :
    List QueryWord → List String → Prop
  | [], messages => messages = ["expected an entity after FROM"]
  | entity :: behind, messages => Messages m fallback g entity.text
      ((entity :: behind).any (·.isWord "join")) (pathsBehind behind) messages

section
variable {m : TypeModel} {fallback : Bool} {g : Graph}

/-- What is answered follows from what is asked. -/
theorem Asked.unique {entity : String} {is js : List Inquiry} {g' g'' : Graph}
    (h : Asked m fallback entity g is g') (h' : Asked m fallback entity g js g'')
    (hpaths : is.map (·.path) = js.map (·.path)) :
    is.map (fun i => (i.path, i.type)) = js.map fun i => (i.path, i.type) := by
  induction h generalizing js with
  | nil =>
    rw [List.map_eq_nil_iff.mp hpaths.symm]
  | @cons i is g g₁ g' hfirst _ ih =>
    cases h' with
    | nil => cases hpaths
    | @cons j _ _ _ _ hfirst' hrest =>
      obtain ⟨hpath, hlater⟩ := List.cons.inj hpaths
      dsimp only at hpath
      rw [hpath, hfirst'] at hfirst
      obtain ⟨htype, rfl⟩ := Prod.mk.inj (Except.ok.inj hfirst)
      rw [List.map_cons, List.map_cons, ih hrest hlater, hpath, htype]

/-- The messages do not depend on the paths where none is asked for. -/
theorem Messages.unique {entity : String} {join : Bool} {paths paths' ms ms' : List String}
    (h : Messages m fallback g entity join paths ms)
    (h' : Messages m fallback g entity join paths' ms')
    (hsame : join = false → (∀ g', entityByName m entity g ≠ .ok (none, g')) → paths = paths') :
    ms = ms' := by
  cases h with
  | unmapped hentity =>
    cases h' with
    | unmapped => rfl
    | joined hentity' | asked hentity' => cases hentity.symm.trans hentity'
  | joined hentity hjoin =>
    cases h' with
    | unmapped hentity' => cases hentity.symm.trans hentity'
    | joined => rfl
    | asked _ hjoin' => cases hjoin.symm.trans hjoin'
  | @asked e g₁ _ is hentity hjoin hasked hpaths =>
    cases h' with
    | unmapped hentity' => cases hentity.symm.trans hentity'
    | joined _ hjoin' => cases hjoin.symm.trans hjoin'
    | @asked _ _ _ js hentity' _ hasked' hpaths' =>
      cases hentity.symm.trans hentity'
      have hmapped : ∀ g', entityByName m entity g ≠ .ok (none, g') := fun g' hnone => by
        cases hentity.symm.trans hnone
      have houtcomes := hasked.unique hasked'
        (hpaths.trans ((hsame hjoin hmapped).trans hpaths'.symm))
      have hmessages : ∀ is : List Inquiry,
          ((is.filter (·.type.isNone)).map fun i => e.name ++ " has no mapped " ++ i.path) =
            ((is.map fun i => (i.path, i.type)).filter (·.2.isNone)).map
              fun o => e.name ++ " has no mapped " ++ o.1 := fun is => by
        rw [List.filter_map, List.map_map]
        rfl
      rw [hmessages, hmessages, houtcomes]

theorem MessagesBehind.unique {tail : List QueryWord} {ms ms' : List String}
    (h : MessagesBehind m fallback g tail ms) (h' : MessagesBehind m fallback g tail ms') :
    ms = ms' := by
  cases tail with
  | nil => exact Eq.trans h (Eq.symm h')
  | cons entity behind => exact Messages.unique h h' fun _ _ => rfl

/-- Positions do not matter. -/
theorem messagesBehind_unplaced {tail : List QueryWord} {ms : List String} :
    MessagesBehind m fallback g (tail.map QueryWord.unplaced) ms ↔
      MessagesBehind m fallback g tail ms := by
  cases tail with
  | nil => exact Iff.rfl
  | cons entity behind =>
    have hjoin : ((entity :: behind).map QueryWord.unplaced).any (·.isWord "join") =
        (entity :: behind).any (·.isWord "join") := List.any_map
    have hpaths : pathsBehind (behind.map QueryWord.unplaced) = pathsBehind behind := by
      cases behind with
      | nil => rfl
      | cons w rest =>
        rw [List.map_cons, pathsBehind, pathsBehind, List.filterMap_map]
        have hsame : w.unplaced.isKeyword = w.isKeyword := rfl
        rw [hsame]
        cases w.isKeyword <;> rfl
    rw [List.map_cons, MessagesBehind, MessagesBehind, ← List.map_cons, hjoin, hpaths]
    exact Iff.rfl

theorem analyse_gives_messages (hm : m.Accepted) (hg : g.Consistent m) {query : String}
    {start : QueryWord} {tail : List QueryWord}
    (hwords : QueryWord.wordsOf query = start :: tail) (hstart : start.text = "FROM") :
    Gives (analyse (lookupIn m fallback) query) g fun findings _ =>
      MessagesBehind m fallback g tail (findings.map (·.message)) := by
  have hfrom : start.isWord "from" = true := by rw [QueryWord.isWord, hstart]; decide
  cases tail with
  | nil =>
    unfold analyse
    have hroot : rootOf [start] = .error .missingEntity := by simp [rootOf, hfrom]
    simp only [hwords, hroot]
    exact Gives.pure rfl
  | cons entity behind =>
    have hr : Reading.Of ⟨[], start, entity, behind⟩ query :=
      Reading.of_wordsOf hwords (List.forall_mem_nil _) hfrom
    have hjoin : (Reading.words ⟨[], start, entity, behind⟩).any (·.isWord "join") =
        (entity :: behind).any (·.isWord "join") := by
      have hnot : start.isWord "join" = false := by rw [QueryWord.isWord, hstart]; decide
      rw [Reading.words, List.nil_append, List.any_cons, hnot, Bool.false_or]
    obtain ⟨e?, g₁, hentity, hgives⟩ := Reading.analyse_gives_inquiries hm fallback hg hr
    refine hgives.mono fun findings g' hpost => ?_
    cases e? with
    | none =>
      obtain ⟨-, rfl⟩ := hpost
      exact Messages.unmapped hentity
    | some e =>
      obtain ⟨is, hasked, his, rfl⟩ := hpost
      rw [hjoin] at his
      cases hj : (entity :: behind).any (·.isWord "join") with
      | true =>
        rw [hj, if_pos rfl, List.map_eq_nil_iff] at his
        subst his
        exact Messages.joined hentity hj
      | false =>
        rw [hj, if_neg Bool.false_ne_true] at his
        have hpaths : is.map (·.path) = pathsBehind behind := by
          rw [← Reading.paths_eq (r := ⟨[], start, entity, behind⟩) rfl, ← his, List.map_map]
          rfl
        have hmessages : (unresolved e.name is).map (·.message) =
            (is.filter (·.type.isNone)).map fun i => e.name ++ " has no mapped " ++ i.path :=
          List.map_map
        rw [hmessages]
        exact Messages.asked hentity hj hasked hpaths

end

/-! ## With the keyword and without -/

section
variable {a t : String}

/-- The word that a name is read as. -/
def aliasWord (a t : String) : QueryWord := ⟨a, 0, QueryWord.opensCall t.toList⟩

/-- The keyword. -/
def asWord : QueryWord := ⟨"AS", 0, false⟩

/-- The words of a text that starts in open quotes. -/
def quotedWords (t : String) : List QueryWord := QueryWord.wordsFrom .quoted 0 t.toList

variable {m : TypeModel} (hm : m.Accepted) (fallback : Bool) {g : Graph} (hg : g.Consistent m)
  (ha : QueryWord.IsWordText a.toList) (ht : ∀ c ∈ t.toList.head?, c = ' ') (n : String)
include hm hg

/-- The messages on a query with a lead between `n` and `a`, if `ws` are the words from there on. -/
theorem analyse_lead (lead : List Char) (hlead : '\'' ∉ lead ++ a.toList)
    (hended : ∀ c ∈ (lead ++ (a.toList ++ t.toList)).head?, Text.isWordChar c = false)
    (hcall : QueryWord.opensCall (lead ++ (a.toList ++ t.toList)) = false) {ws : List QueryWord}
    (hws : ∀ mode pos, mode ≠ .quoted →
      (QueryWord.wordsFrom mode pos (lead ++ (a.toList ++ t.toList))).map QueryWord.unplaced =
        ws.map QueryWord.unplaced)
    {query : String}
    (hquery : query.toList = "FROM ".toList ++ (n.toList ++ (lead ++ (a.toList ++ t.toList)))) :
    Gives (analyse (lookupIn m fallback) query) g fun findings _ =>
      MessagesBehind m fallback g (QueryWord.wordsOf n ++
        if Odd (n.toList.count '\'') then quotedWords t else ws) (findings.map (·.message)) := by
  obtain ⟨start, hwords, hstart⟩ : ∃ start, QueryWord.wordsOf query = start ::
      (QueryWord.wordsFrom .between 5 n.toList ++
        QueryWord.wordsFrom (n.toList.foldl QueryWord.Mode.after .between)
          (5 + Text.byteLength n.toList) (lead ++ (a.toList ++ t.toList))) ∧
      start.text = "FROM" := by
    rw [QueryWord.wordsOf, hquery, QueryWord.wordsFrom_from,
      QueryWord.wordsFrom_append hended hcall]
    exact ⟨_, rfl, rfl⟩
  have hquoted := QueryWord.foldl_after_eq_quoted n.toList .between
  refine (analyse_gives_messages hm hg hwords hstart).mono fun findings _ hmessages => ?_
  rw [← messagesBehind_unplaced, List.map_append] at hmessages ⊢
  rw [QueryWord.unplaced_wordsFrom _ 5 0 n.toList] at hmessages
  split
  · rename_i hodd
    rw [hquoted.mpr (by simpa using hodd), ← List.append_assoc,
      QueryWord.wordsFrom_quoted hlead, QueryWord.unplaced_wordsFrom _ _ 0 t.toList] at hmessages
    exact hmessages
  · rename_i hodd
    rw [hws _ _ (hquoted.not.mpr (by simpa using hodd))] at hmessages
    exact hmessages

include ha ht

theorem analyse_with_as :
    Gives (analyse (lookupIn m fallback) ("FROM " ++ n ++ " AS " ++ a ++ t)) g fun findings _ =>
      MessagesBehind m fallback g (QueryWord.wordsOf n ++ if Odd (n.toList.count '\'')
        then quotedWords t else asWord :: aliasWord a t :: QueryWord.wordsOf t)
        (findings.map (·.message)) := by
  refine analyse_lead hm fallback hg n " AS ".toList (a := a) (t := t) ?_ ?_ ?_
    (fun mode pos hmode => ?_) (by simp [String.toList_append])
  · rw [List.mem_append]
    exact not_or.mpr ⟨by decide, QueryWord.quote_not_mem_name ha⟩
  · rintro c ⟨⟩
    rfl
  · rfl
  · rw [QueryWord.unplaced_as ha ht hmode, String.ofList_toList]
    rfl

theorem analyse_without_as :
    Gives (analyse (lookupIn m fallback) ("FROM " ++ n ++ " " ++ a ++ t)) g fun findings _ =>
      MessagesBehind m fallback g (QueryWord.wordsOf n ++ if Odd (n.toList.count '\'')
        then quotedWords t else aliasWord a t :: QueryWord.wordsOf t)
        (findings.map (·.message)) := by
  refine analyse_lead hm fallback hg n [' '] (a := a) (t := t) ?_ ?_ ?_
    (fun mode pos hmode => ?_) (by simp [String.toList_append])
  · rw [List.mem_append]
    exact not_or.mpr ⟨by decide, QueryWord.quote_not_mem_name ha⟩
  · rintro c ⟨⟩
    rfl
  · exact QueryWord.opensCall_name (t := t.toList) ha
  · refine (QueryWord.unplaced_name ha ht hmode pos).trans ?_
    rw [String.ofList_toList]
    rfl

end

theorem isKeyword_asWord : asWord.isKeyword = true := by decide

theorem isWord_join_asWord : asWord.isWord "join" = false := by decide

theorem isKeyword_aliasWord {a : String} (ha : QueryWord.IsName a) (t : String) :
    (aliasWord a t).isKeyword = false :=
  List.any_eq_false.mpr fun k hk => by
    rw [QueryWord.isWord, aliasWord, ha.notKeyword k hk]
    exact Bool.false_ne_true

theorem isWord_join_aliasWord {a : String} (ha : QueryWord.IsName a) (t : String) :
    (aliasWord a t).isWord "join" = false := ha.notKeyword "join" (by decide)

/-- Behind the word that decides about the alias, the keyword makes no difference. -/
theorem messagesBehind_as {m : TypeModel} {fallback : Bool} {g : Graph} {w v : QueryWord}
    {ws rest : List QueryWord} {messages : List String} :
    MessagesBehind m fallback g (w :: v :: (ws ++ asWord :: rest)) messages ↔
      MessagesBehind m fallback g (w :: v :: (ws ++ rest)) messages := by
  have hpaths : pathsBehind (v :: (ws ++ asWord :: rest)) = pathsBehind (v :: (ws ++ rest)) := by
    rw [pathsBehind, pathsBehind, List.filterMap_append, List.filterMap_append,
      List.filterMap_cons_none (askedBy_of_isKeyword isKeyword_asWord _)]
  have hjoin : (w :: v :: (ws ++ asWord :: rest)).any (·.isWord "join") =
      (w :: v :: (ws ++ rest)).any (·.isWord "join") := by
    simp only [List.any_cons, List.any_append, isWord_join_asWord, Bool.false_or]
  rw [MessagesBehind, MessagesBehind, hpaths, hjoin]

/-- `FROM`, `n` and a name, with text behind it, are analysed in the same way if `AS` stands before
the name, where `n` leaves quotes open, where it is more than one word, and where its only word is
no mapped entity or there is a join. If the only word is an entity, the name is an alias without
`AS`, and the words behind it ask for what they say of the alias; with `AS` there is no alias, and
the name and the words behind it ask for themselves. If `n` is no word at all, `AS` is taken for the
entity, and without it the name is. What is reported has positions that fit if the longer query is
short enough. -/
theorem analyse_as {ds : List Declaration} {m : Declared} (hbuild : Declared.build ds = .ok m)
    (fallback : Bool) {a t : String} (ha : QueryWord.IsName a) (ht : ∀ c ∈ t.toList.head?, c = ' ')
    (n : String) :
    ∃ withAs without g₁ g₂,
      analyse (lookupIn m.toModel fallback) ("FROM " ++ n ++ " AS " ++ a ++ t) Graph.empty =
        .ok (withAs, g₁) ∧
      analyse (lookupIn m.toModel fallback) ("FROM " ++ n ++ " " ++ a ++ t) Graph.empty =
        .ok (without, g₂) ∧
      (byteLength ("FROM " ++ n ++ " AS " ++ a ++ t) ≤ Text.maxOffset →
        ∀ f ∈ withAs ++ without, f.range.Fits) ∧
      (Odd (n.toList.count '\'') ∨ 2 ≤ (QueryWord.wordsOf n).length →
        withAs.map (·.message) = without.map (·.message)) ∧
      (Even (n.toList.count '\'') → ∀ w, QueryWord.wordsOf n = [w] →
        Messages m.toModel fallback Graph.empty w.text
          ((w :: QueryWord.wordsOf t).any (·.isWord "join"))
          ((aliasWord a t :: QueryWord.wordsOf t).filterMap (askedBy none))
          (withAs.map (·.message)) ∧
        Messages m.toModel fallback Graph.empty w.text
          ((w :: QueryWord.wordsOf t).any (·.isWord "join"))
          ((QueryWord.wordsOf t).filterMap (askedBy (some (aliasWord a t))))
          (without.map (·.message)) ∧
        ((w :: QueryWord.wordsOf t).any (·.isWord "join") = true ∨
            (∃ g', entityByName m.toModel w.text Graph.empty = .ok (none, g')) →
          withAs.map (·.message) = without.map (·.message))) ∧
      (Even (n.toList.count '\'') → QueryWord.wordsOf n = [] →
        Messages m.toModel fallback Graph.empty "AS"
          ((QueryWord.wordsOf t).any (·.isWord "join"))
          ((QueryWord.wordsOf t).filterMap (askedBy (some (aliasWord a t))))
          (withAs.map (·.message)) ∧
        Messages m.toModel fallback Graph.empty a
          ((QueryWord.wordsOf t).any (·.isWord "join")) (pathsBehind (QueryWord.wordsOf t))
          (without.map (·.message))) := by
  have hm := Declared.build_accepted hbuild
  have hg := Graph.empty_consistent m.toModel
  obtain ⟨withAs, g₁, hwith, hmessages⟩ := analyse_with_as hm fallback hg ha.word ht n
  obtain ⟨without, g₂, hwithout, hmessages'⟩ :=
    analyse_without_as hm fallback hg ha.word ht n
  refine ⟨withAs, without, g₁, g₂, hwith, hwithout, fun hlen f hf => ?_, fun hcase => ?_,
    fun heven w hn => ?_, fun heven hn => ?_⟩
  · rcases List.mem_append.mp hf with hf | hf
    · exact (analyse_within hwith hf).fits hlen
    · refine (analyse_within hwithout hf).fits (Nat.le_trans ?_ hlen)
      simp only [byteLength_append, show byteLength " AS " = 4 from rfl,
        show byteLength " " = 1 from rfl]
      omega
  · by_cases hodd : Odd (n.toList.count '\'')
    · rw [if_pos hodd] at hmessages hmessages'
      exact hmessages.unique hmessages'
    · have htwo := hcase.resolve_left hodd
      rw [if_neg hodd] at hmessages hmessages'
      match hn : QueryWord.wordsOf n, htwo with
      | w :: v :: ws, _ =>
        rw [hn] at hmessages hmessages'
        exact (messagesBehind_as.mp hmessages).unique hmessages'
  · rw [hn, if_neg (Nat.not_odd_iff_even.mpr heven)] at hmessages hmessages'
    have hjoin : (w :: asWord :: aliasWord a t :: QueryWord.wordsOf t).any (·.isWord "join") =
        (w :: QueryWord.wordsOf t).any (·.isWord "join") := by
      simp only [List.any_cons, isWord_join_asWord, isWord_join_aliasWord ha, Bool.false_or]
    have hjoin' : (w :: aliasWord a t :: QueryWord.wordsOf t).any (·.isWord "join") =
        (w :: QueryWord.wordsOf t).any (·.isWord "join") := by
      simp only [List.any_cons, isWord_join_aliasWord ha, Bool.false_or]
    rw [List.singleton_append, MessagesBehind, pathsBehind, isKeyword_asWord, if_pos rfl,
      hjoin] at hmessages
    rw [List.singleton_append, MessagesBehind, pathsBehind, isKeyword_aliasWord ha,
      if_neg Bool.false_ne_true, hjoin'] at hmessages'
    refine ⟨hmessages, hmessages', fun hcase => hmessages.unique hmessages' fun hno hmapped => ?_⟩
    rcases hcase with hyes | ⟨g', hnone⟩
    · exact nomatch hyes.symm.trans hno
    · exact absurd hnone (hmapped g')
  · rw [hn, if_neg (Nat.not_odd_iff_even.mpr heven)] at hmessages hmessages'
    have hjoin : (asWord :: aliasWord a t :: QueryWord.wordsOf t).any (·.isWord "join") =
        (QueryWord.wordsOf t).any (·.isWord "join") := by
      simp only [List.any_cons, isWord_join_asWord, isWord_join_aliasWord ha, Bool.false_or]
    have hjoin' : (aliasWord a t :: QueryWord.wordsOf t).any (·.isWord "join") =
        (QueryWord.wordsOf t).any (·.isWord "join") := by
      rw [List.any_cons, isWord_join_aliasWord ha, Bool.false_or]
    rw [List.nil_append, MessagesBehind, pathsBehind, isKeyword_aliasWord ha,
      if_neg Bool.false_ne_true, hjoin] at hmessages
    rw [List.nil_append, MessagesBehind, hjoin'] at hmessages'
    exact ⟨hmessages, hmessages'⟩

theorem analyse_as_staff : Declared.build staff = .ok staffModel ∧ QueryWord.IsName "p" ∧
    (∀ c ∈ " WHERE p.name = 1 AND p.age = f(p)".toList.head?, c = ' ') ∧
    ∃ withAs without g₁ g₂,
      analyse (lookupIn staffModel.toModel true)
        ("FROM " ++ "Person" ++ " AS " ++ "p" ++ " WHERE p.name = 1 AND p.age = f(p)") Graph.empty =
        .ok (withAs, g₁) ∧
      analyse (lookupIn staffModel.toModel true)
        ("FROM " ++ "Person" ++ " " ++ "p" ++ " WHERE p.name = 1 AND p.age = f(p)") Graph.empty =
        .ok (without, g₂) ∧
      (∀ f ∈ withAs ++ without, f.range.Fits) ∧
      Messages staffModel.toModel true Graph.empty "Person" false ["p", "p.name", "p.age", "p"]
        (withAs.map (·.message)) ∧
      Messages staffModel.toModel true Graph.empty "Person" false ["name", "age"]
        (without.map (·.message)) := by
  have hp : QueryWord.IsName "p" := ⟨⟨'p', [], rfl, rfl, nofun⟩, by decide +kernel⟩
  have ht : ∀ c ∈ " WHERE p.name = 1 AND p.age = f(p)".toList.head?, c = ' ' := by
    rintro c ⟨⟩
    rfl
  obtain ⟨withAs, without, g₁, g₂, hwith, hwithout, hfits, -, hone, -⟩ :=
    analyse_as build_staff true hp ht "Person"
  obtain ⟨hmessages, hmessages', -⟩ :=
    hone (by decide) ⟨"Person", 0, false⟩ (by decide +kernel)
  have hjoin : ((⟨"Person", 0, false⟩ : QueryWord) ::
      QueryWord.wordsOf " WHERE p.name = 1 AND p.age = f(p)").any (·.isWord "join") = false := by
    decide +kernel
  have hpaths : (aliasWord "p" " WHERE p.name = 1 AND p.age = f(p)" ::
      QueryWord.wordsOf " WHERE p.name = 1 AND p.age = f(p)").filterMap (askedBy none) =
        ["p", "p.name", "p.age", "p"] := by decide +kernel
  have hpaths' : (QueryWord.wordsOf " WHERE p.name = 1 AND p.age = f(p)").filterMap
      (askedBy (some (aliasWord "p" " WHERE p.name = 1 AND p.age = f(p)"))) =
        ["name", "age"] := by decide +kernel
  rw [hjoin, hpaths] at hmessages
  rw [hjoin, hpaths'] at hmessages'
  exact ⟨build_staff, hp, ht, withAs, without, g₁, g₂, hwith, hwithout, hfits (by decide +kernel),
    hmessages, hmessages'⟩

/-- The keyword makes a difference: with it a correct query has errors. -/
theorem analyse_as_differs : ¬ ∀ (ds : List Declaration) (m : Declared) (fallback : Bool)
    (n a t : String) (withAs without : List Finding) (g₁ g₂ : Graph),
    Declared.build ds = .ok m → (m.toModel.findEntityType? n).isSome = true →
    (∃ c rest, a.toList = c :: rest ∧ Text.isIdentStart c = true ∧
      ∀ d ∈ rest, Text.isIdentChar d = true) →
    (∀ k ∈ QueryWord.keywords, Text.sameIgnoringCase k.toList a.toList = false) →
    (∀ c ∈ t.toList.head?, c = ' ') →
    analyse (lookupIn m.toModel fallback) ("FROM " ++ n ++ " AS " ++ a ++ t) Graph.empty =
      .ok (withAs, g₁) →
    analyse (lookupIn m.toModel fallback) ("FROM " ++ n ++ " " ++ a ++ t) Graph.empty =
      .ok (without, g₂) →
    withAs.map (·.message) = without.map (·.message) := by
  intro h
  have hwith : (analyse (lookupIn staffModel.toModel true)
      ("FROM " ++ "Person" ++ " AS " ++ "p" ++ " WHERE p.name = 1") Graph.empty).map
        (fun r => r.1.map (·.message)) =
      .ok ["Person has no mapped p", "Person has no mapped p.name"] := by decide +kernel
  have hwithout : (analyse (lookupIn staffModel.toModel true)
      ("FROM " ++ "Person" ++ " " ++ "p" ++ " WHERE p.name = 1") Graph.empty).map
        (fun r => r.1.map (·.message)) = .ok [] := by decide +kernel
  obtain ⟨⟨withAs, g₁⟩, hrun, hmessages⟩ := Except.exists_of_map_eq_ok hwith
  obtain ⟨⟨without, g₂⟩, hrun', hmessages'⟩ := Except.exists_of_map_eq_ok hwithout
  have hsame := h staff staffModel true "Person" "p" " WHERE p.name = 1" withAs without g₁ g₂
    build_staff (by decide +kernel) ⟨'p', [], rfl, rfl, nofun⟩ (by decide +kernel)
    (by rintro c ⟨⟩; rfl) hrun hrun'
  rw [show withAs.map (·.message) = _ from hmessages,
    show without.map (·.message) = _ from hmessages'] at hsame
  cases hsame

end RootEntity

end EntityQuery
