import Mathlib
import EntityQuery.Proofs.Checker.Context
/-!
# Two checks side by side

`Both x g y h post` says that `x` succeeds on `g` and `y` on `h`, and relates their outcomes. Two
checks of the same site go through the same steps as long as entities have the same names; they
differ in the paths that are answered, and the findings of one are compared with those of the other
path by path.

Results:
* `analyse_both`: two analyses of one query, from what names and paths are answered with.
* `check_both`: two checks of one site, from its text and the analysis.
* `messages_of_run`, `messages_of_last`: what is said site by site.
-/
namespace EntityQuery

/-- `x` succeeds on `g` and `y` on `h`, and their outcomes satisfy `post`. -/
def Both {α β : Type} (x : GraphM α) (g : Graph) (y : GraphM β) (h : Graph)
    (post : α → Graph → β → Graph → Prop) : Prop :=
  Gives x g fun a g' => Gives y h fun b h' => post a g' b h'

namespace Both

variable {α β γ δ : Type} {g h : Graph} {post : γ → Graph → δ → Graph → Prop}

theorem pure {c : γ} {d : δ} (hpost : post c g d h) : Both (Pure.pure c) g (Pure.pure d) h post :=
  Gives.pure (Gives.pure hpost)

theorem bind {x : GraphM α} {y : GraphM β} {f : α → GraphM γ} {f' : β → GraphM δ}
    {Q : α → Graph → β → Graph → Prop} (hxy : Both x g y h Q)
    (hf : ∀ {a g' b h'}, Q a g' b h' → Both (f a) g' (f' b) h' post) :
    Both (x >>= f) g (y >>= f') h post := by
  obtain ⟨a, g', hx, b, h', hy, hq⟩ := hxy
  obtain ⟨c, g'', hc, d, h'', hd, hpost⟩ := hf hq
  exact ⟨c, g'', (GraphM.bind_of_eq_ok hx f).trans hc, d, h'',
    (GraphM.bind_of_eq_ok hy f').trans hd, hpost⟩

theorem mono {x : GraphM γ} {y : GraphM δ} {Q : γ → Graph → δ → Graph → Prop}
    (hxy : Both x g y h Q) (himp : ∀ {a g' b h'}, Q a g' b h' → post a g' b h') :
    Both x g y h post :=
  Gives.mono hxy fun _ _ hy => hy.mono fun _ _ => himp

theorem map {x : GraphM α} {y : GraphM β} {f : α → γ} {f' : β → δ}
    (hxy : Both x g y h fun a g' b h' => post (f a) g' (f' b) h') :
    Both (f <$> x) g (f' <$> y) h post := by
  obtain ⟨a, g', hx, b, h', hy, hpost⟩ := hxy
  exact ⟨f a, g', GraphM.map_of_eq_ok hx f, f' b, h', GraphM.map_of_eq_ok hy f', hpost⟩

/-- What holds of every outcome of the second holds as well. -/
theorem and_right {x : GraphM γ} {y : GraphM δ} {P : δ → Graph → Prop} (hxy : Both x g y h post)
    (hy : ∀ {b h'}, y h = .ok (b, h') → P b h') :
    Both x g y h fun a g' b h' => post a g' b h' ∧ P b h' := by
  obtain ⟨a, g', hx, b, h', hyrun, hpost⟩ := hxy
  exact ⟨a, g', hx, b, h', hyrun, hpost, hy hyrun⟩

/-- Each of them succeeds, and whatever they give satisfies `post`. -/
theorem of_runs {x : GraphM γ} {y : GraphM δ} {P : γ → Graph → Prop} {Q : δ → Graph → Prop}
    (hx : Gives x g P) (hy : Gives y h Q)
    (hruns : ∀ {a g' b h'}, x g = .ok (a, g') → y h = .ok (b, h') → post a g' b h') :
    Both x g y h post := by
  obtain ⟨a, g', hxrun, -⟩ := hx
  obtain ⟨b, h', hyrun, -⟩ := hy
  exact ⟨a, g', hxrun, b, h', hyrun, hruns hxrun hyrun⟩

end Both

/-! ## Findings path by path -/

/-- Findings are compared path by path: `ok` compares what a path is answered with, and `rel` the
findings, where a path without an answer is one. -/
structure PathByPath (ok : Option PropertyType → Option PropertyType → Prop)
    (rel : List Finding → List Finding → Prop) : Prop where
  refl : ∀ findings, rel findings findings
  path : ∀ {a b : Option PropertyType} {fs fs' : List Finding} (x : Finding), ok a b → rel fs fs' →
    rel (if a.isSome then fs else x :: fs) (if b.isSome then fs' else x :: fs')

/-- Where every path is answered in the first check that is answered in the second, the first has no
other findings. -/
theorem pathByPath_sublist :
    PathByPath (fun a b => b.isSome = true → a.isSome = true) List.Sublist where
  refl := List.Sublist.refl
  path := by
    intro a b fs fs' x hok hrel
    cases a with
    | some t =>
      cases b with
      | some _ => exact hrel
      | none => exact hrel.trans (List.sublist_cons_self x fs')
    | none =>
      cases b with
      | some t => cases hok rfl
      | none => exact hrel.cons_cons x

theorem pathByPath_eq : PathByPath (fun a b => a.isSome = b.isSome) Eq where
  refl := fun _ => rfl
  path := by
    rintro a b fs fs' x hok rfl
    rw [hok]

/-- Where entity names differ, a name leads to entities of the same name on all graphs. -/
theorem entityByName_names {m : TypeModel} (hm : m.Accepted) (hnames : m.DistinctEntityNames)
    {g h : Graph} (hg : g.Consistent m) (hh : h.Consistent m) {name : String}
    {e? e?' : Option Entity} {g' h' : Graph} (hrun : entityByName m name g = .ok (e?, g'))
    (hrun' : entityByName m name h = .ok (e?', h')) : e?.map (·.name) = e?'.map (·.name) := by
  have hg' := ((entityByName_leadsTo m true name) hrun).consistent hm hg
  have hh' := ((entityByName_leadsTo m true name) hrun').consistent hm hh
  rcases entityByName_is hm hnames hg hrun with ⟨rfl, hty⟩ | ⟨e, rfl, he, hty⟩ <;>
    rcases entityByName_is hm hnames hh hrun' with ⟨rfl, hty'⟩ | ⟨e', rfl, he', hty'⟩
  · rfl
  · cases hty.symm.trans hty'
  · cases hty.symm.trans hty'
  · obtain ⟨i, hi⟩ := List.getElem?_of_mem he
    obtain ⟨i', hi'⟩ := List.getElem?_of_mem he'
    have hhead := hg'.entityHead_eq hi
    have hhead' := hh'.entityHead_eq hi'
    rw [Option.some.inj (hty'.symm.trans hty)] at hhead'
    exact congrArg some (Prod.mk.inj (Except.ok.inj (hhead.symm.trans hhead'))).1

namespace RootEntity

section
variable {m : TypeModel} {fallback fallback' : Bool} {R : Graph → Graph → Prop}
  {ok : Option PropertyType → Option PropertyType → Prop}
  {rel : List Finding → List Finding → Prop} (hrel : PathByPath ok rel)
  (hpaths : ∀ {entity path : String} {g h : Graph}, R g h →
    Both (propertyTypeByName m fallback entity path) g
      (propertyTypeByName m fallback' entity path) h fun a g' b h' => ok a b ∧ R g' h')
include hrel hpaths

theorem checkPaths_both (entity : String) (paths : List (QueryWord × String)) {g h : Graph}
    (hR : R g h) :
    Both (checkPaths (lookupIn m fallback) entity paths) g
      (checkPaths (lookupIn m fallback') entity paths) h
      fun fs g' fs' h' => rel fs fs' ∧ R g' h' := by
  induction paths generalizing g h with
  | nil => exact Both.pure ⟨hrel.refl [], hR⟩
  | cons p rest ih =>
    refine Both.bind (hpaths hR) fun ⟨hok, hR₁⟩ => ?_
    exact Both.bind (ih hR₁) fun ⟨hfs, hR₂⟩ => Both.pure ⟨hrel.path _ hok hfs, hR₂⟩

/-- Two analyses of a query with a root, which may be built in between. -/
theorem analyseRoot_both {words : List QueryWord} {root : Root} {g h : Graph}
    (hroot : Both (entityByName m root.entity.text) g (entityByName m root.entity.text) h
      fun e? g' e?' h' => e?.map (·.name) = e?'.map (·.name) ∧ R g' h') :
    Both (analyseRoot (lookupIn m fallback) words root) g
      (analyseRoot (lookupIn m fallback') words root) h
      fun fs g' fs' h' => rel fs fs' ∧ R g' h' := by
  refine Both.bind hroot fun {e? g' e?' h'} ⟨hname, hR⟩ => ?_
  cases e? with
  | none =>
    cases e?' with
    | none => exact Both.pure ⟨hrel.refl _, hR⟩
    | some e' => cases hname
  | some e =>
    cases e?' with
    | none => cases hname
    | some e' =>
      dsimp only
      rw [show e'.name = e.name from (Option.some.inj hname).symm]
      split
      · exact Both.pure ⟨hrel.refl [], hR⟩
      · exact checkPaths_both hrel hpaths e.name _ hR

theorem analyse_both (hnames : ∀ {name : String} {g h : Graph}, R g h →
      Both (entityByName m name) g (entityByName m name) h
        fun e? g' e?' h' => e?.map (·.name) = e?'.map (·.name) ∧ R g' h')
    (query : String) {g h : Graph} (hR : R g h) :
    Both (analyse (lookupIn m fallback) query) g (analyse (lookupIn m fallback') query) h
      fun fs g' fs' h' => rel fs fs' ∧ R g' h' := by
  unfold analyse
  dsimp only
  split
  · exact Both.pure ⟨hrel.refl _, hR⟩
  · exact Both.pure ⟨hrel.refl _, hR⟩
  · exact analyseRoot_both hrel hpaths (hnames hR)

end

end RootEntity

/-! ## Checks of one site -/

namespace Checker

/-- Two checks of a site that analyse the same text: `rel` compares the findings on the text, and
`relReported` what is reported on the site. -/
theorem check_both {m : TypeModel} {config config' : CheckConfig} {site : CallSite}
    {R : Graph → Graph → Prop} (rel : List Finding → List Finding → Prop)
    {relReported : Diagnostics → Diagnostics → Prop} (hrefl : ∀ ds, relReported ds ds)
    (hreported : ∀ (early : Diagnostics) (e : Expansion) {fs fs' : List Finding}, rel fs fs' →
      relReported (reported config site early e fs) (reported config' site early e fs'))
    {g h : Graph}
    (htext : Both (finalText m config site) g (finalText m config' site) h
      fun r g' r' h' => r = r' ∧ (r.1 = none → R g' h') ∧ ∀ e, r.1 = some e →
        Both (RootEntity.analyse (lookupIn m config.fallbackToSubtypes) e.text) g'
          (RootEntity.analyse (lookupIn m config'.fallbackToSubtypes) e.text) h'
          fun fs g'' fs' h'' => rel fs fs' ∧ R g'' h'') :
    Both (check m RootEntity.analyser config site ()) g
      (check m RootEntity.analyser config' site ()) h
      fun p g' q h' => relReported p.1 q.1 ∧ R g' h' := by
  refine Both.bind (Q := fun p g' q h' => relReported p.1.inSource q.1.inSource ∧ R g' h') ?_
    fun hpost => Both.pure hpost
  refine Both.bind htext fun {r g' r' h'} ⟨hsame, hnone, hsome⟩ => ?_
  subst hsame
  obtain ⟨text, early⟩ := r
  cases text with
  | none => exact Both.pure ⟨hrefl _, hnone rfl⟩
  | some e =>
    refine Both.bind (Q := fun p g'' q h'' => rel p.1 q.1 ∧ R g'' h'') ?_
      fun ⟨hfs, hR⟩ => Both.pure ⟨hreported early e hfs, hR⟩
    exact Both.bind (hsome e rfl) fun hfs => Both.pure hfs

/-! ## Reports site by site -/

theorem checkEach_concat {m : TypeModel} {config : CheckConfig} {sites : List CallSite}
    {site : CallSite} {each : List Diagnostics} {found : Diagnostics} {g g₀ g₁ : Graph}
    (hsites : checkEach m RootEntity.analyser config sites () g = .ok ((each, ()), g₀))
    (hsite : check m RootEntity.analyser config site () g₀ = .ok ((found, ()), g₁)) :
    checkEach m RootEntity.analyser config (sites ++ [site]) () g =
      .ok ((each ++ [found], ()), g₁) := by
  induction sites generalizing g each with
  | nil =>
    cases hsites
    rw [List.nil_append, checkEach, inOrder, GraphM.bind_of_eq_ok hsite]
    rfl
  | cons first rest ih =>
    obtain ⟨⟨ds, ⟨⟩⟩, k, hfirst, hrest⟩ := GraphM.bind_eq_ok hsites
    obtain ⟨⟨later, ⟨⟩⟩, k', hlater, hend⟩ := GraphM.bind_eq_ok hrest
    cases hend
    have hlast : inOrder (check m RootEntity.analyser config) (rest ++ [site]) () k = _ := ih hlater
    rw [List.cons_append, checkEach, inOrder, GraphM.bind_of_eq_ok hfirst]
    dsimp only
    rw [GraphM.bind_of_eq_ok hlast]
    rfl

/-- What is said about sites that are checked from the start, site by site. -/
def messagesEach (m : TypeModel) (config : CheckConfig) (sites : List CallSite) :
    Except MissingId (List (List String)) :=
  (checkEach m RootEntity.analyser config sites () Graph.empty).map
    fun ((each, _), _) => each.map (·.map (·.message))

theorem messages_of_run {m : TypeModel} {config : CheckConfig} {sites : List CallSite}
    {messages : List (List String)} {each : List Diagnostics} {g : Graph}
    (hmessages : messagesEach m config sites = .ok messages)
    (hrun : checkEach m RootEntity.analyser config sites () Graph.empty = .ok ((each, ()), g)) :
    each.map (·.map (·.message)) = messages := by
  rw [messagesEach, hrun] at hmessages
  exact Except.ok.inj hmessages

/-- What is said last is what is said about the last site. -/
theorem messages_of_last {m : TypeModel} {config : CheckConfig} {sites : List CallSite}
    {site : CallSite} {messages : List (List String)} {each : List Diagnostics}
    {found : Diagnostics} {g g₁ : Graph}
    (hmessages : messagesEach m config (sites ++ [site]) = .ok messages)
    (hsites : checkEach m RootEntity.analyser config sites () Graph.empty = .ok ((each, ()), g))
    (hsite : check m RootEntity.analyser config site () g = .ok ((found, ()), g₁)) :
    messages.getLast? = some (found.map (·.message)) := by
  rw [← messages_of_run hmessages (checkEach_concat hsites hsite), List.map_append]
  exact List.getLast?_concat

end Checker

end EntityQuery
