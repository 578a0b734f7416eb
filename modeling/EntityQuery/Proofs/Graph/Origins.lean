import Mathlib
import EntityQuery.Proofs.Graph.Growth
/-!
# Where kept answers come from

An answer that a graph keeps was found by the walk of its path on an earlier graph, when other
entities and links were known. `g.Traces g'` says so of two graphs: what `g'` keeps was kept by `g`
already, or there is a graph in between on which a walk found it. Facts about kept answers are read
off that walk, however long ago it was.

Results:
* `Finds.keeps`: the walk of a path leaves the answers to that path alone.
* `traces_covers`, `LeadsTo.traces`: every lookup, and so every history, leaves a trace.
* `LeadsTo.recalls`: every kept answer of a graph that grew from nothing was found by a walk.
-/
namespace EntityQuery

/-! ## What a walk leaves alone -/

/-- Answers to paths of `n` segments or more are the same in both graphs. -/
def Graph.SameAnswers (n : Nat) (g g' : Graph) : Prop :=
  ∀ (id : EntityId) (path : Path), n ≤ path.length → g'.kept id path = g.kept id path

instance (n : Nat) : IsPreorder Graph (Graph.SameAnswers n) where
  refl _ _ _ _ := rfl
  trans _ _ _ h h' id path hn := (h' id path hn).trans (h id path hn)

theorem entityForType_sameAnswers (m : TypeModel) (ty : TypeId) :
    Moves (Graph.SameAnswers 0) (entityForType m ty) := by
  intro g g' id h
  rcases entityForType_eq_ok h with ⟨-, rfl⟩ | ⟨e, hd, -, rfl⟩
  · exact refl_of (Graph.SameAnswers 0) g'
  · intro i path _
    exact Graph.kept_build (Graph.describeEntity_fields hd).2.2.2.1 i path

theorem resolveEntity_sameAnswers (m : TypeModel) (name : String) :
    Moves (Graph.SameAnswers 0) (resolveEntity m name) := by
  intro g g' answer h
  rcases resolveEntity_eq_ok h with ⟨-, rfl⟩ | ⟨-, g₁, rfl, ⟨-, -, rfl⟩ | ⟨ty, id, -, -, he⟩⟩
  · exact refl_of (Graph.SameAnswers 0) g'
  · exact fun _ _ _ => rfl
  · exact fun i path hn => entityForType_sameAnswers m ty he i path hn

theorem entitiesForTypes_sameAnswers (m : TypeModel) (tys : List TypeId) :
    Moves (Graph.SameAnswers 0) (entitiesForTypes m tys) := by
  induction tys with
  | nil => exact Moves.pure []
  | cons ty rest ih =>
    exact Moves.bind (entityForType_sameAnswers m ty) fun id => Moves.bind ih fun _ => Moves.pure _

theorem componentFor_sameAnswers (m : TypeModel) (ty : TypeId) (inherited : Access) :
    Moves (Graph.SameAnswers 0) (componentFor m ty inherited) :=
  componentFor_moves (fun _ _ _ _ _ _ _ => rfl) m ty inherited

/-- What is asked on the way is shorter than the path. -/
theorem pathType_sameAnswers (m : TypeModel) (fallback : Bool) (path : Path)
    (owner above : String) (ty : TypeId) (access : Access) :
    Moves (Graph.SameAnswers path.length) (pathType m fallback path owner above ty access) := by
  refine pathType_moves ?_ ?_ path ?_ owner above ty access
  · intro name g g' answer h id p _
    exact resolveEntity_sameAnswers m name h id p (Nat.zero_le _)
  · intro ty inherited g g' c h id p _
    exact componentFor_sameAnswers m ty inherited h id p (Nat.zero_le _)
  · intro rest hlt g g₁ id a _ hsame i p hp
    have hne : p ≠ rest := by
      rintro rfl
      omega
    rw [Graph.kept_setPathType, if_neg (fun h => hne h.2.1)]
    exact hsame i p hp

namespace Graph

/-- An answer that was found takes the place of no other. -/
theorem Finds.keeps {m : TypeModel} {fallback : Bool} {g g₁ : Graph} {id : EntityId} {path : Path}
    {a : Option PropertyType} (h : g.Finds m fallback g₁ id path a) :
    g₁.Keeps (g₁.setPathType id path a) := by
  obtain ⟨e, -, hw⟩ := h.walk
  have hsame := pathType_sameAnswers m fallback path _ _ _ _ hw id path (Nat.le_refl _)
  exact (Keeps.refl g₁).setPathType (hsame.trans h.unasked) a

/-! ## Traces -/

/-- Every answer that `g'` keeps and `g` does not was found by a walk in between. -/
structure Traces (m : TypeModel) (fallback : Bool) (g g' : Graph) : Prop where
  keeps : g.Keeps g'
  consistent : g.Consistent m → g'.Consistent m
  kept : ∀ {id : EntityId} {path : Path} {a : Option PropertyType}, g.Consistent m →
    g'.kept id path = some a → g.kept id path = some a ∨ ∃ j j' : Graph, g.Keeps j ∧
      j.Consistent m ∧ j.Finds m fallback j' id path a ∧ (j'.setPathType id path a).Keeps g'

namespace Traces

variable {m : TypeModel} {fallback : Bool} {g g₁ g' : Graph}

theorem refl (g : Graph) : g.Traces m fallback g := ⟨.refl g, id, fun _ h => .inl h⟩

theorem trans (h : g.Traces m fallback g₁) (h' : g₁.Traces m fallback g') :
    g.Traces m fallback g' where
  keeps := h.keeps.trans h'.keeps
  consistent := fun hg => h'.consistent (h.consistent hg)
  kept := by
    intro id path a hg hk
    rcases h'.kept (h.consistent hg) hk with hk | ⟨j, j', hj, hcon, hfinds, hlater⟩
    · rcases h.kept hg hk with hk | ⟨j, j', hj, hcon, hfinds, hlater⟩
      · exact .inl hk
      · exact .inr ⟨j, j', hj, hcon, hfinds, hlater.trans h'.keeps⟩
    · exact .inr ⟨j, j', h.keeps.trans hj, hcon, hfinds, hlater⟩

instance (m : TypeModel) (fallback : Bool) : IsPreorder Graph (Traces m fallback) where
  refl := refl
  trans _ _ _ := trans

/-- A lookup that enters no answers leaves a trace. -/
theorem of_sameAnswers (hkeeps : g.Keeps g') (hcon : g.Consistent m → g'.Consistent m)
    (hsame : g.SameAnswers 0 g') : g.Traces m fallback g' where
  keeps := hkeeps
  consistent := hcon
  kept := fun _ hk => .inl ((hsame _ _ (Nat.zero_le _)).symm.trans hk)

end Traces

end Graph

section
variable {m : TypeModel} (hm : m.Accepted) (fallback : Bool)
include hm

theorem resolveEntity_traces (name : String) :
    Moves (Graph.Traces m fallback) (resolveEntity m name) := fun _ _ _ h =>
  .of_sameAnswers (resolveEntity_keeps m name h)
    (fun hg => (((Account.free_maintains hm fallback).resolve name hg).of_eq_ok h).1)
    (resolveEntity_sameAnswers m name h)

theorem componentFor_traces (ty : TypeId) (inherited : Access) :
    Moves (Graph.Traces m fallback) (componentFor m ty inherited) := by
  intro g g' c h
  have hrun : Request.run m fallback (.component ty inherited) g = .ok (.component c, g') :=
    GraphM.map_of_eq_ok h _
  have hty : ty ∈ m.ids := Request.valid_of_run_eq_ok hm hrun
  exact .of_sameAnswers (componentFor_moves Graph.Keeps.setComponent m ty inherited h)
    (fun hg => (((Account.free_maintains hm fallback).componentFor_gives hm hty inherited
      hg).of_eq_ok h).1) (componentFor_sameAnswers m ty inherited h)

theorem traces_covers : Covers m fallback (Graph.Traces m fallback) where
  name := resolveEntity_traces hm fallback
  component := componentFor_traces hm fallback
  all := fun _ _ _ h => .of_sameAnswers (entitiesForTypes_keeps m _ h)
    (fun hg => (((Account.free_maintains hm fallback).resolveAll hg).of_eq_ok h).1)
    (entitiesForTypes_sameAnswers m _ h)
  answer := by
    intro g g₁ id path a hfinds htraces
    refine ⟨htraces.keeps.setPathType hfinds.unasked a, fun hg => ?_, fun {i p b} hg hk => ?_⟩
    · obtain ⟨e, he, -⟩ := hfinds.walk
      exact (((Account.free_maintains hm fallback).exactPropertyType_gives hm
        (Account.free_closed hm) path hg (Graph.builtTypes_getElem? he)).of_eq_ok
        hfinds.exactPropertyType_eq).1
    · rw [Graph.kept_setPathType] at hk
      split at hk
      · rename_i hthis
        obtain ⟨rfl, rfl, -⟩ := hthis
        obtain rfl := Option.some.inj hk
        exact .inr ⟨g, g₁, .refl g, hg, hfinds, .refl _⟩
      · rcases htraces.kept hg hk with hk | ⟨j, j', hj, hcon, hfound, hlater⟩
        · exact .inl hk
        · exact .inr ⟨j, j', hj, hcon, hfound, hlater.trans hfinds.keeps⟩
  collection := by
    intro g g₁ role c hnone hnone₁ hrun htraces
    refine ⟨htraces.keeps.setCollection hnone c, fun hg => ?_, fun hg hk => ?_⟩
    · exact (((Account.free_maintains hm fallback).resolveCollection_gives hm
        (Account.free_closed hm) role hg).of_eq_ok hrun).1
    · rcases htraces.kept hg hk with hk | ⟨j, j', hj, hcon, hfound, hlater⟩
      · exact .inl hk
      · exact .inr ⟨j, j', hj, hcon, hfound,
          hlater.trans ((Graph.Keeps.refl g₁).setCollection hnone₁ c)⟩

end

namespace Graph

theorem LeadsTo.traces {m : TypeModel} {fallback : Bool} {g g' : Graph}
    (h : g.LeadsTo m fallback g') (hm : m.Accepted) : g.Traces m fallback g' := by
  obtain ⟨qs, answers, hrun⟩ := h
  exact (traces_covers hm fallback).runAll qs hrun

/-- Every kept answer was found by a walk, on a consistent graph. -/
def Recalls (m : TypeModel) (fallback : Bool) (g : Graph) : Prop :=
  ∀ (id : EntityId) (path : Path) (a : Option PropertyType), g.kept id path = some a →
    ∃ j j' : Graph, j.Consistent m ∧ j.Finds m fallback j' id path a ∧
      (j'.setPathType id path a).Keeps g

theorem recalls_of_unasked (m : TypeModel) (fallback : Bool) {g : Graph}
    (h : ∀ id path, g.kept id path = none) : g.Recalls m fallback := by
  intro id path a hk
  rw [h id path] at hk
  cases hk

theorem Traces.recalls {m : TypeModel} {fallback : Bool} {g g' : Graph}
    (h : g.Traces m fallback g') (hg : g.Consistent m) (hrecalls : g.Recalls m fallback) :
    g'.Recalls m fallback := by
  intro id path a hk
  rcases h.kept hg hk with hold | ⟨j, j', -, hj, hfinds, hlater⟩
  · obtain ⟨j, j', hj, hfinds, hlater⟩ := hrecalls id path a hold
    exact ⟨j, j', hj, hfinds, hlater.trans h.keeps⟩
  · exact ⟨j, j', hj, hfinds, hlater⟩

theorem LeadsTo.recalls {m : TypeModel} {fallback : Bool} {g : Graph}
    (h : Graph.empty.LeadsTo m fallback g) (hm : m.Accepted) : g.Recalls m fallback :=
  (h.traces hm).recalls (empty_consistent m)
    (recalls_of_unasked m fallback fun id path => by simp [kept, Graph.empty])

end Graph

end EntityQuery
