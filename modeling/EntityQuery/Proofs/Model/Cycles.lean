import Mathlib
import EntityQuery.Proofs.Model.Validation
/-!
# Cycles of superclasses

Only types of the model have superclasses, and there are finitely many, so a chain that never ends
comes to some type twice: it runs into a cycle. The check of a model fails for the first type with
such a chain. What it says of that type, that it is its own superclass, is true of the types on the
cycle; the type that is named may be one below them, if it is listed before them all.

Results:
* `neverEnds_iff_runsInto`: chains without an end are those that run into a cycle.
* `FirstInto.self_iff`: when the first type with such a chain is on the cycle itself.
* `checkAcyclic_eq_error_iff_firstInto`: the type that a failed check names, whatever the order.
* `reported_cycle`: the same for declarations and for tables, be their rows sorted or not.
* `reported_cycle_leaf`: the type that is named need not be on the cycle.
-/
namespace EntityQuery

open Relation

/-- The links from `ty` on lead to `loop`, and from there back to it. -/
def RunsInto (link : TypeId → TypeId → Prop) (ty loop : TypeId) : Prop :=
  ReflTransGen link ty loop ∧ TransGen link loop loop

/-- The links from `ty` on run into a cycle, and from none of the types before it they do. -/
structure FirstInto (link : TypeId → TypeId → Prop) (before : List TypeId) (ty : TypeId) : Prop where
  runs : ∃ loop, RunsInto link ty loop
  first : ∀ other ∈ before, ∀ loop, ¬ RunsInto link other loop

variable {link : TypeId → TypeId → Prop} {ty : TypeId}

/-- Among finitely many types with links, a chain that never ends comes to one of them twice. -/
theorem NeverEnds.runsInto {ids : List TypeId} (hown : ∀ ty sup, link ty sup → ty ∈ ids)
    (h : NeverEnds link ty) : ∃ loop, RunsInto link ty loop := by
  obtain ⟨chain, rfl, hlink⟩ := h
  have hbetween {a b : Nat} (hab : a < b) : TransGen link (chain a) (chain b) :=
    Nat.rel_of_forall_rel_succ_of_lt (TransGen link) (fun n => .single (hlink n)) hab
  let place (n : Nat) : {ty // ty ∈ ids} := ⟨chain n, hown _ _ (hlink n)⟩
  obtain ⟨a, b, hne, hsame⟩ := Finite.exists_ne_map_eq_of_infinite place
  have htwice : chain a = chain b := congrArg Subtype.val hsame
  have hback : TransGen link (chain a) (chain a) := by
    rcases Nat.lt_or_gt_of_ne hne with hab | hba
    · have h := hbetween hab
      rwa [← htwice] at h
    · have h := hbetween hba
      rwa [← htwice] at h
  refine ⟨chain a, ?_, hback⟩
  rcases Nat.eq_zero_or_pos a with rfl | ha
  · exact .refl
  · exact (hbetween ha).to_reflTransGen

theorem RunsInto.neverEnds {loop : TypeId} (h : RunsInto link ty loop) : NeverEnds link ty := by
  obtain ⟨hto, hback⟩ := h
  rw [neverEnds_iff_not_acc]
  intro hacc
  induction hto using ReflTransGen.head_induction_on with
  | refl => exact not_self_of_acc hacc hback
  | head hstep _ ih => exact ih (hacc.inv hstep)

theorem neverEnds_iff_runsInto {ids : List TypeId} (hown : ∀ ty sup, link ty sup → ty ∈ ids) :
    NeverEnds link ty ↔ ∃ loop, RunsInto link ty loop := by
  constructor
  · exact NeverEnds.runsInto hown
  · rintro ⟨loop, hloop⟩
    exact hloop.neverEnds

/-- A type on a cycle runs into it. -/
theorem RunsInto.of_self (h : TransGen link ty ty) : RunsInto link ty ty := ⟨.refl, h⟩

/-- The first type that runs into a cycle is on it unless all types of the cycle come later. -/
theorem FirstInto.self_iff {before : List TypeId} (h : FirstInto link before ty) :
    TransGen link ty ty ↔ ∃ loop, (loop ∈ before ∨ loop = ty) ∧ RunsInto link ty loop := by
  constructor
  · intro hself
    exact ⟨ty, .inr rfl, .of_self hself⟩
  · rintro ⟨loop, hbefore | rfl, hloop⟩
    · exact absurd (.of_self hloop.2) (h.first loop hbefore loop)
    · exact hloop.2

/-- The same where handles are the places in a list. -/
theorem FirstInto.self_iff_le (h : FirstInto link (List.range ty) ty) :
    TransGen link ty ty ↔ ∃ loop ≤ ty, RunsInto link ty loop := by
  rw [h.self_iff]
  simp only [List.mem_range, Nat.le_iff_lt_or_eq]

theorem firstInto_iff {ids before : List TypeId} (hown : ∀ ty sup, link ty sup → ty ∈ ids) :
    FirstInto link before ty ↔
      NeverEnds link ty ∧ ∀ other ∈ before, ¬ NeverEnds link other := by
  simp only [neverEnds_iff_runsInto hown, not_exists]
  exact ⟨fun h => ⟨h.runs, h.first⟩, fun h => ⟨h.1, h.2⟩⟩

/-- The check names the first of the handles, in whatever order they are listed and however often,
from which the links run into a cycle. -/
theorem TypeModel.checkAcyclic_eq_error_iff_firstInto {m : TypeModel}
    (hown : ∀ ty sup, m.Link ty sup → ty ∈ m.ids) {n : String} :
    m.checkAcyclic = .error (.cyclicSuperclass n) ↔ ∃ before ty after t,
      m.ids = before ++ ty :: after ∧ FirstInto m.Link before ty ∧ m.info? ty = some t ∧
        t.name = n := by
  rw [checkAcyclic_eq_error_iff hown]
  simp only [firstInto_iff hown, ModelError.cyclicSuperclass.injEq]
  constructor
  · rintro ⟨ty, t, ⟨hty, before, after, hids, hbefore⟩, ht, hname⟩
    exact ⟨before, ty, after, t, hids, ⟨hty, hbefore⟩, ht, hname.symm⟩
  · rintro ⟨before, ty, after, t, hids, ⟨hty, hbefore⟩, ht, hname⟩
    exact ⟨ty, t, ⟨hty, before, after, hids, hbefore⟩, ht, hname.symm⟩

namespace Declaration

/-- Only what is declared has a superclass. -/
theorem LinksTo.mem_range {ds : List Declaration} (i j : Nat) (h : LinksTo ds i j) :
    i ∈ List.range ds.length := by
  obtain ⟨d, _, hd, -⟩ := h
  rw [List.mem_range]
  exact (List.getElem?_eq_some_iff.mp hd).1

theorem isFirst_neverEnds_iff {ds : List Declaration} {i : Nat} :
    IsFirst (NeverEnds (LinksTo ds)) i ↔ FirstInto (LinksTo ds) (List.range i) i := by
  rw [firstInto_iff LinksTo.mem_range]
  simp only [IsFirst, List.mem_range]

end Declaration

open Declaration in
/-- A failed check stands for a cycle. Declarations with different names, and the rows of a table in
any order, are refused just if the links from some type run into a cycle, and the first such type is
named. It is its own superclass itself just if not all types of the cycle are listed behind it. -/
theorem reported_cycle (ds : List Declaration) (t : Table) (n : String) :
    (Declared.build ds = .error (.cyclicSuperclass n) ↔ (∀ j, ¬ Repeats ds j) ∧
      ∃ i d, FirstInto (LinksTo ds) (List.range i) i ∧ ds[i]? = some d ∧ d.name = n ∧
        (TransGen (LinksTo ds) i i ↔ ∃ loop ≤ i, RunsInto (LinksTo ds) i loop)) ∧
    (t.checked = .error (.cyclicSuperclass n) ↔
      ∃ before ty after info, t.toModel.ids = before ++ ty :: after ∧
        FirstInto t.toModel.Link before ty ∧ t.toModel.info? ty = some info ∧ info.name = n ∧
        (TransGen t.toModel.Link ty ty ↔
          ∃ loop, (loop ∈ before ∨ loop = ty) ∧ RunsInto t.toModel.Link ty loop)) := by
  constructor
  · simp only [Declared.build_eq_error_iff, isFirst_neverEnds_iff, ModelError.cyclicSuperclass.injEq,
      reduceCtorEq, and_false, exists_false, false_or]
    refine and_congr_right fun _ => exists_congr fun i => exists_congr fun d =>
      and_congr_right fun hfirst => and_congr_right fun _ => ?_
    rw [eq_comm, and_iff_left hfirst.self_iff_le]
  · rw [Table.checked_eq_error_iff,
      TypeModel.checkAcyclic_eq_error_iff_firstInto fun _ _ => Table.mem_ids_of_link]
    refine exists_congr fun before => exists_congr fun ty => exists_congr fun after =>
      exists_congr fun info => and_congr_right fun _ => and_congr_right fun hfirst => ?_
    exact and_congr_right fun _ => (and_iff_left hfirst.self_iff).symm

/-- A type that is its own superclass, and in front of it one below. -/
def leafAtLoop : List Declaration := [⟨"Leaf", some "Loop", [], []⟩, ⟨"Loop", some "Loop", [], []⟩]

open Declaration in
/-- Named is the leaf, which no link leads to. -/
theorem reported_cycle_leaf : Declared.build leafAtLoop = .error (.cyclicSuperclass "Leaf") ∧
    ∀ i d, leafAtLoop[i]? = some d → d.name = "Leaf" → ¬ TransGen (LinksTo leafAtLoop) i i := by
  refine ⟨by decide +kernel, fun i d hd hname hself => ?_⟩
  obtain ⟨last, -, e, name, he, hname', hto⟩ := TransGen.tail'_iff.mp hself
  have hsuper : ∀ e ∈ leafAtLoop, e.superclass = some "Loop" := by decide
  obtain rfl : name = "Loop" :=
    Option.some.inj (hname'.symm.trans (hsuper e (List.mem_of_getElem? he)))
  obtain rfl : 1 = i := Option.some.inj hto
  obtain rfl : ⟨"Loop", some "Loop", [], []⟩ = d := Option.some.inj hd
  simp at hname

end EntityQuery
