import Mathlib
import EntityQuery.Model.Table
import EntityQuery.Proofs.Model.Chains
/-!
# Searching a table

Halving finds no row that is not there, whatever the order of the rows, and every row if their
handles increase. So what a sorted table knows of a handle is what stands in its row, and its links
can be read off the rows.

Results:
* `mem_of_search`: what halving finds is in the table.
* `search_eq_some_iff`: in a sorted table it finds exactly the rows.
* `link_iff`: the links of a sorted table.
-/
namespace EntityQuery

namespace Table

/-- Every handle is less than those in the rows behind it. -/
def Sorted (t : Table) : Prop := (t.rows.map (·.1)).Pairwise (· < ·)

instance (t : Table) : Decidable t.Sorted :=
  inferInstanceAs (Decidable ((t.rows.map (·.1)).Pairwise (· < ·)))

/-- The row of `ty` has `sup` for its superclass. -/
def LinksTo (t : Table) (ty sup : TypeId) : Prop :=
  ∃ info, (ty, info) ∈ t.rows ∧ info.superclass = some sup

/-! ## Halving -/

theorem mem_of_search {rows : List (TypeId × TypeInfo)} {ty : TypeId} {info : TypeInfo}
    (h : search rows ty = some info) : (ty, info) ∈ rows := by
  fun_induction search rows ty with
  | case1 rows hshort =>
    obtain ⟨row, hrow, rfl⟩ := Option.map_eq_some_iff.mp h
    obtain ⟨hhead, hty⟩ := Option.filter_eq_some_iff.mp hrow
    obtain rfl : row.1 = ty := by simpa using hty
    exact List.mem_of_mem_head? hhead
  | case2 rows hlong half hlt ih => exact List.mem_of_mem_take (ih h)
  | case3 rows hlong half hge ih => exact List.mem_of_mem_drop (ih h)

theorem handle_lt {rows : List (TypeId × TypeInfo)} (hrows : (rows.map (·.1)).Pairwise (· < ·))
    {i j : Nat} (hij : i < j) (hj : j < rows.length) : (rows[i]).1 < (rows[j]).1 := by
  have h := List.pairwise_iff_getElem.mp hrows i j (by simp; omega) (by simpa using hj) hij
  simpa using h

theorem search_of_mem {rows : List (TypeId × TypeInfo)} {ty : TypeId} {info : TypeInfo}
    (hrows : (rows.map (·.1)).Pairwise (· < ·)) (h : (ty, info) ∈ rows) :
    search rows ty = some info := by
  fun_induction search rows ty with
  | case1 rows hshort =>
    match rows with
    | [row] =>
      obtain rfl := List.mem_singleton.mp h
      simp
    | _ :: _ :: _ => simp at hshort
  | case2 rows hlong half hlt ih =>
    refine ih (hrows.sublist ((List.take_sublist _ _).map _)) ?_
    obtain ⟨i, hi, hrow⟩ := List.getElem_of_mem h
    -- from the middle on the handles are too large
    have hfront : i < half := by
      by_contra hge
      rcases Nat.lt_or_eq_of_le (Nat.le_of_not_lt hge) with hless | rfl
      · have := handle_lt hrows hless hi
        rw [hrow] at this
        exact Nat.lt_asymm hlt this
      · simp [hrow] at hlt
    rw [List.mem_take_iff_getElem]
    exact ⟨i, by omega, hrow⟩
  | case3 rows hlong half hge ih =>
    refine ih (hrows.sublist ((List.drop_sublist _ _).map _)) ?_
    obtain ⟨i, hi, hrow⟩ := List.getElem_of_mem h
    -- before the middle they are too small
    have hback : half ≤ i := by
      by_contra hlt
      have := handle_lt hrows (Nat.lt_of_not_le hlt) (show half < rows.length by omega)
      rw [hrow] at this
      exact hge this
    rw [List.mem_drop_iff_getElem]
    exact ⟨i - half, by omega, by simpa [Nat.add_sub_cancel' hback] using hrow⟩

variable {t : Table} {ty : TypeId} {info : TypeInfo}

theorem search_eq_some_iff (ht : t.Sorted) : search t.rows ty = some info ↔ (ty, info) ∈ t.rows :=
  ⟨mem_of_search, search_of_mem ht⟩

/-! ## What a table knows -/

/-- Only the types of a table have superclasses in it. -/
theorem mem_ids_of_link {sup : TypeId} (h : t.toModel.Link ty sup) : ty ∈ t.toModel.ids := by
  obtain ⟨info, hinfo, -⟩ := Option.bind_eq_some_iff.mp h
  exact List.mem_map_of_mem (mem_of_search hinfo)

theorem link_iff (ht : t.Sorted) (ty sup : TypeId) : t.toModel.Link ty sup ↔ t.LinksTo ty sup := by
  simp only [TypeModel.Link, TypeModel.superclass?, toModel, Option.bind_eq_some_iff,
    search_eq_some_iff ht, LinksTo]

theorem checked_eq_ok_iff {t' : Table} :
    t.checked = .ok t' ↔ t.toModel.checkAcyclic = .ok () ∧ t' = t := by
  unfold checked
  cases h : t.toModel.checkAcyclic with
  | error e => simp [bind, Except.bind]
  | ok u => simp [bind, Except.bind, pure, Except.pure, eq_comm]

theorem checked_eq_error_iff {e : ModelError} :
    t.checked = .error e ↔ t.toModel.checkAcyclic = .error e := by
  unfold checked
  cases h : t.toModel.checkAcyclic with
  | error e => simp [bind, Except.bind]
  | ok u => simp [bind, Except.bind, pure, Except.pure]

end Table

end EntityQuery
