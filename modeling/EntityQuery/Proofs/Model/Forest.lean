import Mathlib
import EntityQuery.Proofs.Model.Validation
/-!
# Subtyping is a forest

In a model that passed its check every chain of superclasses ends, also where the last link leads
out of the model. A search upwards that has no limit of its own therefore ends for every two handles,
and its answer is the one of the walk that is cut after as many steps as there are types. Subtyping
is an order, and the supertypes of one type are a chain.

Results:
* `climb_iff`: the unlimited search ends, with the answer of the bounded one.
* `subtyping_forest`: the laws of subtyping in a model that passed its check.
-/
namespace EntityQuery

namespace TypeModel

/-- A model from declarations that were accepted, or of a table that was. -/
inductive Validated : TypeModel → Prop
  | declared {ds : List Declaration} {m : Declared} (h : Declared.build ds = .ok m) :
    Validated m.toModel
  | table {t checked : Table} (h : t.checked = .ok checked) : Validated checked.toModel

/-- The search for `sup` that has come to some type, or past the last one, ends with an answer. It
goes up as long as there is a superclass. -/
inductive Climb (m : TypeModel) (sup : TypeId) : Option TypeId → Bool → Prop
  | found : Climb m sup (some sup) true
  | top : Climb m sup none false
  | up {ty : TypeId} {answer : Bool} (hne : ty ≠ sup)
    (h : Climb m sup (m.superclass? ty) answer) : Climb m sup (some ty) answer

variable {m : TypeModel}

/-- The search takes its steps in one way only. -/
theorem Climb.unique {sup : TypeId} {at? : Option TypeId} {a b : Bool} (ha : m.Climb sup at? a)
    (hb : m.Climb sup at? b) : a = b := by
  induction ha with
  | found =>
    cases hb with
    | found => rfl
    | up hne _ => exact absurd rfl hne
  | top =>
    cases hb
    rfl
  | up hne _ ih =>
    cases hb with
    | found => exact absurd rfl hne
    | up _ hb => exact ih hb

/-- By induction on the chain above `sub`, which ends. -/
theorem Grounded.climb_isSubtype (hm : m.Grounded) (sub sup : TypeId) :
    m.Climb sup (some sub) (m.isSubtype sub sup) := by
  induction acc_of_not_neverEnds (hm.ends sub) with
  | intro sub _ ih =>
    by_cases hsub : sub = sup
    · subst hsub
      rw [isSubtype_refl]
      exact .found
    · refine .up hsub ?_
      cases hs : m.superclass? sub with
      | none =>
        have hno : m.isSubtype sub sup = false := by
          rw [Bool.eq_false_iff, Ne, hm.isSubtype_iff]
          intro h
          obtain rfl | ⟨next, hlink, -⟩ := h.cases_head
          · exact hsub rfl
          · cases hs.symm.trans hlink
        rw [hno]
        exact .top
      | some next =>
        have hsame : m.isSubtype sub sup = m.isSubtype next sup := by
          rw [Bool.eq_iff_iff, hm.isSubtype_iff, hm.isSubtype_iff]
          constructor
          · intro h
            obtain rfl | ⟨next', hlink, h⟩ := h.cases_head
            · exact absurd rfl hsub
            · rwa [link_rightUnique hs hlink]
          · exact .head hs
        rw [hsame]
        exact ih next hs

theorem Grounded.climb_iff (hm : m.Grounded) (sub sup : TypeId) (answer : Bool) :
    m.Climb sup (some sub) answer ↔ answer = m.isSubtype sub sup := by
  have h := hm.climb_isSubtype sub sup
  exact ⟨fun h' => h'.unique h, fun heq => heq ▸ h⟩

/-! ## The laws -/

/-- The check that a model has passed is enough. -/
theorem Validated.grounded (h : m.Validated) : m.Grounded := by
  cases h with
  | declared hbuild => exact (Declared.build_accepted hbuild).grounded
  | table hchecked =>
    obtain ⟨hacyclic, rfl⟩ := Table.checked_eq_ok_iff.mp hchecked
    exact grounded_of_checkAcyclic (fun _ _ => Table.mem_ids_of_link) hacyclic

/-- In a model that passed its check the search upwards ends for every two handles, whether or not
they are of the model. Subtyping is reflexive, transitive and antisymmetric, and of two supertypes of
one type the one is a supertype of the other. -/
theorem subtyping_forest (h : m.Validated) :
    (∀ sub sup answer, m.Climb sup (some sub) answer ↔ answer = m.isSubtype sub sup) ∧
    (∀ a, m.isSubtype a a = true) ∧
    (∀ a b c, m.isSubtype a b = true → m.isSubtype b c = true → m.isSubtype a c = true) ∧
    (∀ a b, m.isSubtype a b = true → m.isSubtype b a = true → a = b) ∧
    ∀ a b c, m.isSubtype a b = true → m.isSubtype a c = true →
      m.isSubtype b c = true ∨ m.isSubtype c b = true := by
  have hm := h.grounded
  refine ⟨hm.climb_iff, isSubtype_refl, ?_, ?_, ?_⟩
  · intro a b c hab hbc
    exact hm.isSubtype_trans hab hbc
  · intro a b hab hba
    exact hm.isSubtype_antisymm hab hba
  · intro a b c hab hac
    exact hm.isSubtype_total hab hac

/-- The chain of the leaf leads out of the table, and the search goes along with it. -/
theorem subtyping_forest_open : openTable.toModel.Validated ∧ 8 ∉ openTable.toModel.ids ∧
    openTable.toModel.Climb 8 (some 3) true ∧ openTable.toModel.isSubtype 3 8 = true := by
  have hsorted : openTable.Sorted := by decide
  have hm : openTable.toModel.Validated :=
    .table ((Table.checked_eq_ok_iff_of_sorted hsorted).mpr openTable_ends)
  obtain ⟨hclimb, -, htrans, -⟩ := subtyping_forest hm
  have hleaf : openTable.toModel.superclass? 3 = some 5 :=
    (Table.link_iff hsorted 3 5).mpr ⟨_, List.mem_cons_self, rfl⟩
  have hbranch : openTable.toModel.superclass? 5 = some 8 :=
    (Table.link_iff hsorted 5 8).mpr ⟨_, List.mem_cons_of_mem _ List.mem_cons_self, rfl⟩
  have h35 := (hclimb 3 5 true).mp (.up (by decide) (by rw [hleaf]; exact .found))
  have h58 := (hclimb 5 8 true).mp (.up (by decide) (by rw [hbranch]; exact .found))
  have h38 := htrans 3 5 8 h35.symm h58.symm
  exact ⟨hm, by decide, (hclimb 3 8 true).mpr h38.symm, h38⟩

end TypeModel

end EntityQuery
