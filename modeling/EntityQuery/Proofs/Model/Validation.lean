import Mathlib
import EntityQuery.Proofs.Model.Hierarchy
import EntityQuery.Proofs.Model.Tables
/-!
# Which declarations make a model

A list of declarations is refused for the first name that repeats an earlier one, or else for the
first type whose chain of superclasses never ends, and for nothing else. Names and links are said
of the list alone here; the two indexes that `build` fills on the way are shown to hold the same.

Results:
* `resolveIn_eq`: the two indexes together find what the list itself says.
* `indexNames_eq_error_iff`: the first repeated name stops the numbering.
* `link_unchecked_iff`: the links of a model from declarations.
* `validation_exact`: why a list of declarations, or a table, is refused.
-/
namespace EntityQuery

namespace Declaration

/-- The number of the declaration that a name stands for: the first with that name, or else the
first with that simple name. -/
def named? (ds : List Declaration) (name : String) : Option Nat :=
  (ds.findIdx? fun d => d.name == name).or (ds.findIdx? fun d => Name.simple d.name == name)

/-- The superclass of declaration `i` is declaration `j`; a superclass that is not declared counts
as none. -/
def LinksTo (ds : List Declaration) (i j : Nat) : Prop :=
  ∃ d name, ds[i]? = some d ∧ d.superclass = some name ∧ named? ds name = some j

/-- An earlier declaration has the name of declaration `j`. -/
def Repeats (ds : List Declaration) (j : Nat) : Prop :=
  ∃ i d e, i < j ∧ ds[i]? = some d ∧ ds[j]? = some e ∧ d.name = e.name

end Declaration

namespace Declared

open Declaration

/-! ## The indexes -/

theorem lookup_indexNames_eq {ds : List Declaration} {byName : NameIndex}
    (h : indexNames ds 0 [] = .ok byName) (name : String) :
    byName.lookup name = ds.findIdx? fun d => d.name == name := by
  cases hfind : ds.findIdx? fun d => d.name == name with
  | some i =>
    obtain ⟨hlt, hname, -⟩ := List.findIdx?_eq_some_iff_getElem.mp hfind
    refine (lookup_indexNames h name i).mpr (.inr ⟨i, ds[i], ?_, ?_, ?_⟩)
    · exact List.getElem?_eq_getElem hlt
    · exact beq_iff_eq.mp hname
    · omega
  | none =>
    rw [Option.eq_none_iff_forall_ne_some]
    intro ty hty
    obtain ⟨i, d, hd, hname, -⟩ := ((lookup_indexNames h name ty).mp hty).resolve_left (by simp)
    have := List.findIdx?_eq_none_iff.mp hfind d (List.mem_of_getElem? hd)
    simp [hname] at this

theorem resolveIn_eq {ds : List Declaration} {byName : NameIndex}
    (h : indexNames ds 0 [] = .ok byName) (name : String) :
    resolveIn byName (indexSimpleNames ds 0 []) name = named? ds name := by
  have hsimple := lookup_indexSimpleNames ds 0 [] name
  simp only [List.lookup_nil, Option.none_or, Nat.zero_add, Option.map_id'] at hsimple
  rw [resolveIn, Option.orElse_eq_orElse, Option.orElse_eq_or, lookup_indexNames_eq h, hsimple,
    named?]

/-- The name of declaration `j` is in the index already, or an earlier declaration has it. -/
def Taken (index : NameIndex) (ds : List Declaration) (j : Nat) : Prop :=
  ∃ e, ds[j]? = some e ∧
    ((index.lookup e.name).isSome ∨ ∃ i d, i < j ∧ ds[i]? = some d ∧ d.name = e.name)

theorem taken_nil_iff (ds : List Declaration) (j : Nat) : Taken [] ds j ↔ Repeats ds j := by
  constructor
  · rintro ⟨e, he, h | ⟨i, d, hij, hd, hname⟩⟩
    · simp at h
    · exact ⟨i, d, e, hij, hd, he, hname⟩
  · rintro ⟨i, d, e, hij, hd, he, hname⟩
    exact ⟨e, he, .inr ⟨i, d, hij, hd, hname⟩⟩

theorem taken_zero_iff (index : NameIndex) (d : Declaration) (ds : List Declaration) :
    Taken index (d :: ds) 0 ↔ (index.lookup d.name).isSome := by
  simp [Taken]

/-- Behind a declaration, its name counts as entered. -/
theorem taken_succ_iff (index : NameIndex) (d : Declaration) (ds : List Declaration) (next j : Nat) :
    Taken index (d :: ds) (j + 1) ↔ Taken ((d.name, next) :: index) ds j := by
  simp only [Taken, List.getElem?_cons_succ, List.lookup_cons]
  refine exists_congr fun e => and_congr_right fun he => ?_
  by_cases hname : e.name = d.name
  · refine iff_of_true (.inr ⟨0, d, by omega, rfl, hname.symm⟩) (.inl (by simp [hname]))
  · rw [beq_false_of_ne hname]
    refine or_congr_right ⟨?_, ?_⟩
    · rintro ⟨i, c, hij, hc, hsame⟩
      cases i with
      | zero =>
        obtain rfl : d = c := Option.some.inj hc
        exact absurd hsame.symm hname
      | succ i => exact ⟨i, c, by omega, hc, hsame⟩
    · rintro ⟨i, c, hij, hc, hsame⟩
      exact ⟨i + 1, c, by omega, hc, hsame⟩

theorem isFirst_taken_succ_iff {index : NameIndex} {d : Declaration} {ds : List Declaration}
    (hfree : ¬ (index.lookup d.name).isSome) (next j : Nat) :
    IsFirst (Taken index (d :: ds)) (j + 1) ↔ IsFirst (Taken ((d.name, next) :: index) ds) j := by
  simp only [IsFirst, taken_succ_iff index d ds next]
  refine and_congr_right fun _ => ⟨fun h i hi => ?_, fun h i hi => ?_⟩
  · rw [← taken_succ_iff]
    exact h (i + 1) (by omega)
  · cases i with
    | zero => rwa [taken_zero_iff]
    | succ i =>
      rw [taken_succ_iff index d ds next]
      exact h i (by omega)

/-- Entering names fails at the first one that is taken. By induction on the declarations: each one
enters its name for those behind it. -/
theorem indexNames_eq_error_iff {ds : List Declaration} {next : Nat} {index : NameIndex}
    {e : ModelError} : indexNames ds next index = .error e ↔
      ∃ j d, IsFirst (Taken index ds) j ∧ ds[j]? = some d ∧ e = .duplicateType d.name := by
  induction ds generalizing next index with
  | nil => simp [indexNames]
  | cons d ds ih =>
    by_cases htaken : (index.lookup d.name).isSome
    · have hfirst : IsFirst (Taken index (d :: ds)) 0 :=
        ⟨(taken_zero_iff index d ds).mpr htaken, by omega⟩
      rw [indexNames, if_pos htaken]
      constructor
      · rintro ⟨⟩
        exact ⟨0, d, hfirst, rfl, rfl⟩
      · rintro ⟨j, c, hj, hc, rfl⟩
        obtain rfl := hfirst.unique hj
        cases hc
        rfl
    · rw [indexNames, if_neg htaken, ih]
      constructor
      · rintro ⟨j, c, hj, hc, rfl⟩
        exact ⟨j + 1, c, (isFirst_taken_succ_iff htaken next j).mpr hj, hc, rfl⟩
      · rintro ⟨j, c, hj, hc, rfl⟩
        cases j with
        | zero => exact absurd ((taken_zero_iff index d ds).mp hj.1) htaken
        | succ j => exact ⟨j, c, (isFirst_taken_succ_iff htaken next j).mp hj, hc, rfl⟩

theorem exists_indexNames_eq_ok_iff {ds : List Declaration} :
    (∃ byName, indexNames ds 0 [] = .ok byName) ↔ ∀ j, ¬ Repeats ds j := by
  constructor
  · rintro ⟨byName, hok⟩ j hj
    obtain ⟨i, hi⟩ := exists_isFirst ((taken_nil_iff ds j).mpr hj)
    obtain ⟨e, he, -⟩ := hi.1
    cases hok.symm.trans (indexNames_eq_error_iff.mpr ⟨i, e, hi, he, rfl⟩)
  · intro h
    cases hnames : indexNames ds 0 [] with
    | ok byName => exact ⟨byName, rfl⟩
    | error e =>
      obtain ⟨j, -, hj, -⟩ := indexNames_eq_error_iff.mp hnames
      exact absurd ((taken_nil_iff ds j).mp hj.1) (h j)

/-! ## The model that is checked -/

/-- Numbered declarations with their superclasses found, before the chains are checked. -/
def unchecked (ds : List Declaration) (byName : NameIndex) : Declared :=
  let bySimpleName := indexSimpleNames ds 0 []
  ⟨ds.map (resolveSuperclass byName bySimpleName), byName, bySimpleName⟩

theorem build_of_indexNames {ds : List Declaration} {byName : NameIndex}
    (h : indexNames ds 0 [] = .ok byName) :
    build ds = (unchecked ds byName).toModel.checkAcyclic.map fun _ => unchecked ds byName := by
  rw [build, h]
  change Except.bind (unchecked ds byName).toModel.checkAcyclic _ = _
  cases (unchecked ds byName).toModel.checkAcyclic <;> rfl

theorem info?_unchecked (ds : List Declaration) (byName : NameIndex) (i : Nat) :
    (unchecked ds byName).toModel.info? i =
      (ds[i]?).map (resolveSuperclass byName (indexSimpleNames ds 0 [])) := by
  simp [unchecked, toModel]

theorem link_unchecked_iff {ds : List Declaration} {byName : NameIndex}
    (h : indexNames ds 0 [] = .ok byName) (i j : Nat) :
    (unchecked ds byName).toModel.Link i j ↔ LinksTo ds i j := by
  simp only [TypeModel.Link, TypeModel.superclass?, info?_unchecked, Option.bind_eq_some_iff,
    Option.map_eq_some_iff, LinksTo]
  constructor
  · rintro ⟨_, ⟨d, hd, rfl⟩, hsuper⟩
    obtain ⟨name, hname, hj⟩ := Option.bind_eq_some_iff.mp hsuper
    exact ⟨d, name, hd, hname, resolveIn_eq h name ▸ hj⟩
  · rintro ⟨d, name, hd, hname, hj⟩
    exact ⟨_, ⟨d, hd, rfl⟩, Option.bind_eq_some_iff.mpr ⟨name, hname, (resolveIn_eq h name).trans hj⟩⟩

theorem mem_ids_of_link_unchecked (ds : List Declaration) (byName : NameIndex) (i j : Nat)
    (h : (unchecked ds byName).toModel.Link i j) : i ∈ (unchecked ds byName).toModel.ids := by
  obtain ⟨t, ht, -⟩ := Option.bind_eq_some_iff.mp h
  simpa [toModel] using (List.getElem?_eq_some_iff.mp ht).1

/-- Every fault there is: a repeated name, or where there is none, a chain that never ends. -/
theorem build_eq_error_iff {ds : List Declaration} {e : ModelError} : build ds = .error e ↔
    (∃ j d, IsFirst (Repeats ds) j ∧ ds[j]? = some d ∧ e = .duplicateType d.name) ∨
      (∀ j, ¬ Repeats ds j) ∧ ∃ i d, IsFirst (NeverEnds (LinksTo ds)) i ∧ ds[i]? = some d ∧
        e = .cyclicSuperclass d.name := by
  by_cases hrepeats : ∃ j, Repeats ds j
  · obtain ⟨j, hj⟩ := hrepeats
    have hnone : ¬ ∀ j, ¬ Repeats ds j := fun h => h j hj
    have hentered := @indexNames_eq_error_iff ds 0 [] e
    simp only [isFirst_congr (taken_nil_iff ds)] at hentered
    simp only [hnone, false_and, or_false, ← hentered]
    cases hnames : indexNames ds 0 [] with
    | ok byName => exact absurd (exists_indexNames_eq_ok_iff.mp ⟨byName, hnames⟩) hnone
    | error e' =>
      rw [build, hnames]
      change (Except.error e' : Except ModelError Declared) = .error e ↔ _
      simp
  · have hnone : ∀ j, ¬ Repeats ds j := fun j hj => hrepeats ⟨j, hj⟩
    obtain ⟨byName, hnames⟩ := exists_indexNames_eq_ok_iff.mpr hnone
    have hdup : ¬ ∃ j d, IsFirst (Repeats ds) j ∧ ds[j]? = some d ∧ e = .duplicateType d.name :=
      fun ⟨j, _, hj, _⟩ => hnone j hj.1
    have hcheck := TypeModel.checkAcyclic_eq_error_iff_of_sorted (e := e)
      (mem_ids_of_link_unchecked ds byName) List.pairwise_lt_range
    simp only [info?_unchecked, isFirst_congr (neverEnds_congr (link_unchecked_iff hnames)),
      Option.map_eq_some_iff] at hcheck
    have herror : build ds = .error e ↔ (unchecked ds byName).toModel.checkAcyclic = .error e := by
      rw [build_of_indexNames hnames]
      cases (unchecked ds byName).toModel.checkAcyclic <;> simp [Except.map]
    rw [herror, hcheck, or_iff_right hdup, and_iff_right hnone]
    constructor
    · rintro ⟨i, _, hi, ⟨d, hd, rfl⟩, rfl⟩
      exact ⟨i, d, hi, hd, rfl⟩
    · rintro ⟨i, d, hi, hd, rfl⟩
      exact ⟨i, _, hi, ⟨d, hd, rfl⟩, rfl⟩

theorem exists_build_eq_ok_iff {ds : List Declaration} : (∃ m, build ds = .ok m) ↔
    (∀ j, ¬ Repeats ds j) ∧ ∀ i, ¬ NeverEnds (LinksTo ds) i := by
  constructor
  · rintro ⟨m, hok⟩
    obtain ⟨byName, hnames, rfl, hacyclic⟩ := build_eq_ok hok
    refine ⟨exists_indexNames_eq_ok_iff.mp ⟨byName, hnames⟩, fun i hi => ?_⟩
    rw [← neverEnds_congr (link_unchecked_iff hnames)] at hi
    exact (TypeModel.checkAcyclic_eq_ok_iff (mem_ids_of_link_unchecked ds byName)).mp hacyclic i hi
  · rintro ⟨hnone, hends⟩
    obtain ⟨byName, hnames⟩ := exists_indexNames_eq_ok_iff.mpr hnone
    have hacyclic := (TypeModel.checkAcyclic_eq_ok_iff (mem_ids_of_link_unchecked ds byName)).mpr
      fun i hi => hends i ((neverEnds_congr (link_unchecked_iff hnames) i).mp hi)
    exact ⟨_, by rw [build_of_indexNames hnames, hacyclic]; rfl⟩

end Declared

/-! ## Tables -/

namespace Table

theorem checked_eq_error_iff_of_sorted {t : Table} (ht : t.Sorted) {e : ModelError} :
    t.checked = .error e ↔ ∃ ty info, IsFirst (NeverEnds t.LinksTo) ty ∧ (ty, info) ∈ t.rows ∧
      e = .cyclicSuperclass info.name := by
  rw [checked_eq_error_iff,
    TypeModel.checkAcyclic_eq_error_iff_of_sorted (fun _ _ => mem_ids_of_link) ht]
  simp only [isFirst_congr (neverEnds_congr (link_iff ht))]
  exact exists_congr fun ty => exists_congr fun info =>
    and_congr_right fun _ => and_congr_left fun _ => search_eq_some_iff ht

theorem checked_eq_ok_iff_of_sorted {t : Table} (ht : t.Sorted) :
    t.checked = .ok t ↔ ∀ ty, ¬ NeverEnds t.LinksTo ty := by
  rw [checked_eq_ok_iff, TypeModel.checkAcyclic_eq_ok_iff fun _ _ => mem_ids_of_link]
  simp only [neverEnds_congr (link_iff ht), and_true]

end Table

/-! ## What is refused -/

open Declaration in
/-- Declarations are refused for the first name that repeats an earlier one. Where names differ,
they are refused for the first type whose chain of superclasses never ends. All others make a model.
Tables are refused for the first type whose chain never ends, and for nothing else. -/
theorem validation_exact (ds : List Declaration) :
    (∀ n, Declared.build ds = .error (.duplicateType n) ↔
      ∃ j d, IsFirst (Repeats ds) j ∧ ds[j]? = some d ∧ d.name = n) ∧
    (∀ n, Declared.build ds = .error (.cyclicSuperclass n) ↔ (∀ j, ¬ Repeats ds j) ∧
      ∃ i d, IsFirst (NeverEnds (LinksTo ds)) i ∧ ds[i]? = some d ∧ d.name = n) ∧
    ((∃ m, Declared.build ds = .ok m) ↔
      (∀ j, ¬ Repeats ds j) ∧ ∀ i, ¬ NeverEnds (LinksTo ds) i) ∧
    ∀ t : Table, t.Sorted →
      (∀ n, t.checked = .error (.cyclicSuperclass n) ↔
        ∃ ty info, IsFirst (NeverEnds t.LinksTo) ty ∧ (ty, info) ∈ t.rows ∧ info.name = n) ∧
      (t.checked = .ok t ↔ ∀ ty, ¬ NeverEnds t.LinksTo ty) ∧
      ∀ n, t.checked ≠ .error (.duplicateType n) := by
  refine ⟨fun n => ?_, fun n => ?_, Declared.exists_build_eq_ok_iff, fun t ht =>
    ⟨fun n => ?_, Table.checked_eq_ok_iff_of_sorted ht, fun n => ?_⟩⟩
  · simp only [Declared.build_eq_error_iff, ModelError.duplicateType.injEq, reduceCtorEq, and_false,
      exists_false, or_false, eq_comm]
  · simp only [Declared.build_eq_error_iff, ModelError.cyclicSuperclass.injEq, reduceCtorEq,
      and_false, exists_false, false_or, eq_comm]
  · simp only [Table.checked_eq_error_iff_of_sorted ht, ModelError.cyclicSuperclass.injEq, eq_comm]
  · simp [Table.checked_eq_error_iff_of_sorted ht]

/-- A type without annotations and members. -/
def TypeInfo.bare (name : String) (superclass : Option TypeId) : TypeInfo := ⟨name, superclass, [], []⟩

/-- A leaf whose chain runs into a loop further up. -/
def loopTable : Table := ⟨[(1, .bare "Leaf" (some 4)), (4, .bare "Loop" (some 4))]⟩

/-- A chain as long as the table that leaves it with its last link. -/
def openTable : Table := ⟨[(3, .bare "Leaf" (some 5)), (5, .bare "Branch" (some 8))]⟩

theorem openTable_ends (ty : TypeId) : ¬ NeverEnds openTable.LinksTo ty := by
  have hlink : ∀ {ty sup}, openTable.LinksTo ty sup → ty = 3 ∧ sup = 5 ∨ ty = 5 ∧ sup = 8 := by
    rintro ty sup ⟨info, hrow, hsup⟩
    simp only [openTable, TypeInfo.bare, List.mem_cons, Prod.mk.injEq, List.not_mem_nil,
      or_false] at hrow
    rcases hrow with ⟨rfl, rfl⟩ | ⟨rfl, rfl⟩ <;> simpa [eq_comm] using hsup
  intro h
  obtain ⟨a, h1, ha⟩ := h.exists_link
  obtain ⟨b, h2, hb⟩ := ha.exists_link
  obtain ⟨c, h3, -⟩ := hb.exists_link
  rcases hlink h3 with ⟨rfl, -⟩ | ⟨rfl, -⟩
  · simpa using hlink h2
  · rcases hlink h2 with ⟨rfl, -⟩ | ⟨-, h⟩
    · simpa using hlink h1
    · cases h

/-- The loop is reported for the leaf below it, and the open chain for nothing. -/
theorem validation_exact_loop : loopTable.Sorted ∧
    loopTable.checked = .error (.cyclicSuperclass "Leaf") ∧
    openTable.Sorted ∧ openTable.checked = .ok openTable := by
  have hloop : loopTable.Sorted := by decide
  have hopen : openTable.Sorted := by decide
  refine ⟨hloop, ?_, hopen, ((validation_exact []).2.2.2 openTable hopen).2.1.mpr openTable_ends⟩
  refine (((validation_exact []).2.2.2 loopTable hloop).1 "Leaf").mpr
    ⟨1, _, ⟨⟨fun n => if n = 0 then 1 else 4, rfl, fun n => ?_⟩, fun j hj h => ?_⟩,
      List.mem_cons_self, rfl⟩
  · by_cases hn : n = 0
    · exact ⟨_, by simp only [hn]; exact List.mem_cons_self, by simp [TypeInfo.bare]⟩
    · exact ⟨.bare "Loop" (some 4), by simp [hn, loopTable], by simp [TypeInfo.bare]⟩
  · obtain ⟨sup, ⟨info, hrow, -⟩, -⟩ := h.exists_link
    simp only [loopTable, List.mem_cons, Prod.mk.injEq, List.not_mem_nil, or_false] at hrow
    rcases hrow with ⟨rfl, -⟩ | ⟨rfl, -⟩ <;> simp at hj

end EntityQuery
