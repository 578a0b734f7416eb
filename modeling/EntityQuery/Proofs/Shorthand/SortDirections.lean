import Mathlib
import EntityQuery.Shorthand.Sort
/-!
# Directions of sort columns

Going over a chain, a call on the whole chain gives its direction to the columns so far that wait
for one. Their positions are kept apart, and are always those of the columns without a direction.
Seen from a column, nothing but the nearest of these calls behind it counts: later ones find no one
waiting, and those before it come too early.

Results:
* `addCall_tracks`, `addCall_columns`: what one call keeps, and what it does to the columns.
* `foldl_addCall`: what some more calls make of the columns so far, and of those that they name.
* `columns_eq_nil_iff`: when a chain has no columns.
* `columns_nearest`: the columns and the clause of a chain, by looking ahead from every call.
-/
namespace EntityQuery

/-- Strings put together with a separator are what the library makes of them. -/
theorem Text.joinStrings_eq_intercalate (sep : String) (ss : List String) :
    Text.joinStrings sep ss = sep.intercalate ss := by
  fun_induction Text.joinStrings sep ss with
  | case1 => rw [String.intercalate_nil]
  | case2 s => rw [String.intercalate_singleton]
  | case3 s next rest ih => rw [ih, String.intercalate_cons_cons]

namespace SortCall

/-- The column that a call names, with the direction of its own that it has. -/
def column? : SortCall → Option (String × Option Direction)
  | .sortBy name own => some (name, own)
  | .thenBy name own => some (name, own)
  | .chainWide _ => none

/-- The direction that a call gives to the chain. -/
def chainWide? : SortCall → Option Direction
  | .chainWide direction => some direction
  | _ => none

end SortCall

/-! ## Columns that wait -/

namespace SortColumns

variable {c : SortColumns}

/-- The columns that wait are those that have no direction. -/
def Tracks (c : SortColumns) : Prop :=
  ∀ i, i ∈ c.waiting ↔ ∃ name, c.columns[i]? = some (name, none)

theorem tracks_empty : empty.Tracks := fun i => by simp [empty]

theorem addColumn_tracks (h : c.Tracks) (name : String) (own : Option Direction) :
    (c.addColumn name own).Tracks := by
  intro i
  have hold := h i
  rcases Nat.lt_trichotomy i c.columns.length with hlt | rfl | hgt
  · rw [addColumn, List.getElem?_append_left hlt, ← hold]
    cases own
    · simp [Nat.ne_of_lt hlt]
    · simp
  · rw [addColumn, List.getElem?_concat_length]
    rw [List.getElem?_eq_none (Nat.le_refl _)] at hold
    cases own
    · simp
    · simpa using hold
  · rw [addColumn, List.getElem?_eq_none (by simp; omega)]
    rw [List.getElem?_eq_none (by omega)] at hold
    cases own
    · simpa [Nat.ne_of_gt hgt] using hold
    · simpa using hold

/-- Changing the items at some positions, where a second change adds nothing to the first. -/
theorem getElem?_foldl_modify {α : Type} {f : α → α} (hf : ∀ a, f (f a) = f a)
    (positions : List Nat) (items : List α) (i : Nat) :
    (positions.foldl (fun items i => items.modify i f) items)[i]? =
      if i ∈ positions then items[i]?.map f else items[i]? := by
  induction positions generalizing items with
  | nil => simp
  | cons j rest ih =>
    rw [List.foldl_cons, ih, List.getElem?_modify]
    by_cases hj : j = i
    · subst hj
      cases items[j]? <;> simp [hf]
    · cases items[i]? <;> simp [hj, Ne.symm hj]

theorem direct_getElem? (direction : Direction) (i : Nat) :
    (c.direct direction).columns[i]? = if i ∈ c.waiting
      then c.columns[i]?.map fun column => (column.1, some direction) else c.columns[i]? :=
  getElem?_foldl_modify (f := fun column : String × Option Direction => (column.1, some direction))
    (fun _ => rfl) c.waiting c.columns i

/-- The columns that have no direction get one. -/
theorem direct_columns (h : c.Tracks) (direction : Direction) :
    (c.direct direction).columns =
      c.columns.map fun (name, own) => (name, own <|> some direction) := by
  refine List.ext_getElem? fun i => ?_
  rw [direct_getElem?, List.getElem?_map]
  cases hi : c.columns[i]? with
  | none => simp
  | some column =>
    obtain ⟨name, own⟩ := column
    cases own with
    | none => rw [if_pos ((h i).mpr ⟨name, hi⟩)]; rfl
    | some own =>
      rw [if_neg fun hmem => ?_]
      · rfl
      · obtain ⟨_, hname⟩ := (h i).mp hmem
        cases hi.symm.trans hname

theorem direct_tracks (h : c.Tracks) (direction : Direction) : (c.direct direction).Tracks := by
  intro i
  rw [direct_columns h, List.getElem?_map]
  cases c.columns[i]? with
  | none => simp [direct]
  | some column =>
    obtain ⟨name, own⟩ := column
    cases own <;> simp [direct]

theorem addCall_tracks (h : c.Tracks) (call : SortCall) : (c.addCall call).Tracks := by
  cases call with
  | sortBy name own | thenBy name own => exact addColumn_tracks h name own
  | chainWide direction => exact direct_tracks h direction

/-- A call directs the columns that wait, and adds the one that it names. -/
theorem addCall_columns (h : c.Tracks) (call : SortCall) : (c.addCall call).columns =
    c.columns.map (fun (name, own) => (name, own <|> call.chainWide?)) ++
      call.column?.toList := by
  cases call with
  | sortBy name own | thenBy name own =>
    simp [addCall, addColumn, SortCall.chainWide?, SortCall.column?]
  | chainWide direction =>
    simp only [addCall, direct_columns h, SortCall.chainWide?, SortCall.column?,
      Option.toList_none, List.append_nil]

end SortColumns

/-! ## Looking ahead -/

namespace SortChain

/-- A column with the calls behind it: its direction is its own, or that of the nearest call on the
whole chain, or else ascending. -/
def directed (later : SortChain) : String × Option Direction → SortColumn
  | (name, own) => ⟨name, (own <|> later.findSome? SortCall.chainWide?).getD .ascending⟩

/-- The column that the first of some calls names, with the direction that it gets. -/
def headColumn? : SortChain → Option SortColumn
  | [] => none
  | call :: later => call.column?.map (directed later)

/-- To be directed by a call and those behind it is to be directed by it first. -/
theorem directed_cons (call : SortCall) (later : SortChain) (name : String)
    (own : Option Direction) :
    directed (call :: later) (name, own) = directed later (name, own <|> call.chainWide?) := by
  rw [directed, directed, List.findSome?_cons]
  cases own <;> cases call.chainWide? <;> rfl

/-- More calls direct the columns so far, and each names its own. By induction on the calls. -/
theorem foldl_addCall (calls : SortChain) {c : SortColumns} (h : c.Tracks) :
    (calls.foldl SortColumns.addCall c).columns.map (directed []) =
      c.columns.map (directed calls) ++ calls.tails.filterMap headColumn? := by
  induction calls generalizing c with
  | nil => simp [headColumn?]
  | cons call later ih =>
    have hentry : (call :: later).tails.filterMap headColumn? =
        call.column?.toList.map (directed later) ++ later.tails.filterMap headColumn? := by
      rw [List.tails_cons, List.filterMap_cons, headColumn?]
      cases call.column? <;> rfl
    rw [List.foldl_cons, ih (SortColumns.addCall_tracks h call), SortColumns.addCall_columns h,
      hentry, List.map_append, List.append_assoc, List.map_map]
    refine congrArg (· ++ _) (List.map_congr_left fun (name, own) _ => ?_)
    exact (directed_cons call later name own).symm

theorem columns_eq (chain : SortChain) : chain.columns = chain.tails.filterMap headColumn? := by
  have hrun := foldl_addCall chain SortColumns.tracks_empty
  rw [SortColumns.empty, List.map_nil, List.nil_append] at hrun
  rw [← hrun]
  refine List.map_congr_left fun (name, own) _ => ?_
  cases own <;> rfl

/-- There is one column for each call that names one. -/
theorem names_columns (chain : SortChain) :
    chain.columns.map (·.name) = (chain.filterMap SortCall.column?).map (·.1) := by
  rw [columns_eq]
  induction chain with
  | nil => rfl
  | cons call later ih =>
    rw [List.tails_cons, List.filterMap_cons, List.filterMap_cons, headColumn?]
    cases call.column? with
    | none => exact ih
    | some column => exact congrArg (column.1 :: ·) ih

theorem columns_eq_nil_iff (chain : SortChain) :
    chain.columns = [] ↔ chain.all (·.column?.isNone) = true := by
  rw [← List.map_eq_nil_iff, names_columns, List.map_eq_nil_iff]
  simp

/-- Every call that names a column has one entry, in the order of the calls, with its own direction,
or that of the first call on the whole chain behind it, or else ascending. There is a clause unless
no call names a column, and it joins these entries. -/
theorem columns_nearest (chain : SortChain) :
    chain.columns = chain.tails.filterMap headColumn? ∧
    (chain.orderByClause? = none ↔ chain.all (·.column?.isNone) = true) ∧
    chain.orderByClause? = if chain.all (·.column?.isNone) then none else
      some ("ORDER BY " ++ ", ".intercalate ((chain.tails.filterMap headColumn?).map fun c =>
        c.name ++ " " ++ c.direction.keyword)) := by
  by_cases hnone : chain.all (·.column?.isNone) = true
  · have hclause := orderByClause?_of_no_columns ((columns_eq_nil_iff chain).mpr hnone)
    exact ⟨columns_eq chain, by simp [hclause, hnone], by rw [if_pos hnone, hclause]⟩
  · have hclause := orderByClause?_of_columns (mt (columns_eq_nil_iff chain).mp hnone)
    refine ⟨columns_eq chain, by simp [hclause, hnone], ?_⟩
    rw [if_neg hnone, hclause, Text.joinStrings_eq_intercalate, columns_eq]
    rfl

/-- A direction in front of all columns, a direction of its own, and two that come one after the
other. -/
example : columns [.chainWide .descending, .sortBy "a" none, .thenBy "b" (some .ascending),
      .chainWide .descending, .chainWide .ascending, .thenBy "c" none] =
    [⟨"a", .descending⟩, ⟨"b", .ascending⟩, ⟨"c", .ascending⟩] := by decide

end SortChain

end EntityQuery
