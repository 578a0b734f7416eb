import Mathlib
import EntityQuery.Keyed
import EntityQuery.OrderedSet
/-!
# Collections in order of insertion

A set that is filled from a list has the elements of the list in the order in which they first occur
there. The keys of a keyed list are such a set: what replaces a value leaves the key where it is.

Results:
* `OrderedSet.ofList_filter`, `OrderedSet.ofList_ordered`: the elements of a list in the order of
  their first occurrence.
* `Keyed.keys_ofPairs`: the keys of a keyed list.
-/
namespace EntityQuery

namespace OrderedSet

variable {α : Type} [DecidableEq α]

theorem ofList_concat (l : List α) (a : α) : ofList (l ++ [a]) = (ofList l).insert a := by
  rw [ofList, List.foldl_append]
  rfl

theorem mem_ofList {l : List α} {a : α} : a ∈ (ofList l).toList ↔ a ∈ l := by
  induction l using List.reverseRecOn with
  | nil => rfl
  | append_singleton l b ih =>
    rw [ofList_concat, mem_insert, ih, List.mem_append, List.mem_singleton]

/-- What is left out of a list is left out of its elements. -/
theorem ofList_filter (l : List α) (p : α → Bool) :
    (ofList (l.filter p)).toList = (ofList l).toList.filter p := by
  induction l using List.reverseRecOn with
  | nil => rfl
  | append_singleton l a ih =>
    rw [List.filter_append, List.filter_singleton, ofList_concat]
    cases ha : p a with
    | false =>
      rw [Bool.cond_false, List.append_nil, ih]
      by_cases hmem : a ∈ (ofList l).toList
      · rw [insert_of_mem hmem]
      · rw [toList_insert_of_not_mem hmem, List.filter_append, List.filter_singleton, ha]
        simp
    | true =>
      have hiff : a ∈ (ofList (l.filter p)).toList ↔ a ∈ (ofList l).toList := by
        rw [ih, List.mem_filter]
        simp [ha]
      rw [Bool.cond_true, ofList_concat]
      by_cases hmem : a ∈ (ofList l).toList
      · rw [insert_of_mem hmem, insert_of_mem (hiff.mpr hmem), ih]
      · rw [toList_insert_of_not_mem hmem, toList_insert_of_not_mem (mt hiff.mp hmem), ih,
          List.filter_append, List.filter_singleton, ha]
        rfl

/-- Of two elements the one that occurs first comes first. -/
theorem ofList_ordered (l : List α) :
    (ofList l).toList.Pairwise fun a b => l.idxOf a < l.idxOf b := by
  induction l using List.reverseRecOn with
  | nil => exact .nil
  | append_singleton l a ih =>
    have hold : ∀ b ∈ (ofList l).toList, (l ++ [a]).idxOf b = l.idxOf b := fun b hb =>
      List.idxOf_append_of_mem (mem_ofList.mp hb)
    have hordered : (ofList l).toList.Pairwise fun b c =>
        (l ++ [a]).idxOf b < (l ++ [a]).idxOf c :=
      ih.imp_of_mem fun hb hc hlt => by rwa [hold _ hb, hold _ hc]
    rw [ofList_concat]
    by_cases hmem : a ∈ (ofList l).toList
    · rwa [insert_of_mem hmem]
    · rw [toList_insert_of_not_mem hmem, List.pairwise_append]
      refine ⟨hordered, List.pairwise_singleton _ _, fun b hb c hc => ?_⟩
      obtain rfl := List.mem_singleton.mp hc
      have hlast : (l ++ [c]).idxOf c = l.length := by
        rw [List.idxOf_append_of_notMem (mt mem_ofList.mpr hmem)]
        simp
      rw [hold b hb, hlast]
      exact List.idxOf_lt_length_of_mem (mem_ofList.mp hb)

end OrderedSet

namespace Keyed

variable {α : Type}

theorem ofPairs_concat (pairs : List (String × α)) (p : String × α) :
    ofPairs (pairs ++ [p]) = setKey (ofPairs pairs) p.1 p.2 := by
  rw [ofPairs, List.foldl_append]
  rfl

/-- The keys are those of the pairs, in the order in which they first occur. -/
theorem keys_ofPairs (pairs : List (String × α)) :
    (ofPairs pairs).map (·.1) = (OrderedSet.ofList (pairs.map (·.1))).toList := by
  induction pairs using List.reverseRecOn with
  | nil => rfl
  | append_singleton pairs p ih =>
    rw [ofPairs_concat, keys_setKey, ih, List.map_append, List.map_singleton,
      OrderedSet.ofList_concat]
    split
    · rename_i hmem
      rw [OrderedSet.insert_of_mem hmem]
    · rename_i hmem
      rw [OrderedSet.toList_insert_of_not_mem hmem]

theorem mem_of_mem_setKey {entries : List (String × α)} {key : String} {value : α}
    {e : String × α} (h : e ∈ setKey entries key value) : e ∈ entries ∨ e = (key, value) := by
  induction entries with
  | nil => exact .inr (List.mem_singleton.mp h)
  | cons first rest ih =>
    unfold setKey at h
    split at h
    · rename_i hkey
      rcases List.mem_cons.mp h with rfl | h
      · exact .inr (by rw [hkey])
      · exact .inl (List.mem_cons_of_mem _ h)
    · rcases List.mem_cons.mp h with rfl | h
      · exact .inl List.mem_cons_self
      · exact (ih h).imp_left (List.mem_cons_of_mem _)

/-- Every value was given for its key. -/
theorem mem_of_mem_ofPairs {pairs : List (String × α)} {e : String × α} (h : e ∈ ofPairs pairs) :
    e ∈ pairs := by
  induction pairs using List.reverseRecOn with
  | nil => exact h
  | append_singleton pairs p ih =>
    rw [ofPairs_concat] at h
    rw [List.mem_append, List.mem_singleton]
    exact (mem_of_mem_setKey h).imp_left ih

end Keyed

end EntityQuery
