/-!
# Sets in order of insertion

An `OrderedSet` lists its elements in the order in which they were first inserted, none twice.

Results:
* `mem_insert`, `insert_of_mem`, `toList_insert_of_not_mem`: what an insertion does.
-/
namespace EntityQuery

/-- Different elements in the order of their first insertion. -/
structure OrderedSet (α : Type) where
  toList : List α
  nodup : toList.Nodup
  deriving DecidableEq

namespace OrderedSet

variable {α : Type} [DecidableEq α]

/-- The set without elements. -/
def empty : OrderedSet α := ⟨[], List.nodup_nil⟩

instance : Inhabited (OrderedSet α) := ⟨empty⟩

instance [Repr α] : Repr (OrderedSet α) := ⟨fun s n => reprPrec s.toList n⟩

def contains (s : OrderedSet α) (a : α) : Bool := decide (a ∈ s.toList)

/-- Adds an element at the end, unless it is there. -/
def insert (s : OrderedSet α) (a : α) : OrderedSet α :=
  if h : a ∈ s.toList then s
  else ⟨s.toList ++ [a], by
    refine List.nodup_append.2 ⟨s.nodup, by simp, ?_⟩
    intro x hx y hy
    have : y = a := by simpa using hy
    subst this
    exact fun e => h (e ▸ hx)⟩

theorem insert_of_mem {s : OrderedSet α} {a : α} (h : a ∈ s.toList) : s.insert a = s := by
  simp [insert, h]

theorem toList_insert_of_not_mem {s : OrderedSet α} {a : α} (h : a ∉ s.toList) :
    (s.insert a).toList = s.toList ++ [a] := by
  simp [insert, h]

theorem mem_insert {s : OrderedSet α} {a b : α} :
    b ∈ (s.insert a).toList ↔ b ∈ s.toList ∨ b = a := by
  by_cases h : a ∈ s.toList
  · rw [insert_of_mem h]
    constructor
    · exact Or.inl
    · rintro (hb | rfl)
      · exact hb
      · exact h
  · simp [toList_insert_of_not_mem h]

/-- The elements of a list, in the order of their first occurrence. -/
def ofList (items : List α) : OrderedSet α := items.foldl insert empty

def size (s : OrderedSet α) : Nat := s.toList.length

end OrderedSet

end EntityQuery
