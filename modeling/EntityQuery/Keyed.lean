/-!
# Keyed lists

A list of keys and values in which a key stands once, at the place where it was first given, with
the value it was given last.

Results:
* `lookup_setKey`: the value of a key is the one last set.
* `keys_setKey`: setting a known key leaves the keys alone, a new one is added at the end.
-/
namespace EntityQuery.Keyed

variable {α : Type}

/-- Sets the value of a key: a new key comes last, a known one stays where it is. -/
def setKey (entries : List (String × α)) (key : String) (value : α) : List (String × α) :=
  match entries with
  | [] => [(key, value)]
  | (k, v) :: rest => if k = key then (k, value) :: rest else (k, v) :: setKey rest key value

/-- Every pair set in turn. -/
def ofPairs (pairs : List (String × α)) : List (String × α) :=
  pairs.foldl (fun entries p => setKey entries p.1 p.2) []

theorem lookup_setKey (entries : List (String × α)) (key name : String) (value : α) :
    (setKey entries key value).lookup name =
      if name = key then some value else entries.lookup name := by
  induction entries with
  | nil =>
    by_cases h : name = key
    · simp [setKey, h]
    · simp [setKey, List.lookup_cons, h, beq_false_of_ne h]
  | cons e rest ih =>
    obtain ⟨k, v⟩ := e
    unfold setKey
    by_cases hk : k = key
    · subst hk
      by_cases h : name = k
      · simp [h]
      · simp [List.lookup_cons, beq_false_of_ne h, h]
    · by_cases h : name = k
      · subst h
        simp [hk]
      · simp [hk, List.lookup_cons, beq_false_of_ne h, ih]

theorem keys_setKey (entries : List (String × α)) (key : String) (value : α) :
    (setKey entries key value).map (·.1) =
      if key ∈ entries.map (·.1) then entries.map (·.1) else entries.map (·.1) ++ [key] := by
  induction entries with
  | nil => simp [setKey]
  | cons e rest ih =>
    obtain ⟨k, v⟩ := e
    unfold setKey
    by_cases hk : k = key
    · simp [hk]
    · have hk' : key ≠ k := fun h => hk h.symm
      simp only [hk, if_false, List.map_cons, ih, List.mem_cons, hk', false_or]
      split <;> simp

end EntityQuery.Keyed
