/-!
# Splitting and joining

Cutting a text at separators, and putting pieces together with one. A text with `n` separators has
`n + 1` pieces, empty ones included.

Results:
* `split_ne_nil`: there is always a piece.
* `split_eq_singleton`: without separators there is one.
* `join_split`, `split_join`: cutting at a separator and joining with it undo each other.
* `split_append_cons`: the first piece ends at the first separator.
-/
namespace EntityQuery.Text

/-- The pieces between the characters that satisfy `sep`. -/
def split (sep : Char → Bool) : List Char → List (List Char)
  | [] => [[]]
  | c :: cs =>
    if sep c then [] :: split sep cs
    else
      match split sep cs with
      | [] => [[c]]
      | piece :: pieces => (c :: piece) :: pieces

theorem split_ne_nil (sep : Char → Bool) (cs : List Char) : split sep cs ≠ [] := by
  cases cs with
  | nil => simp [split]
  | cons c cs =>
    unfold split
    split
    · simp
    · split <;> simp

/-- A text without separators is one piece. -/
theorem split_eq_singleton {sep : Char → Bool} {cs : List Char} (h : ∀ c ∈ cs, sep c = false) :
    split sep cs = [cs] := by
  induction cs with
  | nil => rfl
  | cons c cs ih =>
    have hc : sep c = false := h c List.mem_cons_self
    rw [split, hc, ih fun d hd => h d (List.mem_cons_of_mem c hd)]
    rfl

/-- The pieces put together, with `sep` between neighbours. -/
def join (sep : List Char) : List (List Char) → List Char
  | [] => []
  | [piece] => piece
  | piece :: next :: pieces => piece ++ sep ++ join sep (next :: pieces)

theorem join_cons_cons (sep : List Char) (c : Char) (piece : List Char)
    (pieces : List (List Char)) :
    join sep ((c :: piece) :: pieces) = c :: join sep (piece :: pieces) := by
  cases pieces <;> simp [join]

/-- Cutting at one character and joining with it changes nothing. -/
theorem join_split (c : Char) (cs : List Char) : join [c] (split (· == c) cs) = cs := by
  induction cs with
  | nil => rfl
  | cons d cs ih =>
    unfold split
    split
    · rename_i h
      have hd : d = c := by simpa using h
      cases hs : split (· == c) cs with
      | nil => exact absurd hs (split_ne_nil _ _)
      | cons piece pieces =>
        rw [hs] at ih
        simp [join, ih, hd]
    · cases hs : split (· == c) cs with
      | nil => exact absurd hs (split_ne_nil _ _)
      | cons piece pieces =>
        rw [hs] at ih
        simp only
        rw [join_cons_cons, ih]

/-- A piece has no separator in it. -/
theorem not_sep_of_mem_split {sep : Char → Bool} {cs piece : List Char}
    (h : piece ∈ split sep cs) : ∀ c ∈ piece, sep c = false := by
  induction cs generalizing piece with
  | nil => simp_all [split]
  | cons d cs ih =>
    unfold split at h
    split at h
    · rcases List.mem_cons.mp h with rfl | h
      · simp
      · exact ih h
    · rename_i hd
      cases hs : split sep cs with
      | nil => exact absurd hs (split_ne_nil sep cs)
      | cons first pieces =>
        rw [hs] at h ih
        rcases List.mem_cons.mp h with rfl | h
        · intro c hc
          rcases List.mem_cons.mp hc with rfl | hc
          · simpa using hd
          · exact ih List.mem_cons_self c hc
        · exact ih (List.mem_cons_of_mem first h)

/-- The characters up to the first separator are the first piece. -/
theorem split_append_cons {sep : Char → Bool} {cs : List Char} (hcs : ∀ c ∈ cs, sep c = false)
    {d : Char} (hd : sep d = true) (rest : List Char) :
    split sep (cs ++ d :: rest) = cs :: split sep rest := by
  induction cs with
  | nil => simp [split, hd]
  | cons c cs ih =>
    have hc : sep c = false := hcs c List.mem_cons_self
    rw [List.cons_append, split, hc, ih fun e he => hcs e (List.mem_cons_of_mem c he)]
    rfl

/-- Pieces without separators that are joined with one are cut apart again. -/
theorem split_join {c : Char} {pieces : List (List Char)} (hne : pieces ≠ [])
    (h : ∀ piece ∈ pieces, c ∉ piece) : split (· == c) (join [c] pieces) = pieces := by
  induction pieces with
  | nil => exact absurd rfl hne
  | cons piece pieces ih =>
    have hno : ∀ d ∈ piece, (d == c) = false := fun d hd =>
      beq_false_of_ne fun hdc => h piece List.mem_cons_self (hdc ▸ hd)
    cases pieces with
    | nil => exact split_eq_singleton hno
    | cons next pieces =>
      have hrest := ih (List.cons_ne_nil next pieces) fun p hp => h p (List.mem_cons_of_mem piece hp)
      rw [join, List.append_assoc, List.singleton_append, split_append_cons hno (beq_self_eq_true c),
        hrest]

/-- Every second item, the first included. -/
def everyOther {α : Type} : List α → List α
  | [] => []
  | [a] => [a]
  | a :: _ :: rest => a :: everyOther rest

/-- The strings put together, with `sep` between neighbours. -/
def joinStrings (sep : String) : List String → String
  | [] => ""
  | [s] => s
  | s :: next :: rest => s ++ sep ++ joinStrings sep (next :: rest)

end EntityQuery.Text
