import Mathlib
import EntityQuery.Diagnostic.Printing
import EntityQuery.Proofs.Diagnostic.Underlining
/-!
# Findings that can be printed

A finding is printed with its source if both ends of what is underlined are boundaries of
characters: the first has a line and a column, and so has the second. How the snippet is laid out
between them does not matter here. Of a report with one finding that cannot be printed nothing is
printed.

Results:
* `isSome_ofByte?`: a boundary has a line and a column.
* `isSome_printed?`: when a finding can be printed.
* `isSome_print?`: when a whole report can be printed.
-/
namespace EntityQuery

variable {source : List Char}

/-! ## Lines and columns -/

/-- Within or behind the line's text, the position is a boundary of it. -/
def SourceLine.Admits (l : SourceLine) (byte : Nat) : Prop :=
  Text.isBoundary l.text (min (byte - l.start) (Text.byteLength l.text)) = true

theorem isSome_ofByte?_iff (lines : List SourceLine) (byte : Nat) :
    (Location.ofByte? lines byte).isSome ↔ (Location.lineAt lines byte).Admits byte := by
  unfold Location.ofByte? SourceLine.Admits
  rw [Option.isSome_map, Text.isSome_splitAtByte]

/-- The first line holds what is before its end, and the other lines hold the rest. -/
theorem lineAt_cons (l : SourceLine) (lines : List SourceLine) {byte : Nat}
    (hbyte : l.start ≤ byte) : Location.lineAt (l :: lines) byte =
      if byte < l.stop ∨ lines = [] then l else Location.lineAt lines byte := by
  unfold Location.lineAt
  by_cases hlt : byte < l.stop
  · rw [List.find?_cons_of_pos (by simp [hbyte, hlt]), if_pos (.inl hlt)]
    rfl
  · rw [List.find?_cons_of_neg (by simp [hlt])]
    cases lines with
    | nil => simp
    | cons l' lines => simp [hlt]

/-- A line that is a front part of the text behind its start admits every boundary of the text. -/
theorem admits_of_front {l : SourceLine} {rest : List Char} {n : Nat}
    (h : Text.isBoundary (l.text ++ rest) n = true) : l.Admits (l.start + n) := by
  unfold SourceLine.Admits
  rw [Nat.add_sub_cancel_left]
  by_cases hn : n ≤ Text.byteLength l.text
  · rw [Nat.min_eq_left hn]
    exact Text.isBoundary_front h hn
  · rw [Nat.min_eq_right (by omega)]
    exact Text.isBoundary_length l.text

theorem linesFrom_nil (number start : Nat) {line : List Char} (h : line ≠ []) :
    SourceLine.linesFrom number start line [] = [⟨number, line.reverse, start, 0⟩] := by
  simp [SourceLine.linesFrom, h]

theorem linesFrom_other (number start : Nat) (line : List Char) {c : Char} (hc : c ≠ '\n')
    (rest : List Char) : SourceLine.linesFrom number start line (c :: rest) =
      SourceLine.linesFrom number start (c :: line) rest := by
  simp [SourceLine.linesFrom]

/-- A line end closes the line. A carriage return before it is part of the end. -/
theorem linesFrom_end (number start : Nat) (line rest : List Char) : ∃ l more,
    SourceLine.linesFrom number start line ('\n' :: rest) =
      l :: SourceLine.linesFrom (number + 1) l.stop [] rest ∧
    l.start = start ∧ line.reverse = l.text ++ more ∧
    l.stop = start + Text.byteLength (line.reverse ++ ['\n']) := by
  have hend : '\n'.utf8Size = 1 := rfl
  have hreturn : '\r'.utf8Size = 1 := rfl
  by_cases hline : ∃ before, line = '\r' :: before
  · obtain ⟨before, rfl⟩ := hline
    refine ⟨⟨number, before.reverse, start, 2⟩, ['\r'], rfl, rfl, by simp, ?_⟩
    simp [SourceLine.stop, SourceLine.textStop, hend, hreturn, Nat.add_assoc]
  · refine ⟨⟨number, line.reverse, start, 1⟩, [], ?_, rfl, by simp, ?_⟩
    · rw [SourceLine.linesFrom]
      intro before hbefore
      exact hline ⟨before, hbefore⟩
    · simp [SourceLine.stop, SourceLine.textStop, hend, Nat.add_assoc]

/-- In the lines of a text every boundary of it has a place. By induction on what is not yet cut
into lines. -/
theorem admits_linesFrom {number start : Nat} {line cs : List Char} {n : Nat}
    (hne : line.reverse ++ cs ≠ []) (h : Text.isBoundary (line.reverse ++ cs) n = true) :
    (Location.lineAt (SourceLine.linesFrom number start line cs) (start + n)).Admits
      (start + n) := by
  induction cs generalizing number start line n with
  | nil =>
    have hline : line ≠ [] := by simpa using hne
    rw [linesFrom_nil number start hline, lineAt_cons _ _ (Nat.le_add_right start n),
      if_pos (.inr rfl)]
    exact admits_of_front h
  | cons c rest ih =>
    by_cases hc : c = '\n'
    · subst hc
      obtain ⟨l, more, hlines, rfl, hfront, hstop⟩ := linesFrom_end number start line rest
      rw [hlines, lineAt_cons _ _ (Nat.le_add_right l.start n)]
      split
      · rw [hfront, List.append_assoc] at h
        exact admits_of_front h
      · next hbehind =>
        have hrest : rest ≠ [] := by
          rintro rfl
          exact hbehind (.inr rfl)
        have hbyte : l.start + n =
            l.stop + (n - Text.byteLength (line.reverse ++ ['\n'])) := by omega
        rw [hbyte]
        refine ih hrest ?_
        change Text.isBoundary rest _ = true
        rw [← Text.isBoundary_behind (line.reverse ++ ['\n']), List.append_assoc]
        rwa [Nat.add_sub_cancel' (by omega)]
    · rw [linesFrom_other number start line hc]
      have hsame : (c :: line).reverse ++ rest = line.reverse ++ c :: rest := by simp
      exact ih (by rwa [hsame]) (by rwa [hsame])

theorem isSome_ofByte? {byte : Nat} (h : Text.isBoundary source byte = true) :
    (Location.ofByte? (SourceLine.linesOf source) byte).isSome := by
  rw [isSome_ofByte?_iff, SourceLine.linesOf]
  split
  · -- the one line that is made up is empty
    unfold SourceLine.Admits
    have hline : Location.lineAt [⟨1, [], 0, 0⟩] byte = ⟨1, [], 0, 0⟩ := by
      rw [lineAt_cons _ _ (Nat.zero_le byte), if_pos (.inr rfl)]
    rw [hline, Text.byteLength_nil, Nat.min_zero]
    exact Text.isBoundary_zero []
  · next hlines =>
    have hne : source ≠ [] := by
      rintro rfl
      exact hlines rfl
    have hadmits := @admits_linesFrom 1 0 [] source byte hne h
    rwa [Nat.zero_add] at hadmits

/-! ## Printing -/

theorem isSome_start? {byte : Nat} (h : Text.isBoundary source byte = true) :
    (Location.start? (SourceLine.linesOf source) byte).isSome := by
  unfold Location.start?
  rw [Option.isSome_map]
  exact isSome_ofByte? h

theorem isSome_stop? (start : Location) {byte : Nat} (h : Text.isBoundary source byte = true) :
    (Location.stop? (SourceLine.linesOf source) start byte).isSome := by
  unfold Location.stop?
  split
  · rfl
  · rw [Option.isSome_map]
    exact isSome_ofByte? h

/-- A finding can be printed if both ends of what is underlined are boundaries. -/
theorem isSome_rows? (d : Diagnostic) (path : Option String)
    (hstart : Text.IsPlace source d.range.start) : (d.rows? source path).isSome ↔
      Text.isBoundary source (underlined d.range (Text.byteLength source)).2 = true := by
  have hfirst := isBoundary_underlined_start hstart
  unfold Diagnostic.rows?
  generalize underlined d.range (Text.byteLength source) = marked at hfirst ⊢
  obtain ⟨first, last⟩ := marked
  dsimp only at hfirst ⊢
  constructor
  · intro hrows
    rw [← Text.isSome_splitAtByte]
    cases hcut : Text.splitAtByte source last with
    | none => simp [hcut] at hrows
    | some parts => rfl
  · intro hlast
    obtain ⟨parts, hcut⟩ := Option.isSome_iff_exists.mp
      ((Text.isSome_splitAtByte source last).trans hlast)
    obtain ⟨start, hstart⟩ := Option.isSome_iff_exists.mp (isSome_start? hfirst)
    obtain ⟨stop, hstop⟩ := Option.isSome_iff_exists.mp (isSome_stop? start hlast)
    simp [hcut, hstart, hstop]

theorem isSome_printed? (d : Diagnostic) (path : Option String) (coloured : Bool)
    (hstart : Text.IsPlace source d.range.start) (hstop : Text.IsPlace source d.range.stop) :
    (d.printed? source path coloured).isSome ↔ ¬ d.range.BeforeWide source := by
  rw [Diagnostic.printed?, Option.isSome_map, isSome_rows? d path hstart,
    isBoundary_underlined_stop hstart hstop]

/-- A list is gone through to its end if no answer is missing. -/
theorem isSome_mapM {α β : Type} (f : α → Option β) (as : List α) :
    (as.mapM f).isSome ↔ ∀ a ∈ as, (f a).isSome := by
  induction as with
  | nil => simp
  | cons a as ih =>
    simp only [List.mapM_cons, List.forall_mem_cons]
    cases hf : f a with
    | none => simp
    | some b => cases hfs : as.mapM f <;> simpa [hfs] using ih

/-- One finding that cuts a character is enough for a report not to be printed. -/
theorem isSome_print? {source : String} {ds : Diagnostics} (path : Option String) (coloured : Bool)
    (hplaces : ∀ d ∈ ds, Text.IsPlace source.toList d.range.start ∧
      Text.IsPlace source.toList d.range.stop) :
    (ds.print? (some source) path coloured).isSome ↔
      ∀ d ∈ ds, ¬ d.range.BeforeWide source.toList := by
  rw [Diagnostics.print?, Option.isSome_map, isSome_mapM]
  refine forall₂_congr fun d hd => ?_
  obtain ⟨hstart, hstop⟩ := hplaces d hd
  exact isSome_printed? d path coloured hstart hstop

/-- A quoted letter of two bytes at the start of a literal. With a finding on text generated before
it the one on the letter is lost, too. -/
example : Diagnostics.print? [.report .invalidQuery ⟨1, 3⟩ none,
    .report .invalidQuery (remap 0 ⟨5, 11⟩ 18) none] (some "'é'") none false = none := by
  decide

end EntityQuery
