import EntityQuery.Diagnostic.Basic
/-!
# From the analysed text to the source

The analysed text is the contents of a literal, or an expansion in which the literal starts at some
offset. A position of the text lies as far behind the literal's opening delimiter as it lies behind
the offset, plus one for the delimiter. Positions before the offset belong to generated text and
move to the start of the literal.

Results:
* `remapped_length`, `remapped_eq`: a move changes nothing but ranges.
-/
namespace EntityQuery

/-- Where a literal sits in its source. -/
structure LiteralOrigin where
  /-- Position of the literal's opening delimiter in the source. -/
  literalStart : Nat
  /-- Position of the literal's contents in the analysed text. -/
  offset : Nat
  deriving DecidableEq, Repr, Inhabited

/-- The range of the source for a range of the analysed text. A range that ends before it starts
becomes empty. -/
def remap (literalStart : Nat) (span : TextRange) (offset : Nat) : TextRange :=
  let start : Int := max ((span.start : Int) - offset) 0
  let stop : Int := max ((span.stop : Int) - offset) start
  let base : Int := (literalStart : Int) + 1
  ⟨Text.narrow (base + start).toNat, Text.narrow (base + stop).toNat⟩

namespace LiteralOrigin

def remap (origin : LiteralOrigin) (span : TextRange) : TextRange :=
  EntityQuery.remap origin.literalStart span origin.offset

end LiteralOrigin

namespace Diagnostics

/-- Moves every range into the source. -/
def remapped (ds : Diagnostics) (origin : LiteralOrigin) : Diagnostics :=
  ds.map fun d => { d with range := origin.remap d.range }

theorem remapped_length (ds : Diagnostics) (origin : LiteralOrigin) :
    (ds.remapped origin).length = ds.length := by
  simp [remapped]

theorem remapped_eq (ds : Diagnostics) (origin : LiteralOrigin) :
    (ds.remapped origin).map (fun d => (d.kind, d.severity, d.message, d.hints)) =
      ds.map fun d => (d.kind, d.severity, d.message, d.hints) := by
  simp [remapped, Function.comp_def]

end Diagnostics

end EntityQuery
