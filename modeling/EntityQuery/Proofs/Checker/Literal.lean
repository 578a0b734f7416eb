import Mathlib
import EntityQuery.Checker
import EntityQuery.Model.Sample
import EntityQuery.Proofs.Diagnostic.MovedRanges
import EntityQuery.Proofs.Graph.Outcome
import EntityQuery.Proofs.Shorthand.Filters
import EntityQuery.Proofs.Text.Bytes
/-!
# The literal within the analysed text

The text that goes to the analyser holds the contents of the literal at the recorded offset: in each
form of an expansion, with or without a count before it and a comparison or sort clause behind it,
and at the very start where the literal is the whole query. A range within the literal is moved to
where the same bytes stand in the source.

Results:
* `ofCall_holds`, `finalText_holds`: the literal stands at the offset.
* `highlighted_eq_analysed`: the range is moved to the bytes that the analyser saw.
-/
namespace EntityQuery

namespace Expansion

/-- `f` stands in the text at the recorded offset. -/
def Holds (e : Expansion) (f : String) : Prop :=
  ∃ before after, e.text = before ++ f ++ after ∧ e.offset = Text.narrow (byteLength before)

theorem holds_self (f : String) : Holds ⟨f, 0⟩ f := ⟨"", "", by simp, rfl⟩

theorem around_holds (start filter stop : String) : (around start filter stop).Holds filter :=
  ⟨start, stop, rfl, rfl⟩

theorem unsorted_holds {call : ShorthandCall} {e : Expansion} {f : String}
    (h : unsorted call = .ok e) (hf : filterOf call = some f) : e.Holds f := by
  by_cases hlone : IsLone f
  · rw [unsorted_of_lone hf hlone] at h
    split at h
    · cases h
      exact around_holds _ f _
    · split at h <;> cases h
  · obtain ⟨start, -, hstart⟩ := unsorted_of_not_lone hf hlone
    rw [hstart] at h
    cases h
    exact around_holds start f ""

theorem addSort_holds {call : ShorthandCall} {e e' : Expansion} {f : String}
    (h : addSort call e = .ok e') (he : e.Holds f) : e'.Holds f := by
  obtain ⟨stop, rfl, -⟩ := addSort_eq_ok h
  obtain ⟨before, after, htext, hoffset⟩ := he
  exact ⟨before, after ++ stop, by simp only [htext, String.append_assoc], hoffset⟩

theorem ofCall_holds {call : ShorthandCall} {e : Expansion} {f : String}
    (h : ofCall call = .ok e) (hf : filterOf call = some f) : e.Holds f := by
  obtain ⟨start, hstart, hadd⟩ := ofCall_eq_ok h
  exact addSort_holds hadd (unsorted_holds hstart hf)

/-- In a text that a range can point into, the offset is exact. -/
theorem Holds.exact {e : Expansion} {f : String} (h : e.Holds f)
    (hlen : byteLength e.text < 2 ^ 32) :
    ∃ before after, e.text = before ++ f ++ after ∧ e.offset = byteLength before := by
  obtain ⟨before, after, htext, hoffset⟩ := h
  refine ⟨before, after, htext, hoffset.trans (Text.narrow_of_le ?_)⟩
  rw [htext, byteLength_append, byteLength_append] at hlen
  unfold Text.maxOffset
  omega

end Expansion

namespace Checker

/-- The text of a shorthand call: first its entity is asked for, if unknown ones are reported. -/
theorem finalText_call {types : TypeModel} {config : CheckConfig} {site : CallSite}
    {call : ShorthandCall} (hs : site.shorthandCall? = .ok (some call)) :
    finalText types config site =
      (if config.reportUnknownEntity then Option.isSome <$> resolveEntity types call.entity
        else pure true) >>= fun known =>
      pure (if known then expand call []
        else (none, [.report .unknownEntity site.literalRange (some call.entity)])) := by
  unfold finalText
  rw [hs]
  cases config.reportUnknownEntity with
  | true =>
    simp only [if_true, bind_map_left, pure_bind]
    congr 1
    funext id?
    cases id? <;> rfl
  | false => rfl

/-- A text to analyse is an expansion, or the literal of a site that is no shorthand call. -/
theorem finalText_eq_ok_some {types : TypeModel} {config : CheckConfig} {site : CallSite}
    {g g' : Graph} {e : Expansion} {ds : Diagnostics}
    (h : finalText types config site g = .ok ((some e, ds), g')) :
    (site.shorthandCall? = .ok none ∧ ∃ f, site.literal = some f ∧ e = ⟨f, 0⟩) ∨
      ∃ call, site.shorthandCall? = .ok (some call) ∧ Expansion.ofCall call = .ok e := by
  cases hs : site.shorthandCall? with
  | error err =>
    rw [finalText, hs] at h
    cases h
  | ok call? =>
    cases call? with
    | none =>
      rw [finalText, hs] at h
      cases hl : site.literal with
      | none => rw [hl] at h; cases h
      | some f => rw [hl] at h; cases h; exact .inl ⟨rfl, f, rfl, rfl⟩
    | some call =>
      rw [finalText_call hs] at h
      obtain ⟨known, g₁, -, h⟩ := GraphM.bind_eq_ok h
      cases known with
      | false => cases h
      | true =>
        have hexpand : expand call [] = (some e, ds) := congrArg Prod.fst (Except.ok.inj h)
        exact .inr ⟨call, rfl, Expansion.expand_eq_some hexpand⟩

/-- The filter of a call is the literal of its site. -/
theorem filter_of_shorthandCall? {site : CallSite} {call : ShorthandCall}
    (h : site.shorthandCall? = .ok (some call)) : call.filter = site.literal := by
  unfold CallSite.shorthandCall? at h
  split at h
  · split at h <;> cases h
    rfl
  · cases h

theorem finalText_holds {types : TypeModel} {config : CheckConfig} {site : CallSite}
    {g g' : Graph} {e : Expansion} {ds : Diagnostics} {f : String}
    (h : finalText types config site g = .ok ((some e, ds), g')) (hf : site.literal = some f)
    (hblank : ∀ call, site.shorthandCall? = .ok (some call) → Text.allBlank f.toList = false) :
    e.Holds f := by
  rcases finalText_eq_ok_some h with ⟨-, f', hf', rfl⟩ | ⟨call, hcall, he⟩
  · rw [hf] at hf'
    cases hf'
    exact Expansion.holds_self f
  · refine Expansion.ofCall_holds he ?_
    rw [Expansion.filterOf, filter_of_shorthandCall? hcall, hf]
    simp [hblank call hcall]

end Checker

/-- A range of the analysed text that lies within the literal is moved to where the literal has the
same bytes, so that wherever a source holds the literal, the range of the source is the text that
the analyser saw. -/
theorem highlighted_eq_analysed {types : TypeModel} {config : CheckConfig} {site : CallSite}
    {g g' : Graph} {e : Expansion} {ds : Diagnostics} {f : String} (range : TextRange)
    (htext : Checker.finalText types config site g = .ok ((some e, ds), g'))
    (hf : site.literal = some f)
    (hblank : ∀ call, site.shorthandCall? = .ok (some call) → Text.allBlank f.toList = false)
    (hlen : byteLength e.text < 2 ^ 32)
    (hmax : site.literalStart + 1 + byteLength f ≤ Text.maxOffset)
    (hstart : e.offset ≤ range.start) (horder : range.start ≤ range.stop)
    (hstop : range.stop ≤ e.offset + byteLength f) :
    let inLiteral : TextRange := ⟨range.start - e.offset, range.stop - e.offset⟩
    let moved := LiteralOrigin.remap ⟨site.literalStart, e.offset⟩ range
    (site.shorthandCall? = .ok none → e = ⟨f, 0⟩) ∧
    e.offset + byteLength f ≤ byteLength e.text ∧
    slice e.text range = slice f inLiteral ∧
    moved = ⟨site.literalStart + 1 + inLiteral.start, site.literalStart + 1 + inLiteral.stop⟩ ∧
    ∀ source : String,
      slice source ⟨site.literalStart + 1, site.literalStart + 1 + byteLength f⟩ =
        f.toByteArray →
      slice source moved = slice e.text range := by
  obtain ⟨before, after, hsplit, hoffset⟩ :=
    (Checker.finalText_holds htext hf hblank).exact hlen
  dsimp only
  have hremap := remap_of_within site.literalStart hstart horder (by omega)
  have hslice : slice e.text range = slice f ⟨range.start - e.offset, range.stop - e.offset⟩ := by
    rw [hsplit, hoffset]
    rw [hoffset] at hstart hstop
    exact slice_within hstart hstop
  refine ⟨fun hnone => ?_, ?_, hslice, hremap, fun source hsource => ?_⟩
  · rcases Checker.finalText_eq_ok_some htext with ⟨-, f', hf', he⟩ | ⟨call, hcall, -⟩
    · rw [hf] at hf'
      cases hf'
      exact he
    · rw [hnone] at hcall
      cases hcall
  · rw [hsplit, hoffset, byteLength_append, byteLength_append]
    omega
  · rw [hslice, LiteralOrigin.remap, hremap, slice, slice, ← hsource, slice,
      ByteArray.extract_extract]
    dsimp only
    congr 1
    omega

/-- A count with a condition and a sort clause. -/
def circleSite : CallSite where
  literal := some "radius > 1"
  literalStart := 10
  verb := some "countAll"
  entity := some "Circle"
  bindings := .empty
  sort := [.sortBy "radius" none]

theorem highlighted_eq_analysed_circle : ∃ e ds g,
    Checker.finalText shapesModel.toModel .default circleSite Graph.empty =
      .ok ((some e, ds), g) ∧
    e.text = "SELECT COUNT(*) FROM Circle WHERE radius > 1 ORDER BY radius ASC" ∧
    slice e.text ⟨34, 40⟩ = slice "radius > 1" ⟨0, 6⟩ ∧
    LiteralOrigin.remap ⟨10, e.offset⟩ ⟨34, 40⟩ = ⟨11, 17⟩ := by
  obtain ⟨ds, g, hrun⟩ : ∃ ds g,
      Checker.finalText shapesModel.toModel .default circleSite Graph.empty = .ok ((some
        ⟨"SELECT COUNT(*) FROM Circle WHERE radius > 1 ORDER BY radius ASC", 34⟩, ds), g) :=
    ⟨_, _, rfl⟩
  obtain ⟨-, -, hslice, hmoved, -⟩ :=
    highlighted_eq_analysed ⟨34, 40⟩ hrun rfl
      (fun _ _ => by decide) (by decide) (by decide) (by decide) (by decide) (by decide)
  exact ⟨_, ds, g, hrun, rfl, hslice, hmoved⟩

end EntityQuery
