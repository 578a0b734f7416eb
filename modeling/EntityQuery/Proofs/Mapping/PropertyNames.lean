import Mathlib
import EntityQuery.Mapping.Property
/-!
# Names of properties

A property is called like its field, or by what follows `get` or `is` in the name of its accessor,
which is never empty. So where no field has an empty name, no property has one.

Results:
* `accessorProperty_ne_empty`: the name that an accessor gives.
* `lineage_info?`: what a lineage has for a handle.
* `FieldsNamed.name_ne_empty`: the name of a property that is found.
-/
namespace EntityQuery

namespace Text

theorem lower_ne_nil (c : Char) : lower c ≠ [] := by
  unfold lower mapCase
  split
  · rename_i codes hcodes
    rw [lowerExpansions, List.lookup_cons] at hcodes
    split at hcodes
    · cases hcodes
      simp
    · cases hcodes
  · split <;> simp

theorem decapitalize_ne_nil (c : Char) (cs : List Char) : decapitalize (c :: cs) ≠ [] := by
  rw [decapitalize]
  split
  · simp
  · simp [lower_ne_nil]

end Text

theorem Name.accessorProperty_ne_empty {method name : String}
    (h : accessorProperty method = some name) : name ≠ "" := by
  unfold accessorProperty at h
  split at h
  · rename_i c rest _
    split at h
    · obtain rfl := Option.some.inj h
      intro hempty
      have hnil := congrArg String.toList hempty
      rw [String.toList_ofList] at hnil
      exact Text.decapitalize_ne_nil c rest hnil
    · cases h
  · cases h

namespace TypeModel

variable {m : TypeModel}

theorem infos_info? {tys : List TypeId} {chain : Lineage} (h : m.infos tys = .ok chain) :
    ∀ x ∈ chain, m.info? x.1 = some x.2 := by
  induction tys generalizing chain with
  | nil =>
    cases h
    simp
  | cons ty tys ih =>
    obtain ⟨t, ht, h⟩ := Except.exists_of_bind_eq_ok h
    obtain ⟨rest, hrest, h⟩ := Except.exists_of_bind_eq_ok h
    cases h
    exact List.forall_mem_cons.mpr ⟨info_eq_ok_iff.mp ht, ih hrest⟩

theorem lineage_info? {ty : TypeId} {chain : Lineage} (h : m.lineage ty = .ok chain) :
    ∀ x ∈ chain, m.info? x.1 = some x.2 := by
  obtain ⟨t, ht, h⟩ := Except.exists_of_bind_eq_ok h
  obtain ⟨supertypes, hsup, h⟩ := Except.exists_of_bind_eq_ok h
  cases h
  exact List.forall_mem_cons.mpr
    ⟨info_eq_ok_iff.mp ht, fun x hx => infos_info? hsup x (List.mem_of_mem_filter hx)⟩

/-- No field of the model has an empty name. -/
def FieldsNamed (m : TypeModel) : Prop :=
  ∀ ty t, m.info? ty = some t → ∀ member ∈ t.members, member.isField = true → member.name ≠ ""

theorem FieldsNamed.name_ne_empty (hfields : m.FieldsNamed) {ty : TypeId} {name : String}
    {access : Access} {p : Property} (h : m.findProperty ty name access = .ok (some p)) :
    name ≠ "" := by
  obtain ⟨chain, hchain, h⟩ := Except.exists_of_map_eq_ok h
  obtain ⟨placed, hplaced, -⟩ := Option.map_eq_some_iff.mp h
  obtain ⟨⟨u, t⟩, hx, hfind⟩ := List.exists_of_findSome?_eq_some hplaced
  have hname : placed.member.propertyName (t.accessFor access) = some name :=
    beq_iff_eq.mp (List.find?_some hfind :)
  have hmem : placed.member ∈ t.members :=
    List.mem_of_getElem? (TypeInfo.mem_placedMembers.mp (List.mem_of_find?_eq_some hfind)).2
  unfold Member.propertyName at hname
  split at hname
  · split at hname
    · rename_i hpersistent
      rw [Bool.and_eq_true] at hpersistent
      obtain rfl := Option.some.inj hname
      exact hfields u t (lineage_info? hchain _ hx) _ hmem hpersistent.2
    · cases hname
  · split at hname
    · exact Name.accessorProperty_ne_empty hname
    · cases hname

end TypeModel

end EntityQuery
