import Mathlib
import EntityQuery.Proofs.Model.Forest
/-!
# What a subtype inherits

The lineage of a subtype ends with the lineage of its supertype, if that is persistent. Where the
supertype's part has the identifier, both have the same default access, and a property that no type
in front declares is the same one for both.

Results:
* `ancestors_split`, `lineage_split`: where the supertype stands in the hierarchy of a subtype.
* `find?_isIdentifier_append`, `defaultAccess_append`: the identifier nearest to the root decides,
  so a subtype does not.
* `defaultAccess_shared`: the access of all subtypes of a persistent type with an identifier.
* `findProperty_inherited`: a property that is not declared in front.
-/
namespace EntityQuery

namespace Lineage

/-- Some type of the lineage declares an identifier. -/
def HasIdentifier (chain : Lineage) : Prop :=
  ∃ member ∈ chain.membersFromRoot, member.isIdentifier = true

/-- Some type of the lineage yields the property `n`, if `access` is the default. -/
def Declares (chain : Lineage) (access : Access) (n : String) : Prop :=
  ∃ x ∈ chain, ∃ member ∈ x.2.members, member.propertyName (x.2.accessFor access) = some n

instance (chain : Lineage) : Decidable chain.HasIdentifier :=
  inferInstanceAs (Decidable (∃ member ∈ chain.membersFromRoot, member.isIdentifier = true))

instance (chain : Lineage) (access : Access) (n : String) :
    Decidable (chain.Declares access n) :=
  inferInstanceAs (Decidable (∃ x ∈ chain, ∃ member ∈ x.2.members,
    member.propertyName (x.2.accessFor access) = some n))

variable {front chain : Lineage}

theorem membersFromRoot_append :
    (front ++ chain).membersFromRoot = chain.membersFromRoot ++ front.membersFromRoot := by
  simp [membersFromRoot]

/-- The search from the root down does not come to what stands in front. -/
theorem find?_isIdentifier_append (h : chain.HasIdentifier) :
    (front ++ chain).membersFromRoot.find? (·.isIdentifier) =
      chain.membersFromRoot.find? (·.isIdentifier) := by
  obtain ⟨member, hmem, hid⟩ := h
  have hsome := List.find?_isSome.mpr ⟨member, hmem, hid⟩
  obtain ⟨first, hfirst⟩ := Option.isSome_iff_exists.mp hsome
  rw [membersFromRoot_append, List.find?_append, hfirst, Option.some_or]

theorem defaultAccess_append (h : chain.HasIdentifier) :
    (front ++ chain).defaultAccess = chain.defaultAccess := by
  rw [defaultAccess, find?_isIdentifier_append h, defaultAccess]

theorem findMember?_append {access : Access} {n : String} (h : ¬ front.Declares access n) :
    (front ++ chain).findMember? n access = chain.findMember? n access := by
  unfold findMember?
  rw [List.findSome?_append, List.findSome?_eq_none_iff.mpr, Option.none_or]
  rintro ⟨ty, t⟩ hx
  rw [List.find?_eq_none]
  intro p hp hname
  have hmem := List.mem_of_getElem? (TypeInfo.mem_placedMembers.mp hp).2
  exact h ⟨(ty, t), hx, p.member, hmem, beq_iff_eq.mp hname⟩

end Lineage

namespace TypeModel

variable {m : TypeModel}

/-! ## Reading handles one by one -/

theorem infos_append {front rest : List TypeId} {above below : Lineage}
    (hfront : m.infos front = .ok below) (hrest : m.infos rest = .ok above) :
    m.infos (front ++ rest) = .ok (below ++ above) := by
  induction front generalizing below with
  | nil =>
    cases hfront
    exact hrest
  | cons ty front ih =>
    obtain ⟨t, ht, hfront⟩ := Except.exists_of_bind_eq_ok hfront
    obtain ⟨chain, hchain, hfront⟩ := Except.exists_of_bind_eq_ok hfront
    cases hfront
    rw [List.cons_append, infos, ht, Except.ok_bind, ih hchain]
    rfl

theorem infos_handles {tys : List TypeId} {chain : Lineage} (h : m.infos tys = .ok chain) :
    chain.map (·.1) = tys := by
  induction tys generalizing chain with
  | nil =>
    cases h
    rfl
  | cons ty tys ih =>
    obtain ⟨t, -, h⟩ := Except.exists_of_bind_eq_ok h
    obtain ⟨rest, hrest, h⟩ := Except.exists_of_bind_eq_ok h
    cases h
    rw [List.map_cons, ih hrest]

/-! ## The hierarchy of a subtype -/

/-- Going up from a subtype one comes to the supertype, and from there on sees what is above it. On
the way there all types have links, so something is known of them. By induction on that way. -/
theorem Grounded.ancestors_split (hm : m.Grounded) {sub sup : TypeId}
    (h : m.isSubtype sub sup = true) :
    ∃ front, sub :: m.ancestors sub = front ++ sup :: m.ancestors sup ∧ sup ∉ front ∧
      ∀ ty ∈ front, ∃ t, m.info? ty = some t := by
  have hlinks := hm.isSubtype_iff.mp h
  clear h
  induction hlinks using Relation.ReflTransGen.head_induction_on with
  | refl => exact ⟨[], rfl, List.not_mem_nil, by simp⟩
  | head hlink hrest ih =>
    rename_i sub next
    obtain ⟨front, hsplit, hnot, hknown⟩ := ih
    refine ⟨sub :: front, by rw [hm.ancestors_eq_cons hlink, hsplit, List.cons_append], ?_, ?_⟩
    · intro hself
      rcases List.mem_cons.mp hself with rfl | hmem
      · exact hm.not_above_self _ (.head' hlink hrest)
      · exact hnot hmem
    · obtain ⟨t, ht, -⟩ := Option.bind_eq_some_iff.mp hlink
      exact List.forall_mem_cons.mpr ⟨⟨t, ht⟩, hknown⟩

/-- The lineage of a subtype ends with that of a persistent supertype. -/
theorem Grounded.lineage_split (hm : m.Grounded) {sub sup : TypeId}
    (h : m.isSubtype sub sup = true) {t : TypeInfo} (ht : m.info sup = .ok t)
    (hpersistent : t.isPersistent = true) {chain : Lineage} (hchain : m.lineage sup = .ok chain) :
    ∃ front, m.lineage sub = .ok (front ++ chain) ∧ ∀ x ∈ front, x.1 ≠ sup := by
  obtain ⟨front, hsplit, hnot, hknown⟩ := hm.ancestors_split h
  cases front with
  | nil =>
    obtain ⟨rfl, -⟩ := List.cons.inj hsplit
    exact ⟨[], hchain, by simp⟩
  | cons first front =>
    rw [List.cons_append] at hsplit
    obtain ⟨rfl, hancestors⟩ := List.cons.inj hsplit
    obtain ⟨⟨u, hu⟩, hknown⟩ := List.forall_mem_cons.mp hknown
    obtain ⟨below, hbelow⟩ := infos_ok_of_known front hknown
    -- the supertype's own hierarchy, of which its lineage keeps the persistent types
    obtain ⟨t', ht', hrest⟩ := Except.exists_of_bind_eq_ok hchain
    obtain ⟨above, habove, hrest⟩ := Except.exists_of_bind_eq_ok hrest
    cases hrest
    obtain rfl : t = t' := Except.ok.inj (ht.symm.trans ht')
    have hsup : m.infos (sup :: m.ancestors sup) = .ok ((sup, t) :: above) := by
      rw [infos, ht, Except.ok_bind, habove]
      rfl
    refine ⟨(sub, u) :: below.filter (·.2.isPersistent), ?_, ?_⟩
    · rw [lineage, info_eq_ok_iff.mpr hu, Except.ok_bind, hancestors, infos_append hbelow hsup,
        Except.ok_bind, List.filter_append,
        List.filter_cons_of_pos (by simpa using hpersistent)]
      rfl
    · rintro x hx rfl
      rcases List.mem_cons.mp hx with rfl | hx
      · exact hnot List.mem_cons_self
      · have := List.mem_map_of_mem (f := Prod.fst) (List.mem_of_mem_filter hx)
        rw [infos_handles hbelow] at this
        exact hnot (List.mem_cons_of_mem _ this)

/-! ## The access of a hierarchy -/

/-- The hierarchy of the type has an identifier. -/
def HasIdentifier (m : TypeModel) (ty : TypeId) : Prop :=
  ∃ chain, m.lineage ty = .ok chain ∧ chain.HasIdentifier

/-- A persistent type with an identifier in its hierarchy shares its default access with all of its
subtypes. Their lineages end with its own, so the search from the root down comes to the same
identifier first, whatever the types in front declare. -/
theorem defaultAccess_shared (hm : m.Validated) {sub sup : TypeId}
    (h : m.isSubtype sub sup = true) {t : TypeInfo} (ht : m.info sup = .ok t)
    (hpersistent : t.isPersistent = true) (hid : m.HasIdentifier sup) : ∃ below above,
      m.lineage sub = .ok below ∧ m.lineage sup = .ok above ∧ above <:+ below ∧
        below.membersFromRoot.find? (·.isIdentifier) =
          above.membersFromRoot.find? (·.isIdentifier) ∧
        below.defaultAccess = above.defaultAccess := by
  obtain ⟨chain, hchain, hidentifier⟩ := hid
  obtain ⟨front, hlineage, -⟩ := hm.grounded.lineage_split h ht hpersistent hchain
  exact ⟨front ++ chain, chain, hlineage, hchain, List.suffix_append front chain,
    Lineage.find?_isIdentifier_append hidentifier, Lineage.defaultAccess_append hidentifier⟩

/-- Documents have the identifier of their base, which is an accessor. A draft is not persistent, and
a contract asks for field access; both have an identifier of their own. -/
def documents : List Declaration :=
  let identifier (name : String) (kind : MemberKind) : Member :=
    ⟨name, kind, ⟨"long", []⟩, false, false, [⟨"Id", []⟩]⟩
  [⟨"Contract", some "Draft", [⟨"Entity", []⟩, ⟨"Access", [("value", "FIELD")]⟩],
      [identifier "number" .field]⟩,
    ⟨"Draft", some "Document", [], [identifier "key" .field]⟩,
    ⟨"Document", some "Base", [⟨"Entity", []⟩], []⟩,
    ⟨"Base", none, [⟨"MappedSuperclass", []⟩], [identifier "getId" (.method 0)]⟩]

/-- Contracts are read through accessors by default, as documents are. -/
theorem defaultAccess_shared_contracts : ∃ m below above, Declared.build documents = .ok m ∧
    m.toModel.isSubtype 0 2 = true ∧ m.toModel.HasIdentifier 2 ∧
    m.toModel.lineage 0 = .ok below ∧ below.map (·.1) = [0, 2, 3] ∧
    m.toModel.lineage 2 = .ok above ∧ above.defaultAccess = .property ∧
    below.defaultAccess = .property := by
  obtain ⟨m, hm, t, ht, hpersistent, hsub, chain, hchain, hid, haccess, below, hbelow, hhandles⟩ :
      ∃ m, Declared.build documents = .ok m ∧ ∃ t, m.toModel.info 2 = .ok t ∧
        t.isPersistent = true ∧ m.toModel.isSubtype 0 2 = true ∧
        ∃ chain, m.toModel.lineage 2 = .ok chain ∧ chain.HasIdentifier ∧
          chain.defaultAccess = .property ∧
        ∃ below, m.toModel.lineage 0 = .ok below ∧ below.map (·.1) = [0, 2, 3] :=
    ⟨_, rfl, _, rfl, rfl, rfl, _, rfl, by decide, rfl, _, rfl, rfl⟩
  have hidentifier : m.toModel.HasIdentifier 2 := ⟨chain, hchain, hid⟩
  obtain ⟨below', above, hbelow', habove, -, -, hshared⟩ :=
    defaultAccess_shared (.declared hm) hsub ht hpersistent hidentifier
  obtain rfl : below = below' := Except.ok.inj (hbelow.symm.trans hbelow')
  obtain rfl : chain = above := Except.ok.inj (hchain.symm.trans habove)
  exact ⟨m, below, chain, hm, hsub, hidentifier, hbelow, hhandles, hchain, haccess,
    hshared.trans haccess⟩

/-! ## Inherited properties -/

/-- A type before `sup` in the lineage of `sub` yields the property `n`. -/
def DeclaredBelow (m : TypeModel) (sub sup : TypeId) (n : String) : Prop :=
  ∃ chain, m.lineage sub = .ok chain ∧
    Lineage.Declares (chain.takeWhile (·.1 != sup)) chain.defaultAccess n

/-- What is not declared in front is found with the supertype, and read with the same access. -/
theorem Grounded.findProperty_inherited (hm : m.Grounded) {sub sup : TypeId}
    (h : m.isSubtype sub sup = true) {t : TypeInfo} (ht : m.info sup = .ok t)
    (hpersistent : t.isPersistent = true) (hid : m.HasIdentifier sup) {n : String}
    (hnot : ¬ m.DeclaredBelow sub sup n) : ∃ below above,
      m.lineage sub = .ok below ∧ m.lineage sup = .ok above ∧
        below.defaultAccess = above.defaultAccess ∧
        m.findProperty sub n below.defaultAccess = m.findProperty sup n above.defaultAccess := by
  obtain ⟨chain, hchain, hidentifier⟩ := hid
  obtain ⟨front, hlineage, hfront⟩ := hm.lineage_split h ht hpersistent hchain
  have haccess : Lineage.defaultAccess (front ++ chain) = chain.defaultAccess :=
    Lineage.defaultAccess_append hidentifier
  refine ⟨front ++ chain, chain, hlineage, hchain, haccess, ?_⟩
  have htake : (front ++ chain).takeWhile (·.1 != sup) = front := by
    obtain ⟨u, hu, hrest⟩ := Except.exists_of_bind_eq_ok hchain
    obtain ⟨above, -, hrest⟩ := Except.exists_of_bind_eq_ok hrest
    cases hrest
    rw [List.takeWhile_append_of_pos (by simpa using hfront)]
    simp
  have hundeclared : ¬ front.Declares chain.defaultAccess n := fun hdeclares =>
    hnot ⟨_, hlineage, by rwa [htake, haccess]⟩
  rw [haccess, findProperty, findProperty, hlineage, hchain]
  simp only [Except.map, Lineage.findProperty?, Lineage.findMember?_append hundeclared]

end TypeModel

end EntityQuery
