import Mathlib
import EntityQuery.Model.Basic
/-!
# Chains of superclasses

A chain of superclasses never ends if it can be followed for ever. The walk that looks for such
chains is cut after one step more than there are types. That is enough: a chain that ends meets no
type twice, and all its types but the last have a superclass, so are in the model. Where all chains
end, subtyping is an order, and the supertypes of one type are a chain in it.

Results:
* `mem_superclassWalk`: a walk that stops before its limit meets exactly the types above its start.
* `walk_length_le_ids`: a chain that ends has no more links than there are types.
* `isEndless_iff`: the bounded walk tells exactly the types whose chains never end.
* `checkAcyclic_eq_ok_iff`, `checkAcyclic_eq_error_iff`: the check passes if all chains end, else it
  names the first type whose chain does not.
* `Grounded.isSubtype_iff`: a subtype is connected with its supertype by links, so
  `isSubtype_trans`, `isSubtype_antisymm` and `isSubtype_total` hold.
-/
namespace EntityQuery

/-- `i` is the first number with the property `p`. -/
def IsFirst (p : Nat → Prop) (i : Nat) : Prop := p i ∧ ∀ j < i, ¬ p j

/-- The links from `ty` on can be followed for ever. -/
def NeverEnds (link : TypeId → TypeId → Prop) (ty : TypeId) : Prop :=
  ∃ chain : Nat → TypeId, chain 0 = ty ∧ ∀ n, link (chain n) (chain (n + 1))

theorem IsFirst.unique {p : Nat → Prop} {i j : Nat} (hi : IsFirst p i) (hj : IsFirst p j) :
    i = j := by
  have h1 : ¬ i < j := fun h => hj.2 i h hi.1
  have h2 : ¬ j < i := fun h => hi.2 j h hj.1
  omega

theorem exists_isFirst {p : Nat → Prop} {i : Nat} (h : p i) : ∃ j, IsFirst p j := by
  classical
  exact ⟨Nat.find ⟨i, h⟩, Nat.find_spec _, fun j hj => Nat.find_min _ hj⟩

theorem isFirst_congr {p q : Nat → Prop} (h : ∀ i, p i ↔ q i) (i : Nat) :
    IsFirst p i ↔ IsFirst q i := by
  simp only [IsFirst, h]

/-- In an increasing list that has all numbers with the property, the first of them is the one with
none in front. -/
theorem isFirst_iff_append {l : List Nat} (hl : l.Pairwise (· < ·)) {p : Nat → Prop}
    (hmem : ∀ i, p i → i ∈ l) {i : Nat} :
    IsFirst p i ↔ p i ∧ ∃ before after, l = before ++ i :: after ∧ ∀ j ∈ before, ¬ p j := by
  refine and_congr_right fun hi => ?_
  constructor
  · intro hfirst
    obtain ⟨before, after, rfl⟩ := List.append_of_mem (hmem i hi)
    obtain ⟨-, -, hlt⟩ := List.pairwise_append.mp hl
    exact ⟨before, after, rfl, fun j hj => hfirst j (hlt j hj i List.mem_cons_self)⟩
  · rintro ⟨before, after, rfl, hbefore⟩ j hlt hj
    obtain ⟨-, hafter, -⟩ := List.pairwise_append.mp hl
    rcases List.mem_append.mp (hmem j hj) with hfront | hback
    · exact hbefore j hfront hj
    · rcases List.mem_cons.mp hback with rfl | hback
      · omega
      · have := (List.pairwise_cons.mp hafter).1 j hback
        omega

theorem neverEnds_congr {link link' : TypeId → TypeId → Prop}
    (h : ∀ ty sup, link ty sup ↔ link' ty sup) (ty : TypeId) :
    NeverEnds link ty ↔ NeverEnds link' ty := by
  simp only [NeverEnds, h]

theorem neverEnds_iff_not_acc {link : TypeId → TypeId → Prop} {ty : TypeId} :
    NeverEnds link ty ↔ ¬ Acc (fun sup ty => link ty sup) ty :=
  (@not_acc_iff_exists_descending_chain _ (fun sup ty => link ty sup) ty).symm

theorem acc_of_not_neverEnds {link : TypeId → TypeId → Prop} {ty : TypeId}
    (h : ¬ NeverEnds link ty) : Acc (fun sup ty => link ty sup) ty := by
  rwa [neverEnds_iff_not_acc, not_not] at h

/-- Links that end do not lead back to where they started. -/
theorem not_self_of_acc {link : TypeId → TypeId → Prop} {ty : TypeId}
    (h : Acc (fun sup ty => link ty sup) ty) : ¬ Relation.TransGen link ty ty := by
  induction h with
  | intro ty _ ih =>
    intro hself
    obtain ⟨sup, hlink, hback⟩ := Relation.TransGen.head'_iff.mp hself
    exact ih sup hlink (.tail' hback hlink)

theorem NeverEnds.exists_link {link : TypeId → TypeId → Prop} {ty : TypeId}
    (h : NeverEnds link ty) : ∃ sup, link ty sup ∧ NeverEnds link sup := by
  obtain ⟨chain, rfl, hlink⟩ := h
  exact ⟨chain 1, hlink 0, fun n => chain (n + 1), rfl, fun n => hlink (n + 1)⟩

namespace TypeModel

/-- `sup` is the superclass of `ty`. -/
def Link (m : TypeModel) (ty sup : TypeId) : Prop := m.superclass? ty = some sup

/-- `sup` is a superclass of `ty`, in one step or more. -/
def Above (m : TypeModel) : TypeId → TypeId → Prop :=
  Relation.TransGen fun ty sup => m.superclass? ty = some sup

/-- A model in which only its own types have superclasses, and every chain of them ends. The end may
be a handle of no type. -/
structure Grounded (m : TypeModel) : Prop where
  own : ∀ ty sup, m.Link ty sup → ty ∈ m.ids
  ends : ∀ ty, ¬ NeverEnds m.Link ty

variable {m : TypeModel}

theorem link_rightUnique : Relator.RightUnique m.Link :=
  fun _ _ _ h1 h2 => Option.some.inj (h1.symm.trans h2)

/-! ## The walk upwards -/

theorem above_of_mem_walk {n : Nat} {ty sup : TypeId}
    (h : sup ∈ m.superclassWalk n ty) : m.Above ty sup := by
  induction n generalizing ty with
  | zero => simp [superclassWalk] at h
  | succ n ih =>
    rw [superclassWalk_succ] at h
    cases hs : m.superclass? ty with
    | none => simp [hs] at h
    | some s =>
      simp only [hs, List.mem_cons] at h
      rcases h with rfl | h
      · exact .single hs
      · exact .head hs (ih h)

/-- A walk shorter than its limit has come to the end of the chain. -/
theorem mem_walk_of_above {n : Nat} {ty sup : TypeId} (h : m.Above ty sup)
    (hn : (m.superclassWalk n ty).length < n) : sup ∈ m.superclassWalk n ty := by
  induction n generalizing ty with
  | zero => simp at hn
  | succ n ih =>
    rw [superclassWalk_succ] at hn ⊢
    cases hs : m.superclass? ty with
    | none =>
      obtain ⟨s, h1, -⟩ := Relation.TransGen.head'_iff.mp h
      rw [hs] at h1
      cases h1
    | some s =>
      simp only [hs, List.length_cons, Nat.add_lt_add_iff_right] at hn
      simp only [List.mem_cons]
      obtain ⟨s', h1, h2⟩ := Relation.TransGen.head'_iff.mp h
      rw [hs] at h1
      cases h1
      rcases Relation.reflTransGen_iff_eq_or_transGen.mp h2 with rfl | h2
      · exact .inl rfl
      · exact .inr (ih h2 hn)

theorem mem_superclassWalk {n : Nat} {ty : TypeId}
    (hn : (m.superclassWalk n ty).length < n) (sup : TypeId) :
    sup ∈ m.superclassWalk n ty ↔ m.Above ty sup :=
  ⟨above_of_mem_walk, fun h => mem_walk_of_above h hn⟩

/-- One step more adds nothing to a walk that the longer limit does not stop. -/
theorem superclassWalk_eq_succ {n : Nat} {ty : TypeId}
    (hn : (m.superclassWalk (n + 1) ty).length ≤ n) :
    m.superclassWalk n ty = m.superclassWalk (n + 1) ty := by
  induction n generalizing ty with
  | zero =>
    rw [Nat.le_zero, List.length_eq_zero_iff] at hn
    rw [hn]
    rfl
  | succ n ih =>
    rw [superclassWalk_succ] at hn
    rw [superclassWalk_succ, superclassWalk_succ m (n + 1)]
    cases hs : m.superclass? ty with
    | none => rfl
    | some s =>
      simp only [hs, List.length_cons, Nat.add_le_add_iff_right] at hn
      simp only [ih hn]

/-! ## Chains that end, and others -/

/-- The walk along a chain that never ends goes on to its limit. -/
theorem walk_length_of_neverEnds {ty : TypeId} (h : NeverEnds m.Link ty) (n : Nat) :
    (m.superclassWalk n ty).length = n := by
  induction n generalizing ty with
  | zero => rfl
  | succ n ih =>
    obtain ⟨sup, hlink, hsup⟩ := h.exists_link
    rw [superclassWalk_succ, show m.superclass? ty = some sup from hlink]
    simp only [List.length_cons, ih hsup]

/-- A type whose chain ends is not above itself. -/
theorem not_above_self_of_acc {ty : TypeId} (h : Acc (fun sup ty => m.Link ty sup) ty) :
    ¬ m.Above ty ty :=
  not_self_of_acc h

/-- A chain that ends meets no type twice. -/
theorem walk_nodup_of_acc {ty : TypeId} (h : Acc (fun sup ty => m.Link ty sup) ty) (n : Nat) :
    (ty :: m.superclassWalk n ty).Nodup := by
  induction n generalizing ty with
  | zero => simp [superclassWalk]
  | succ n ih =>
    refine List.nodup_cons.mpr
      ⟨fun hmem => not_above_self_of_acc h (above_of_mem_walk hmem), ?_⟩
    rw [superclassWalk_succ]
    cases hs : m.superclass? ty with
    | none => exact List.nodup_nil
    | some sup => exact ih (h.inv hs)

/-- Every type on a walk but the last has a superclass. -/
theorem exists_link_of_mem_dropLast {ty x : TypeId} {n : Nat}
    (h : x ∈ (ty :: m.superclassWalk n ty).dropLast) : ∃ sup, m.Link x sup := by
  induction n generalizing ty with
  | zero => simp [superclassWalk] at h
  | succ n ih =>
    rw [superclassWalk_succ] at h
    cases hs : m.superclass? ty with
    | none => simp [hs] at h
    | some sup =>
      rw [hs] at h
      simp only [List.dropLast_cons_cons, List.mem_cons] at h
      rcases h with rfl | h
      · exact ⟨sup, hs⟩
      · exact ih h

section
variable (hown : ∀ ty sup, m.Link ty sup → ty ∈ m.ids)
include hown

theorem walk_length_le_ids {ty : TypeId} (h : ¬ NeverEnds m.Link ty) (n : Nat) :
    (m.superclassWalk n ty).length ≤ m.ids.length := by
  have hnodup := (walk_nodup_of_acc (acc_of_not_neverEnds h) n).sublist (List.dropLast_sublist _)
  have hsub : (ty :: m.superclassWalk n ty).dropLast ⊆ m.ids := fun x hx => by
    obtain ⟨sup, hlink⟩ := exists_link_of_mem_dropLast hx
    exact hown x sup hlink
  simpa using (hnodup.subperm hsub).length_le

/-- Looking one step further than there are types is enough, and not too much. -/
theorem isEndless_iff (ty : TypeId) : m.isEndless ty = true ↔ NeverEnds m.Link ty := by
  simp only [isEndless, Bool.or_eq_true, List.contains_eq_mem, decide_eq_true_eq]
  constructor
  · intro h
    by_contra hends
    rcases h with hself | hlong
    · exact not_above_self_of_acc (acc_of_not_neverEnds hends) (above_of_mem_walk hself)
    · have := walk_length_le_ids hown hends (m.ids.length + 1)
      omega
  · intro h
    rw [walk_length_of_neverEnds h]
    omega

theorem mem_ids_of_neverEnds {ty : TypeId} (h : NeverEnds m.Link ty) : ty ∈ m.ids := by
  obtain ⟨sup, hlink, -⟩ := h.exists_link
  exact hown ty sup hlink

/-! ## The check -/

theorem checkAcyclic_eq_ok_iff :
    m.checkAcyclic = .ok () ↔ ∀ ty, ¬ NeverEnds m.Link ty := by
  unfold checkAcyclic
  split
  · rename_i hnone
    refine iff_of_true rfl fun ty h => ?_
    exact List.find?_eq_none.mp hnone ty (mem_ids_of_neverEnds hown h)
      ((isEndless_iff hown ty).mpr h)
  · rename_i ty hsome
    refine iff_of_false (by simp) fun h => h ty ?_
    exact (isEndless_iff hown ty).mp (List.find?_some hsome)

/-- The type that is named is in front of all others whose chains never end. -/
theorem checkAcyclic_eq_error_iff {e : ModelError} : m.checkAcyclic = .error e ↔
    ∃ ty t, (NeverEnds m.Link ty ∧ ∃ before after, m.ids = before ++ ty :: after ∧
      ∀ other ∈ before, ¬ NeverEnds m.Link other) ∧
      m.info? ty = some t ∧ e = .cyclicSuperclass t.name := by
  have hfind (ty : TypeId) : m.ids.find? m.isEndless = some ty ↔
      NeverEnds m.Link ty ∧ ∃ before after, m.ids = before ++ ty :: after ∧
        ∀ other ∈ before, ¬ NeverEnds m.Link other := by
    simp only [List.find?_eq_some_iff_append, Bool.not_eq_true', Bool.eq_false_iff, ne_eq,
      isEndless_iff hown]
  simp only [← hfind]
  unfold checkAcyclic
  split
  · rename_i hnone
    refine iff_of_false (by simp) ?_
    rintro ⟨ty, -, hty, -⟩
    cases hnone.symm.trans hty
  · rename_i ty hsome
    -- a type with a link is known, so its name is not made up
    obtain ⟨sup, hlink, -⟩ := ((hfind ty).mp hsome).1.exists_link
    obtain ⟨t, ht, -⟩ := Option.bind_eq_some_iff.mp hlink
    rw [ht]
    constructor
    · intro h
      exact ⟨ty, t, hsome, ht, (Except.error.inj h).symm⟩
    · rintro ⟨ty', t', hsome', ht', rfl⟩
      obtain rfl : ty = ty' := Option.some.inj (hsome.symm.trans hsome')
      rw [Option.some.inj (ht.symm.trans ht')]
      rfl

theorem checkAcyclic_eq_error_iff_of_sorted (hids : m.ids.Pairwise (· < ·)) {e : ModelError} :
    m.checkAcyclic = .error e ↔ ∃ ty t, IsFirst (NeverEnds m.Link) ty ∧
      m.info? ty = some t ∧ e = .cyclicSuperclass t.name := by
  rw [checkAcyclic_eq_error_iff hown]
  simp only [isFirst_iff_append hids fun _ => mem_ids_of_neverEnds hown]

theorem grounded_of_checkAcyclic (h : m.checkAcyclic = .ok ()) : m.Grounded :=
  ⟨hown, (checkAcyclic_eq_ok_iff hown).mp h⟩

end

/-! ## Subtyping -/

theorem isSubtype_refl (ty : TypeId) : m.isSubtype ty ty = true := by
  simp [isSubtype]

section
variable (hm : m.Grounded)
include hm

/-- No type is above itself. -/
theorem Grounded.not_above_self (ty : TypeId) : ¬ m.Above ty ty :=
  not_above_self_of_acc (acc_of_not_neverEnds (hm.ends ty))

/-- The walk that sees all supertypes is not stopped by its limit. -/
theorem Grounded.ancestors_eq_walk (ty : TypeId) :
    m.ancestors ty = m.superclassWalk (m.ids.length + 1) ty :=
  superclassWalk_eq_succ (walk_length_le_ids hm.own (hm.ends ty) _)

theorem Grounded.ancestors_eq_cons {ty sup : TypeId} (h : m.superclass? ty = some sup) :
    m.ancestors ty = sup :: m.ancestors sup := by
  rw [hm.ancestors_eq_walk, superclassWalk_succ, h]
  rfl

/-- A subtype reaches its supertype by links. -/
theorem Grounded.isSubtype_iff {sub sup : TypeId} :
    m.isSubtype sub sup = true ↔ Relation.ReflTransGen m.Link sub sup := by
  have hlen := walk_length_le_ids hm.own (hm.ends sub) (m.ids.length + 1)
  have hmem : sup ∈ m.ancestors sub ↔ Relation.TransGen m.Link sub sup := by
    rw [hm.ancestors_eq_walk]
    exact mem_superclassWalk (by omega) sup
  rw [Relation.reflTransGen_iff_eq_or_transGen, ← hmem]
  simp [isSubtype]

theorem Grounded.isSubtype_trans {a b c : TypeId} (hab : m.isSubtype a b = true)
    (hbc : m.isSubtype b c = true) : m.isSubtype a c = true := by
  rw [hm.isSubtype_iff] at hab hbc ⊢
  exact hab.trans hbc

theorem Grounded.isSubtype_antisymm {a b : TypeId} (hab : m.isSubtype a b = true)
    (hba : m.isSubtype b a = true) : a = b := by
  rw [hm.isSubtype_iff] at hab hba
  rcases Relation.reflTransGen_iff_eq_or_transGen.mp hab with rfl | hab
  · rfl
  · exact absurd (hab.trans_left hba) (hm.not_above_self a)

/-- Two supertypes of one type stand on one chain. -/
theorem Grounded.isSubtype_total {a b c : TypeId} (hab : m.isSubtype a b = true)
    (hac : m.isSubtype a c = true) : m.isSubtype b c = true ∨ m.isSubtype c b = true := by
  rw [hm.isSubtype_iff] at hab hac
  rw [hm.isSubtype_iff, hm.isSubtype_iff]
  exact Relation.ReflTransGen.total_of_right_unique link_rightUnique hab hac

end

end TypeModel

end EntityQuery
