import Mathlib
import EntityQuery.Proofs.Graph.Resolution
/-!
# Answers that types settle

However a path was looked up, its last stretch was settled by one entity type alone: what a graph
answers is what that type says of an end of the path. Where the type that is asked settles the whole
path, there is no other answer. Both hold of all that a graph keeps, after any history.

Results:
* `settled_closed`, `settled_maintains`: the account that says so, and the graphs that keep it.
* `Graph.Settled.of_leadsTo`: every graph that grew from the model does.
-/
namespace EntityQuery

namespace TypeModel

/-- Some entity type says the answer of an end of the path. -/
def SettlesEnd (m : TypeModel) (path : Path) (t : PropertyType) : Prop :=
  ∃ ty rest, m.IsEntityType ty ∧ rest <:+ path ∧ m.Settles ty rest (some t)

/-- An answer of the type: an entity type settles an end of the path with it, and the type itself
does not settle the path with another one. -/
def AnswerSettled (m : TypeModel) (ty : TypeId) (path : Path) (a : Option PropertyType) : Prop :=
  (m.IsEntityType ty → ∀ t, a = some t → m.SettlesEnd path t) ∧ ∀ b, m.Settles ty path b → a = b

/-- An answer to a role: an entity type settles an end of its path with the collection, and the type
that the role names does not settle all of it with another one. -/
def RoleSettled (m : TypeModel) (role : String) (c? : Option Collection) : Prop :=
  (∀ c, c? = some c → ∃ t, t.collection? = some c ∧ m.SettlesEnd (Path.ofString role).tail t) ∧
    (m.DistinctEntityNames → ∀ entity path ty t, Path.ofString role = entity :: path →
      m.findEntityType? entity = some ty → m.Settles ty path (some t) → c? = t.collection?)

variable {m : TypeModel}

theorem SettlesEnd.mono {rest path : Path} {t : PropertyType} (h : m.SettlesEnd rest t)
    (hrest : rest <:+ path) : m.SettlesEnd path t := by
  obtain ⟨ty, last, hty, hlast, hsettles⟩ := h
  exact ⟨ty, last, hty, hlast.trans hrest, hsettles⟩

/-- No type settles the empty path with an answer. -/
theorem Settles.path_ne_nil {ty : TypeId} {path : Path} {t : PropertyType}
    (h : m.Settles ty path (some t)) : path ≠ [] := by
  rintro rfl
  obtain ⟨name, own, -, ⟨-, hnone⟩ | ⟨p, full, access, hwalk, -⟩⟩ := h
  · cases hnone
  · cases hwalk

end TypeModel

namespace Account

/-- The account of settled answers. -/
def settled (m : TypeModel) : Account where
  names name ty? := (∀ ty, ty? = some ty → m.IsEntityType ty) ∧
    (m.DistinctEntityNames → ty? = m.findEntityType? name)
  subs _ tys := ∀ s ∈ tys, m.IsEntityType s
  answers ty path a := (∀ t, a = some t → t.InModel m) ∧ m.AnswerSettled ty path a
  collections := m.RoleSettled

section
variable {m : TypeModel}

/-- The walk of a path from an entity type settles it, or goes on at the target of an association. -/
theorem Reads.settles_or_onward {acc : Account} {ty : TypeId} {name : String} {own : Access}
    {path : Path} {a : Option PropertyType} (hhead : m.entityHead ty = .ok (name, own))
    (h : acc.Reads m path name "" ty own a) :
    m.Settles ty path a ∨
      ∃ target rest, m.Onward ty path target rest ∧ acc.Named target rest a := by
  obtain ⟨stop, hstop, hend⟩ := h
  cases stop with
  | nowhere => exact .inl ⟨name, own, hhead, .inl ⟨hstop, hend⟩⟩
  | found p full access => exact .inl ⟨name, own, hhead, .inr ⟨p, full, access, hstop, hend⟩⟩
  | onward target rest => exact .inr ⟨target, rest, ⟨name, own, hhead, hstop⟩, hend⟩

theorem settled_withSubtypes {ty : TypeId} (hty : m.IsEntityType ty) {path : Path}
    {t : PropertyType} (h : (settled m).WithSubtypes ty path (some t)) : m.SettlesEnd path t := by
  obtain ⟨tys, htys, hfirst⟩ := h
  obtain ⟨s, hs, -, hsettled, -⟩ := hfirst.exists_of_some
  refine hsettled ?_ t rfl
  rcases List.mem_cons.mp hs with rfl | hs
  · exact hty
  · exact htys s hs

theorem settled_named {name : String} {path : Path} {t : PropertyType}
    (h : (settled m).Named name path (some t)) : m.SettlesEnd path t := by
  obtain ⟨ty?, ⟨hentity, -⟩, h⟩ := h
  cases ty? with
  | none => cases h
  | some ty => exact settled_withSubtypes (hentity ty rfl) h

/-- Where the type that is asked first settles the path, it answers. -/
theorem settled_first {ty : TypeId} {path : Path} {t : PropertyType} {a : Option PropertyType}
    (h : (settled m).WithSubtypes ty path a) (hsettles : m.Settles ty path (some t)) :
    a = some t := by
  obtain ⟨tys, -, hfirst⟩ := h
  cases hfirst with
  | here h => exact h.2.2 _ hsettles
  | later h _ => cases h.2.2 _ hsettles

theorem settled_closed (hm : m.Accepted) : (settled m).Closed m where
  answers := by
    intro ty name own path a hhead h
    refine ⟨?_, fun hty => ?_, fun b hb => ?_⟩
    · rintro t rfl
      exact h.inModel hm fun _ _ t hs => hs.1 t rfl
    · rintro t rfl
      rcases h.settles_or_onward hhead with hsettles | ⟨target, rest, ⟨_, _, -, hwalk⟩, hnamed⟩
      · exact ⟨ty, path, hty, List.suffix_refl path, hsettles⟩
      · exact (settled_named hnamed).mono (TypeModel.walk_onward hwalk).2.1
    · rcases h.settles_or_onward hhead with hsettles | ⟨target, rest, honward, -⟩
      · exact hsettles.unique hb
      · exact absurd honward hb.not_onward
  inModel := fun h => h.1 _ rfl
  collections := by
    intro role c? h
    -- a role with an entity and a path
    have hnamed : ∀ {entity : String} {path : Path} {a : Option PropertyType},
        Path.ofString role = entity :: path → (settled m).Named entity path a →
          m.RoleSettled role (a.bind (·.collection?)) := by
      intro entity path a hrole hnamed
      refine ⟨fun c hc => ?_, fun hnames entity' path' ty t hrole' hfind hsettles => ?_⟩
      · obtain ⟨t, rfl, hct⟩ := Option.bind_eq_some_iff.mp hc
        rw [hrole, List.tail_cons]
        exact ⟨t, hct, settled_named hnamed⟩
      · cases hrole.symm.trans hrole'
        obtain ⟨ty?, ⟨-, hname⟩, hanswer⟩ := hnamed
        obtain rfl := (hname hnames).trans hfind
        rw [settled_first hanswer hsettles, Option.bind_some]
    unfold Role at h
    rcases hrole : Path.ofString role with _ | ⟨entity, _ | ⟨next, rest⟩⟩ <;>
      simp only [hrole] at h
    · exact absurd hrole (Path.ofString_ne_nil role)
    · subst h
      refine ⟨by simp, fun _ entity' path' ty t hrole' _ hsettles => ?_⟩
      cases hrole.symm.trans hrole'
      exact absurd rfl hsettles.path_ne_nil
    · obtain ⟨a, ha, rfl⟩ := h
      exact hnamed hrole ha

end

end Account

namespace Graph

/-- What the graph keeps is settled. -/
structure Settled (m : TypeModel) (g : Graph) : Prop where
  consistent : g.Consistent m
  answers : g.AllKept m.AnswerSettled
  roles : ∀ {role : String} {c : Collection}, g.collections.lookup role = some c →
    m.RoleSettled role (some c)

namespace Settled

variable {m : TypeModel}

theorem empty : Graph.empty.Settled m where
  consistent := empty_consistent m
  answers := by simp [AllKept, Graph.empty]
  roles := by simp [Graph.empty]

theorem lasting (hm : m.Accepted) : Lasting m (Settled m) where
  consistent := fun hg => hg.consistent
  build := fun hg hty hnew hd =>
    { consistent := hg.consistent.build hm hty hnew hd
      answers := hg.answers.build (describeEntity_fields hd).2.2.2.1
      roles := fun hl => hg.roles ((build_tables m _ _).2.1 ▸ hl) }
  setName := fun hg _ h => { hg with consistent := hg.consistent.setName h }

theorem setCollection {g : Graph} (hg : g.Settled m) {role : String} {c : Collection}
    (hin : c.InModel m) (hc : m.RoleSettled role (some c)) : (g.setCollection role c).Settled m := by
  refine { hg with consistent := hg.consistent.setCollection hin, roles := ?_ }
  intro role' c' hl
  rcases lookup_front hl with ⟨rfl, rfl⟩ | hl
  · exact hc
  · exact hg.roles hl

theorem setPathType {g : Graph} (hg : g.Settled m) {id : EntityId} {ty : TypeId} {path : Path}
    {a : Option PropertyType} (hid : g.builtTypes[id]? = some ty)
    (hin : ∀ t, a = some t → t.InModel m) (ha : m.AnswerSettled ty path a) :
    (g.setPathType id path a).Settled m :=
  { hg with
    consistent := hg.consistent.setPathType hin
    answers := hg.answers.setPathType hid ha }

/-- What a name was answered with is an entity type, or none; where entity names differ, it is what
the name stands for. -/
theorem exists_names {g : Graph} (hg : g.Consistent m) {name : String} {answer : Option EntityId}
    (hl : g.byName.lookup name = some answer) :
    ∃ ty?, (Account.settled m).names name ty? ∧ g.Is answer ty? := by
  cases answer with
  | none => exact ⟨none, ⟨by simp, fun _ => (hg.missing hl).symm⟩, .none⟩
  | some id =>
    obtain ⟨e, he, -⟩ := hg.found hl
    have hid := builtTypes_getElem? he
    refine ⟨some e.typeId, ⟨?_, fun hnames => ?_⟩, .some hid⟩
    · rintro _ ⟨⟩
      exact hg.entityType _ (List.mem_of_getElem? hid)
    · obtain ⟨ty, hty, hid'⟩ := is_some_iff.mp (hg.is_of_lookup hnames hl)
      rw [hty, Option.some.inj (hid.symm.trans hid')]

theorem maintains (hm : m.Accepted) (fallback : Bool) :
    (Account.settled m).Maintains m fallback (Settled m) where
  consistent := fun hg => hg.consistent
  resolve := fun name hg => ((lasting hm).resolveEntity_gives hm hg name).mono
    fun _ _ ⟨hg', hext, hl⟩ => ⟨hg', hext, exists_names hg'.consistent hl⟩
  resolveAll := (lasting hm).resolveAll_gives hm
  links := by
    intro g ty hg _ s hs
    cases fallback with
    | false => cases hs
    | true => exact hg.consistent.entityType s (List.mem_of_mem_filter hs)
  kept := fun hg he hl =>
    ⟨fun _ ht => hg.consistent.answers _ he (ht ▸ hl), hg.answers _ he hl⟩
  keep := fun hg hid ha => hg.setPathType hid ha.1 ha.2
  keptCollection := fun hg hl => hg.roles hl
  keepCollection := fun hg hin hc => hg.setCollection hin hc
  keepComponent := fun hg hc => { hg with consistent := hg.consistent.setComponent hc }

theorem of_leadsTo (hm : m.Accepted) {fallback : Bool} {g : Graph}
    (h : Graph.empty.LeadsTo m fallback g) : g.Settled m :=
  h.inv (maintains hm fallback) hm (Account.settled_closed hm) empty

end Settled

end Graph

end EntityQuery
