import RouteDoc.Proofs.Resolution.Registration

/-!
# Resolution in an extended registry

What is registered later changes how an expression reads by a new narrowed built-in type, or by a new
alias that is followed then.

* `Registry.Extends`: entries are added behind all others.  `extends_add`, `extends_addAlias`,
  `extends_resolve`: this is all that happens to a registry.
* `Registry.Follows`: the aliases that are followed when an expression is read.
* `Registry.Precedes`: the registry is extended, by anything but narrowed built-in types.
  `Precedes.read_eq`: an expression reads the same later, if no alias is followed then that was not
  there before.
* `Registry.Precedes.resolve_eq`: **what was resolved once resolves to the same later**, and
  without any effect, if no such alias is followed.
-/

namespace RouteDoc

namespace Registry

variable {r r' s t : Registry} {e q name target : String}

/-! ## Extension -/

/-- Entries are added behind all others, and no name of a definition is taken for an alias. -/
structure Extends (r s : Registry) : Prop where
  definitions : r.definitions.entries <+: s.definitions.entries
  aliases : r.aliases.entries <+: s.aliases.entries
  alias_fresh : ∀ n ∈ s.aliases.keys, n ∈ r.definitions.keys → n ∈ r.aliases.keys

namespace Extends

theorem refl (r : Registry) : Extends r r :=
  ⟨List.prefix_rfl, List.prefix_rfl, fun _ hn _ => hn⟩

theorem trans (h : Extends r s) (g : Extends s t) : Extends r t where
  definitions := h.definitions.trans g.definitions
  aliases := h.aliases.trans g.aliases
  alias_fresh n hn hd :=
    h.alias_fresh n (g.alias_fresh n hn ((h.definitions.map Prod.fst).subset hd)) hd

theorem definition?_eq_some (h : Extends r s) {n : String} {d : Definition}
    (hd : r.definition? n = some d) : s.definition? n = some d :=
  Dict.get?_of_prefix h.definitions hd

theorem isSome_primitive? (h : Extends r s) {n : String} (hn : (r.primitive? n).isSome) :
    (s.primitive? n).isSome := by
  obtain ⟨p, hp⟩ := isSome_primitive?_iff.1 hn
  exact isSome_primitive?_iff.2 ⟨p, h.definition?_eq_some hp⟩

theorem target?_eq_some (h : Extends r s) {n target : String} (ht : r.target? n = some target) :
    s.target? n = some target :=
  Dict.get?_of_prefix h.aliases ht

end Extends

theorem Grows.extends (h : Grows r s) : Extends r s where
  definitions := by
    obtain ⟨ms, hms⟩ := h.entries_eq
    exact ⟨_, hms.symm⟩
  aliases := h.aliases_eq ▸ List.prefix_rfl
  alias_fresh n hn _ := h.aliases_eq ▸ hn

theorem extends_add {d : Definition} {isNew : Bool} (h : r.add d = .ok (s, isNew)) :
    Extends r s := by
  obtain ⟨-, ⟨-, rfl, -⟩ | ⟨hd, rfl, -⟩⟩ := add_eq_ok_iff.1 h
  · exact .refl _
  · refine ⟨?_, List.prefix_rfl, fun _ hn _ => hn⟩
    rw [Dict.entries_put_of_not_mem (Dict.get?_eq_none_iff.1 hd)]
    exact List.prefix_append _ _

theorem extends_addAlias {isNew : Bool} (h : r.addAlias name target = .ok (s, isNew)) :
    Extends r s := by
  obtain ⟨hdef, ⟨-, rfl, -⟩ | ⟨ht, rfl, -⟩⟩ := addAlias_eq_ok_iff.1 h
  · exact .refl _
  have hnew := Dict.get?_eq_none_iff.1 ht
  refine ⟨List.prefix_rfl, ?_, fun n hn hd => ?_⟩
  · rw [Dict.entries_put_of_not_mem hnew]
    exact List.prefix_append _ _
  · rcases Dict.mem_keys_put.1 hn with rfl | hn
    · exact absurd hd hdef
    · exact hn

theorem extends_resolve (r : Registry) (e : String) : Extends r (r.resolve e).1 :=
  (resolve_grows r e).extends

/-! ## Aliases that are followed -/

/-- Reading the expression `e` comes to the alias `a` and follows it. -/
def Follows (r : Registry) (e a : String) : Prop :=
  r.Reaches (Text.strip e) a ∧ ∃ target, Form.of r a = .aliasOf a target

/-- Reading does not leave expressions that have all their parts and targets among them. -/
theorem mem_of_reaches {es : List String} (he : e ∈ es) (hes : ∀ p ∈ es, (Form.of r p).next ⊆ es)
    (h : r.Reaches e q) : q ∈ es := by
  induction h with
  | refl => exact he
  | tail _ hq ih => exact hes _ ih hq

/-- The aliases that are followed are among such expressions, too. -/
theorem mem_of_follows {es : List String} (he : Text.strip e ∈ es)
    (hes : ∀ p ∈ es, (Form.of r p).next ⊆ es) {a : String} (h : r.Follows e a) :
    a ∈ es ∧ a ∈ r.aliases.keys := by
  obtain ⟨hreach, target, hf⟩ := h
  exact ⟨mem_of_reaches he hes hreach, (Form.mem_aliases hf).2⟩

/-! ## Other definitions than narrowed built-in types -/

/-- The registry is extended, by anything but narrowed built-in types. -/
structure Precedes (r s : Registry) : Prop extends Extends r s where
  isSome_primitive?_eq : ∀ n, (s.primitive? n).isSome = (r.primitive? n).isSome

namespace Precedes

theorem refl (r : Registry) : Precedes r r := ⟨.refl r, fun _ => rfl⟩

theorem trans (h : Precedes r s) (g : Precedes s t) : Precedes r t :=
  ⟨h.toExtends.trans g.toExtends,
    fun n => (g.isSome_primitive?_eq n).trans (h.isSome_primitive?_eq n)⟩

/-- The form of an expression stays the same, unless it is a new alias. -/
theorem form_eq (h : Precedes r s)
    (hnew : ∀ target, Form.of s e = .aliasOf e target → e ∈ r.aliases.keys) :
    Form.of s e = Form.of r e := by
  cases hr : r.target? e with
  | some t => simp only [Form.of, h.isSome_primitive?_eq, hr, h.target?_eq_some hr]
  | none =>
    have hnot : ∀ target, Form.of s e ≠ .aliasOf e target := fun target ht =>
      Dict.get?_eq_none_iff.1 hr (hnew target ht)
    simp only [Form.of, h.isSome_primitive?_eq, hr] at hnot ⊢
    repeat' split
    all_goals simp_all

theorem read_eq (h : Precedes r s) (hnew : ∀ a, s.Follows e a → a ∈ r.aliases.keys) :
    s.read e = r.read e :=
  readFrom_eq_of_reaches (fun p hp => h.form_eq fun target hf => hnew p ⟨hp, target, hf⟩) []

end Precedes

theorem precedes_bind (r : Registry) (c : ClassRef) (name : String) : Precedes r (r.bind c name) :=
  ⟨⟨List.prefix_rfl, List.prefix_rfl, fun _ hn _ => hn⟩, fun _ => rfl⟩

theorem Grows.precedes (h : Grows r s) : Precedes r s :=
  ⟨h.extends, fun n => (h.readsAlike.isSome_primitive? n).symm⟩

theorem precedes_resolve (r : Registry) (e : String) : Precedes r (r.resolve e).1 :=
  (resolve_grows r e).precedes

theorem precedes_addAlias {isNew : Bool} (h : r.addAlias name target = .ok (s, isNew)) :
    Precedes r s := by
  refine ⟨extends_addAlias h, fun n => ?_⟩
  obtain ⟨-, ⟨-, rfl, -⟩ | ⟨-, rfl, -⟩⟩ := addAlias_eq_ok_iff.1 h <;> rfl

theorem precedes_add {d : Definition} {isNew : Bool} (hd : ∀ p, d ≠ .primitive p)
    (h : r.add d = .ok (s, isNew)) : Precedes r s := by
  refine ⟨extends_add h, fun n => ?_⟩
  obtain ⟨-, ⟨-, rfl, -⟩ | ⟨hnone, rfl, -⟩⟩ := add_eq_ok_iff.1 h
  · rfl
  · rw [Bool.eq_iff_iff, isSome_primitive?_iff, isSome_primitive?_iff]
    simp only [definition?_put]
    by_cases hn : d.name = n
    · subst hn
      simp [hnone, hd]
    · simp [hn]

/-- **What was resolved once resolves to the same later**, and without any effect, if no alias is
followed then that was not there before. -/
theorem Precedes.resolve_eq {d : Descriptor} (h : r.resolve e = (r', .ok d)) (hs : Precedes r' s)
    (hnew : ∀ a, s.Follows e a → a ∈ r.aliases.keys) : s.resolve e = (s, .ok d) := by
  have hgrows := grows_of_resolve_eq h
  have hrs : Precedes r s := hgrows.precedes.trans hs
  obtain ⟨ms, hread, hreg⟩ := resolve_eq_ok_iff.1 h
  have hadmits := register_eq_ok_iff.1 ⟨r', hreg⟩
  refine resolve_eq_ok_iff.2 ⟨ms, (hrs.read_eq hnew).trans hread, ?_⟩
  refine register_of_definition?_eq fun m hm => ?_
  have hd : r'.definition? m.name = some (.map m) :=
    (definition?_of_register hreg).2 (.inr ⟨m, hm, rfl, rfl⟩)
  refine ⟨fun ha => ?_, hs.definition?_eq_some hd⟩
  -- the name of a map type is not taken for an alias later
  have ha' := hs.alias_fresh m.name ha (Dict.mem_keys_of_get?_eq_some hd)
  rw [hgrows.aliases_eq] at ha'
  exact hadmits.name_not_alias m hm ha'

end Registry

end RouteDoc
