import RouteDoc.Proofs.Resolution.Registration

/-!
# Resolution next to further map types

Map types that come in on the side do not change what an expression resolves to, unless one of them
has the name of another definition.

* `Registry.Joins`: the second registry has the definitions of the first, and some map types.
* `Registry.AgreesWith`: the names of map types stand for nothing else.
* `Registry.Joins.resolve`: **an expression resolves to the same next to map types that agree** with
  what is registered in the end.
-/

namespace RouteDoc

namespace Registry

variable {ms ks : List MapType} {r r' s s' u : Registry}

/-- The second registry has the definitions of the first, and some map types. -/
structure Joins (ms : List MapType) (r s : Registry) : Prop where
  aliases_eq : s.aliases = r.aliases
  definition?_iff : ∀ n d,
    s.definition? n = some d ↔ r.definition? n = some d ∨ ∃ m ∈ ms, m.name = n ∧ d = .map m

/-- The names of map types stand for nothing else. -/
def AgreesWith (r : Registry) (ms : List MapType) : Prop :=
  ∀ m ∈ ms, ∀ d, r.definition? m.name = some d → d = .map m

/-- What growth adds are new names. -/
theorem Grows.exists_joins (h : Grows r s) :
    ∃ ms, Joins ms r s ∧ ∀ m ∈ ms, r.definition? m.name = none := by
  obtain ⟨ms, hms⟩ := h.entries_eq
  refine ⟨ms, ⟨h.aliases_eq, fun n d => ?_⟩, fun m hm => ?_⟩
  · rw [definition?, definition?, Dict.get?_eq_some_iff, Dict.get?_eq_some_iff, hms]
    simp [eq_comm]
  · -- the name would stand twice among the keys
    have hnodup := s.definitions.nodup
    rw [hms, List.map_append, List.nodup_append] at hnodup
    refine Dict.get?_eq_none_iff.2 fun hkey => hnodup.2.2 _ hkey m.name ?_ rfl
    exact List.mem_map.2 ⟨_, List.mem_map_of_mem hm, rfl⟩

/-- What stands under a name after a definition came in. -/
theorem definition?_of_add {d : Definition} {isNew : Bool} (h : r.add d = .ok (s, isNew))
    (n : String) : s.definition? n = if d.name = n then some d else r.definition? n := by
  obtain ⟨-, ⟨hd, rfl, -⟩ | ⟨-, rfl, -⟩⟩ := add_eq_ok_iff.1 h
  · split
    · rename_i hname
      rw [← hname, hd]
    · rfl
  · exact definition?_put d n

namespace Joins

theorem primitive?_eq (h : Joins ms r s) (n : String) : s.primitive? n = r.primitive? n := by
  refine Option.ext fun p => ?_
  rw [primitive?_eq_some_iff, primitive?_eq_some_iff, h.definition?_iff]
  simp

theorem readsAlike (h : Joins ms r s) : ReadsAlike r s :=
  ⟨h.aliases_eq.symm, fun n => by rw [h.primitive?_eq]⟩

theorem baseOf_eq (h : Joins ms r s) (d : Descriptor) : s.baseOf d = r.baseOf d := by
  rw [baseOf, baseOf, h.primitive?_eq]

/-- A map type that comes in on both sides is the one of its name. -/
theorem of_add (h : Joins ms r s) {k : MapType} (hk : ∀ m ∈ ms, m.name = k.name → m = k)
    {isNew isNew' : Bool} (hr : r.add (.map k) = .ok (r', isNew))
    (hs : s.add (.map k) = .ok (s', isNew')) : Joins ms r' s' where
  aliases_eq := by
    rw [(add_map_grows hr).aliases_eq, (add_map_grows hs).aliases_eq, h.aliases_eq]
  definition?_iff n d := by
    rw [definition?_of_add hr, definition?_of_add hs]
    split
    · rename_i hname
      refine ⟨.inl, ?_⟩
      rintro (hd | ⟨m, hm, hmn, rfl⟩)
      · exact hd
      · rw [hk m hm (hmn.trans hname.symm)]
    · exact h.definition?_iff n d

/-- A map type that comes in on one side comes in on the other. -/
theorem add_ok (h : Joins ms r s) {k : MapType} (hk : ∀ m ∈ ms, m.name = k.name → m = k)
    {isNew : Bool} (hr : r.add (.map k) = .ok (r', isNew)) :
    ∃ s' isNew', s.add (.map k) = .ok (s', isNew') := by
  obtain ⟨halias, hcases⟩ := add_eq_ok_iff.1 hr
  rw [← h.aliases_eq] at halias
  cases hd : s.definition? k.name with
  | none => exact ⟨_, true, add_eq_ok_iff.2 ⟨halias, .inr ⟨hd, rfl, rfl⟩⟩⟩
  | some d =>
    refine ⟨s, false, add_eq_ok_iff.2 ⟨halias, .inl ⟨hd.trans ?_, rfl, rfl⟩⟩⟩
    rcases (h.definition?_iff _ _).1 hd with hold | ⟨m, hm, hname, rfl⟩
    · obtain ⟨hrk, -⟩ | ⟨hrk, -⟩ := hcases
      · exact hold.symm.trans hrk
      · exact absurd (hold.symm.trans hrk) (by simp)
    · rw [hk m hm hname]

theorem add_error (h : Joins ms r s) {k : MapType} {fault : TypeFault}
    (hr : r.add (.map k) = .error fault) : s.add (.map k) = .error fault := by
  unfold add at hr ⊢
  rw [h.aliases_eq]
  split at hr
  · rw [if_pos ‹_›, hr]
  · rw [if_neg ‹_›]
    split at hr
    · rename_i old hold
      have hold' : s.definitions.get? (Definition.map k).name = some old :=
        (h.definition?_iff _ _).2 (.inl hold)
      simp only [hold']
      split at hr
      · exact absurd hr (by simp)
      · rw [if_neg ‹_›, hr]
    · exact absurd hr (by simp)

/-- The same map types are registered, and the same conflicts met. -/
theorem register (h : Joins ms r s) (hu : u.AgreesWith ms) (hgrows : Grows (r.register ks).1 u) :
    Joins ms (r.register ks).1 (s.register ks).1 ∧ (s.register ks).2 = (r.register ks).2 := by
  induction ks generalizing r s with
  | nil => exact ⟨h, rfl⟩
  | cons k ks ih =>
    unfold Registry.register at hgrows ⊢
    cases hr : r.add (.map k) with
    | error fault =>
      rw [h.add_error hr]
      exact ⟨h, rfl⟩
    | ok added =>
      obtain ⟨r', isNew⟩ := added
      simp only [hr] at hgrows
      -- `k` is there in the end, and map types agree with that
      have hk : ∀ m ∈ ms, m.name = k.name → m = k := by
        intro m hm hname
        have hdef : u.definition? m.name = some (.map k) := by
          refine ((register_grows r' ks).trans hgrows).definition?_eq_some ?_
          rw [definition?_of_add hr]
          exact if_pos hname.symm
        exact (Definition.map.inj (hu m hm _ hdef)).symm
      obtain ⟨s', isNew', hs⟩ := h.add_ok hk hr
      rw [hs]
      exact ih (h.of_add hk hr hs) hgrows

/-- **An expression resolves to the same** next to map types that agree with what is registered in
the end. -/
theorem resolve (h : Joins ms r s) (hu : u.AgreesWith ms) {e : String}
    (hgrows : Grows (r.resolve e).1 u) :
    Joins ms (r.resolve e).1 (s.resolve e).1 ∧ (s.resolve e).2 = (r.resolve e).2 := by
  rw [resolve_eq, resolve_eq, ← h.readsAlike.read_eq] at *
  have hregistered : Grows (r.register (r.read e).maps).1 u := by
    split at hgrows <;> rename_i heq <;> rwa [heq]
  have hregister := h.register hu hregistered
  generalize r.register (r.read e).maps = x at *
  generalize s.register (r.read e).maps = y at *
  obtain ⟨r', fault | ⟨⟩⟩ := x
  · obtain ⟨s', _⟩ := y
    obtain ⟨hjoins, rfl⟩ := hregister
    exact ⟨hjoins, rfl⟩
  · obtain ⟨s', _⟩ := y
    obtain ⟨hjoins, rfl⟩ := hregister
    exact ⟨hjoins, rfl⟩

end Joins

end Registry

end RouteDoc
