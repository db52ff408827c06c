import RouteDoc.Proofs.Dict
import RouteDoc.Proofs.Resolution.Reading

/-!
# Registration of map types

Resolution first reads, then registers the map types that reading has met.

* `Registry.add_eq_ok_iff`, `Registry.addAlias_eq_ok_iff`: when a definition or an alias is accepted,
  and what the registry is then.
* `Registry.Grows`: some map types are added behind all definitions, and nothing else changes.
  `register_grows`, `resolve_grows`: this is all that registration and resolution do, also when they
  fail.
* `Registry.Admits`: the map types agree with the registry and with each other.
  `register_eq_ok_iff`: those are the ones that can be registered, in any order.
* `Registry.resolve_eq_ok_iff`: resolution in two steps.
-/

namespace RouteDoc

namespace Registry

variable {r s t : Registry}

/-! ## Single additions -/

theorem primitive?_eq_some_iff {n : String} {p : Primitive} :
    r.primitive? n = some p ↔ r.definition? n = some (.primitive p) := by
  unfold primitive?
  split <;> simp_all

theorem isSome_primitive?_iff {n : String} :
    (r.primitive? n).isSome ↔ ∃ p, r.definition? n = some (.primitive p) := by
  simp only [Option.isSome_iff_exists, primitive?_eq_some_iff]

theorem add_eq_ok_iff {d : Definition} {isNew : Bool} :
    r.add d = .ok (s, isNew) ↔ d.name ∉ r.aliases.keys ∧
      ((r.definition? d.name = some d ∧ s = r ∧ isNew = false) ∨
        (r.definition? d.name = none ∧
          s = { r with definitions := r.definitions.put d.name d } ∧ isNew = true)) := by
  unfold add definition?
  by_cases ha : d.name ∈ r.aliases.keys
  · simp [Dict.contains_iff.2 ha, ha]
  · have hc : r.aliases.contains d.name = false := by
      rw [← Bool.not_eq_true, Dict.contains_iff]
      exact ha
    cases hd : r.definitions.get? d.name with
    | none => simp [hc, ha, eq_comm]
    | some old =>
      by_cases ho : old = d
      · simp [hc, ha, ho, eq_comm]
      · simp [hc, ha, ho]

theorem definition?_put (d : Definition) (n : String) :
    ({ r with definitions := r.definitions.put d.name d } : Registry).definition? n =
      if d.name = n then some d else r.definition? n :=
  Dict.get?_put ..

theorem addAlias_eq_ok_iff {name target : String} {isNew : Bool} :
    r.addAlias name target = .ok (s, isNew) ↔ name ∉ r.definitions.keys ∧
      ((r.target? name = some target ∧ s = r ∧ isNew = false) ∨
        (r.target? name = none ∧ s = { r with aliases := r.aliases.put name target } ∧
          isNew = true)) := by
  unfold addAlias target?
  by_cases hd : name ∈ r.definitions.keys
  · simp [Dict.contains_iff.2 hd, hd]
  · have hc : r.definitions.contains name = false := by
      rw [← Bool.not_eq_true, Dict.contains_iff]
      exact hd
    cases ha : r.aliases.get? name with
    | none => simp [hc, hd, eq_comm]
    | some old =>
      by_cases ho : old = target
      · simp [hc, hd, ho, eq_comm]
      · simp [hc, hd, ho]

/-! ## Growth -/

/-- Some map types are added behind all definitions, each under its own name, and nothing else
changes. -/
structure Grows (r s : Registry) : Prop where
  aliases_eq : s.aliases = r.aliases
  classes_eq : s.classes = r.classes
  entries_eq : ∃ ms : List MapType,
    s.definitions.entries = r.definitions.entries ++ ms.map fun m => (m.name, .map m)

namespace Grows

theorem refl (r : Registry) : Grows r r := ⟨rfl, rfl, [], by simp⟩

theorem trans (h : Grows r s) (g : Grows s t) : Grows r t := by
  obtain ⟨ms, hms⟩ := h.entries_eq
  obtain ⟨ns, hns⟩ := g.entries_eq
  exact ⟨g.aliases_eq.trans h.aliases_eq, g.classes_eq.trans h.classes_eq, ms ++ ns,
    by rw [hns, hms, List.map_append, List.append_assoc]⟩

theorem definition?_eq_some (h : Grows r s) {n : String} {d : Definition}
    (hd : r.definition? n = some d) : s.definition? n = some d := by
  obtain ⟨ms, hms⟩ := h.entries_eq
  exact Dict.get?_of_prefix ⟨_, hms.symm⟩ hd

/-- What is there after growth was there before, or is a map type under its own name. -/
theorem definition?_or (h : Grows r s) {n : String} {d : Definition}
    (hd : s.definition? n = some d) :
    r.definition? n = some d ∨ ∃ m : MapType, m.name = n ∧ d = .map m := by
  obtain ⟨ms, hms⟩ := h.entries_eq
  have hmem : (n, d) ∈ s.definitions.entries := Dict.get?_eq_some_iff.1 hd
  rw [hms] at hmem
  rcases List.mem_append.1 hmem with hmem | hmem
  · exact .inl (Dict.get?_eq_some_iff.2 hmem)
  · obtain ⟨m, -, hm⟩ := List.mem_map.1 hmem
    obtain ⟨rfl, rfl⟩ := Prod.mk.injEq .. ▸ hm
    exact .inr ⟨m, rfl, rfl⟩

/-- Map types are no narrowed built-in types, so growth changes no reading. -/
theorem readsAlike (h : Grows r s) : ReadsAlike r s where
  aliases_eq := h.aliases_eq.symm
  isSome_primitive? n := by
    rw [Bool.eq_iff_iff, isSome_primitive?_iff, isSome_primitive?_iff]
    constructor
    · rintro ⟨p, hp⟩
      exact ⟨p, h.definition?_eq_some hp⟩
    · rintro ⟨p, hp⟩
      rcases h.definition?_or hp with hp | ⟨m, -, hm⟩
      · exact ⟨p, hp⟩
      · exact absurd hm (by simp)

end Grows

theorem add_map_grows {m : MapType} {isNew : Bool} (h : r.add (.map m) = .ok (s, isNew)) :
    Grows r s := by
  obtain ⟨-, ⟨-, rfl, -⟩ | ⟨hd, rfl, -⟩⟩ := add_eq_ok_iff.1 h
  · exact .refl _
  · exact ⟨rfl, rfl, [m], Dict.entries_put_of_not_mem (Dict.get?_eq_none_iff.1 hd)⟩

theorem register_grows (r : Registry) (ms : List MapType) : Grows r (r.register ms).1 := by
  induction ms generalizing r with
  | nil => exact .refl r
  | cons m ms ih =>
    unfold register
    split
    · rename_i s _ h
      exact (add_map_grows h).trans (ih s)
    · exact .refl r

/-- What stands under a name after registration, also after a failed one. -/
theorem definition?_register_or {ms : List MapType} {n : String} {d : Definition}
    (h : (r.register ms).1.definition? n = some d) :
    r.definition? n = some d ∨ ∃ m ∈ ms, m.name = n ∧ d = .map m := by
  induction ms generalizing r with
  | nil => exact .inl h
  | cons m ms ih =>
    unfold register at h
    split at h
    · rename_i s _ hadd
      rcases ih h with h | ⟨k, hk, hname⟩
      · obtain ⟨-, ⟨-, rfl, -⟩ | ⟨-, rfl, -⟩⟩ := add_eq_ok_iff.1 hadd
        · exact .inl h
        · rw [definition?_put] at h
          split at h
          · rename_i hname
            exact .inr ⟨m, List.mem_cons_self, hname, (Option.some.inj h).symm⟩
          · exact .inl h
      · exact .inr ⟨k, List.mem_cons_of_mem m hk, hname⟩
    · exact .inl h

/-! ## What can be registered -/

/-- Map types that agree with the registry and with each other: none has the name of an alias, and
the names that are in use stand for the same map type. -/
structure Admits (r : Registry) (ms : List MapType) : Prop where
  name_not_alias : ∀ m ∈ ms, m.name ∉ r.aliases.keys
  eq_of_definition? : ∀ m ∈ ms, ∀ d, r.definition? m.name = some d → d = .map m
  eq_of_name_eq : ∀ m ∈ ms, ∀ n ∈ ms, m.name = n.name → m = n

theorem Admits.of_subset {ms ns : List MapType} (h : r.Admits ns) (hs : ms ⊆ ns) : r.Admits ms where
  name_not_alias m hm := h.name_not_alias m (hs hm)
  eq_of_definition? m hm := h.eq_of_definition? m (hs hm)
  eq_of_name_eq m hm n hn := h.eq_of_name_eq m (hs hm) n (hs hn)

/-- The first map type is accepted, and the others still agree with the registry after it. -/
theorem admits_cons_iff {m : MapType} {ms : List MapType} :
    r.Admits (m :: ms) ↔ ∃ s isNew, r.add (.map m) = .ok (s, isNew) ∧ s.Admits ms := by
  constructor
  · intro h
    have halias := h.name_not_alias m List.mem_cons_self
    cases hd : r.definition? m.name with
    | some d =>
      obtain rfl := h.eq_of_definition? m List.mem_cons_self d hd
      exact ⟨r, false, add_eq_ok_iff.2 ⟨halias, .inl ⟨hd, rfl, rfl⟩⟩,
        h.of_subset (List.subset_cons_self m ms)⟩
    | none =>
      refine ⟨_, true, add_eq_ok_iff.2 ⟨halias, .inr ⟨hd, rfl, rfl⟩⟩, ?_⟩
      refine ⟨fun n hn => h.name_not_alias n (List.mem_cons_of_mem m hn), fun n hn d hnd => ?_,
        fun n hn k hk => h.eq_of_name_eq n (List.mem_cons_of_mem m hn) k
          (List.mem_cons_of_mem m hk)⟩
      rw [definition?_put] at hnd
      split at hnd
      · rename_i hname
        rw [← Option.some.inj hnd,
          h.eq_of_name_eq m List.mem_cons_self n (List.mem_cons_of_mem m hn) hname]
      · exact h.eq_of_definition? n (List.mem_cons_of_mem m hn) d hnd
  · rintro ⟨s, isNew, hadd, hs⟩
    have hg := add_map_grows hadd
    obtain ⟨halias, hcases⟩ := add_eq_ok_iff.1 hadd
    -- after the step the registry holds `m` under its name
    have hm : s.definition? m.name = some (.map m) := by
      obtain ⟨hd, rfl, -⟩ | ⟨-, rfl, -⟩ := hcases
      · exact hd
      · exact (definition?_put _ _).trans (if_pos rfl)
    have hmn : ∀ n ∈ ms, m.name = n.name → m = n := fun n hn hname =>
      Definition.map.inj (hs.eq_of_definition? n hn _ (hname ▸ hm))
    refine ⟨?_, ?_, ?_⟩
    · rintro n (_ | ⟨_, hn⟩)
      · exact halias
      · rw [← hg.aliases_eq]
        exact hs.name_not_alias n hn
    · rintro n (_ | ⟨_, hn⟩) d hd
      · exact Option.some.inj ((hg.definition?_eq_some hd).symm.trans hm)
      · exact hs.eq_of_definition? n hn d (hg.definition?_eq_some hd)
    · rintro n (_ | ⟨_, hn⟩) k (_ | ⟨_, hk⟩) hname
      · rfl
      · exact hmn k hk hname
      · exact (hmn n hn hname.symm).symm
      · exact hs.eq_of_name_eq n hn k hk hname

theorem register_eq_ok_iff {ms : List MapType} : (∃ s, r.register ms = (s, .ok ())) ↔ r.Admits ms := by
  induction ms generalizing r with
  | nil =>
    exact ⟨fun _ => ⟨by simp, by simp, by simp⟩, fun _ => ⟨r, rfl⟩⟩
  | cons m ms ih =>
    rw [admits_cons_iff]
    cases hadd : r.add (.map m) with
    | error fault => simp [register, hadd]
    | ok p =>
      obtain ⟨s, isNew⟩ := p
      simp only [register, hadd, Except.ok.injEq, Prod.mk.injEq]
      rw [ih]
      constructor
      · exact fun h => ⟨s, isNew, ⟨rfl, rfl⟩, h⟩
      · rintro ⟨_, _, ⟨rfl, rfl⟩, h⟩
        exact h

/-- Registration fails at a conflict only. -/
theorem exists_of_register_eq_error {ms : List MapType} {fault : TypeFault} (h : r.register ms = (s, .error fault)) :
    ∃ name, fault = .conflict name := by
  induction ms generalizing r with
  | nil => exact absurd h (by simp [register])
  | cons m ms ih =>
    unfold register at h
    split at h
    · exact ih h
    · rename_i hadd
      obtain ⟨-, hf⟩ := Prod.mk.injEq .. ▸ h
      obtain rfl := Except.error.inj hf
      unfold add at hadd
      repeat' split at hadd
      all_goals simp at hadd
      all_goals exact ⟨_, hadd.symm⟩

theorem register_append (r : Registry) (ms ns : List MapType) :
    r.register (ms ++ ns) = match r.register ms with
      | (s, .ok _) => s.register ns
      | (s, .error fault) => (s, .error fault) := by
  induction ms generalizing r with
  | nil => rfl
  | cons m ms ih =>
    simp only [List.cons_append, register]
    cases r.add (.map m) with
    | error fault => rfl
    | ok p => exact ih p.1

/-- After registration a name stands for what it stood for, or for the map type of that name. -/
theorem definition?_of_register {ms : List MapType} (h : r.register ms = (s, .ok ())) {n : String}
    {d : Definition} :
    s.definition? n = some d ↔ r.definition? n = some d ∨ ∃ m ∈ ms, m.name = n ∧ d = .map m := by
  induction ms generalizing r with
  | nil =>
    cases h
    simp
  | cons m ms ih =>
    unfold register at h
    split at h
    · rename_i t _ hadd
      rw [ih h]
      simp only [List.mem_cons, exists_eq_or_imp]
      obtain ⟨-, ⟨hm, rfl, -⟩ | ⟨hm, rfl, -⟩⟩ := add_eq_ok_iff.1 hadd
      · constructor
        · exact Or.imp_right .inr
        · rintro (hd | ⟨rfl, rfl⟩ | hms)
          · exact .inl hd
          · exact .inl hm
          · exact .inr hms
      · rw [definition?_put]
        by_cases hn : m.name = n
        · subst hn
          have hmd : (Definition.map m).name = m.name := rfl
          have hnone : r.definition? m.name = none := hm
          simp [hmd, hnone, eq_comm]
        · have hmd : ¬ (Definition.map m).name = n := hn
          simp [hmd, hn]
    · exact absurd h (by simp)

/-- What is there already is registered without any effect. -/
theorem register_of_definition?_eq {ms : List MapType}
    (h : ∀ m ∈ ms, m.name ∉ r.aliases.keys ∧ r.definition? m.name = some (.map m)) :
    r.register ms = (r, .ok ()) := by
  induction ms with
  | nil => rfl
  | cons m ms ih =>
    obtain ⟨halias, hd⟩ := h m List.mem_cons_self
    have hadd : r.add (.map m) = .ok (r, false) := add_eq_ok_iff.2 ⟨halias, .inl ⟨hd, rfl, rfl⟩⟩
    simp only [register, hadd]
    exact ih fun n hn => h n (List.mem_cons_of_mem m hn)

/-! ## Resolution -/

theorem resolve_eq (r : Registry) (e : String) :
    r.resolve e = match r.register (r.read e).maps with
      | (s, .ok _) => (s, (r.read e).outcome)
      | (s, .error fault) => (s, .error fault) :=
  rfl

theorem resolve_eq_mk {e : String} {outcome : Except TypeFault Descriptor}
    (h : (r.resolve e).2 = outcome) : r.resolve e = ((r.resolve e).1, outcome) :=
  Prod.ext rfl h

theorem resolve_eq_ok_iff {e : String} {d : Descriptor} :
    r.resolve e = (s, .ok d) ↔ ∃ ms, r.read e = ⟨ms, .ok d⟩ ∧ r.register ms = (s, .ok ()) := by
  rw [resolve_eq]
  constructor
  · intro h
    refine ⟨(r.read e).maps, ?_⟩
    split at h
    · rename_i hreg
      obtain ⟨rfl, hd⟩ := Prod.mk.injEq .. ▸ h
      exact ⟨by rw [← hd], hreg⟩
    · exact absurd h (by simp)
  · rintro ⟨ms, hread, hreg⟩
    simp only [hread, hreg]

theorem resolve_grows (r : Registry) (e : String) : Grows r (r.resolve e).1 := by
  have h := register_grows r (r.read e).maps
  rw [resolve_eq]
  split <;> rename_i hreg <;> rwa [hreg] at h

theorem grows_of_resolve_eq {e : String} {outcome : Except TypeFault Descriptor}
    (h : r.resolve e = (s, outcome)) : Grows r s := by
  simpa only [h] using resolve_grows r e

/-- What stands under a name after a resolution, also after a failed one. -/
theorem definition?_resolve_or {e n : String} {d : Definition}
    (h : (r.resolve e).1.definition? n = some d) :
    r.definition? n = some d ∨ ∃ m ∈ (r.read e).maps, m.name = n ∧ d = .map m := by
  refine definition?_register_or ?_
  rw [resolve_eq] at h
  split at h <;> rename_i hreg <;> rwa [hreg]

end Registry

end RouteDoc
