import RouteDoc.Documentation
import RouteDoc.Proofs.Dict

/-!
# Collections of types

* `TypeCollection.Has`: a name is collected, or noted as one without a definition.
* `TypeCollection.Covers`: the collected types are the definitions of their names, and the collection
  has all names that they refer to, except for those that are still to be collected.
* `TypeCollection.collect_induct`: what every step of a collection keeps holds in the end.
* `TypeCollection.Covers.collect`: **collecting the names that are left covers all**, whatever cycles
  there are among the definitions.  `has_collect`: it has the names then, and loses none.
-/

namespace RouteDoc

namespace TypeCollection

variable {defs defs' : Dict String Definition} {c : TypeCollection} {n m : String} {d : Definition}
  {todo rest : List String}

/-- A name is collected, or noted as one without a definition. -/
def Has (c : TypeCollection) (n : String) : Prop := n ∈ c.types.keys ∨ n ∈ c.missing

/-- The collected types are the definitions of their names, and the collection has all names that
they refer to, except for those that are still to be collected. -/
structure Covers (defs : Dict String Definition) (todo : List String) (c : TypeCollection) :
    Prop where
  definition : ∀ n d, c.types.get? n = some d → defs.get? n = some d
  dependents : ∀ n d, c.types.get? n = some d → ∀ m ∈ d.dependents, c.Has m ∨ m ∈ todo

theorem covers_empty (defs : Dict String Definition) (todo : List String) : Covers defs todo {} where
  definition n d h := absurd h (by simp [Dict.get?, Dict.findIn])
  dependents n d h := absurd h (by simp [Dict.get?, Dict.findIn])

/-- New definitions do not matter. -/
theorem Covers.mono (h : Covers defs todo c)
    (hdefs : ∀ n d, defs.get? n = some d → defs'.get? n = some d) : Covers defs' todo c :=
  ⟨fun n d hd => hdefs n d (h.definition n d hd), h.dependents⟩

theorem Covers.mono_todo (h : Covers defs todo c) (hs : todo ⊆ rest) : Covers defs rest c :=
  ⟨h.definition, fun n d hd m hm => (h.dependents n d hd m hm).imp_right fun hm => hs hm⟩

/-! ## Single steps -/

theorem has_miss (c : TypeCollection) (n : String) : (c.miss n).Has n := by
  unfold miss
  split
  · exact .inr ‹_›
  · exact .inr (by simp)

theorem types_miss (c : TypeCollection) (n : String) : (c.miss n).types = c.types := by
  unfold miss
  split <;> rfl

theorem mem_missing_miss_iff : m ∈ (c.miss n).missing ↔ m = n ∨ m ∈ c.missing := by
  unfold miss
  split
  · rename_i hn
    exact ⟨.inr, fun h => h.elim (fun h => h ▸ hn) id⟩
  · simp [or_comm]

theorem Has.miss (h : c.Has m) (n : String) : (c.miss n).Has m := by
  rcases h with h | h
  · exact .inl (types_miss c n ▸ h)
  · unfold TypeCollection.miss
    split
    · exact .inr h
    · exact .inr (List.mem_append_left _ h)

theorem has_put (c : TypeCollection) (n : String) (d : Definition) :
    ({ c with types := c.types.put n d } : TypeCollection).Has n :=
  .inl (Dict.mem_keys_put.2 (.inl rfl))

theorem Has.put (h : c.Has m) (n : String) (d : Definition) :
    ({ c with types := c.types.put n d } : TypeCollection).Has m :=
  h.imp_left fun h => Dict.mem_keys_put.2 (.inr h)

/-- The first name need not be collected again. -/
theorem Covers.skip (h : Covers defs (n :: rest) c) (hn : c.Has n) : Covers defs rest c := by
  refine ⟨h.definition, fun k e hk m hm => ?_⟩
  rcases h.dependents k e hk m hm with hm | hm
  · exact .inl hm
  · rcases List.mem_cons.1 hm with rfl | hm
    · exact .inl hn
    · exact .inr hm

theorem Covers.miss (h : Covers defs todo c) (n : String) : Covers defs todo (c.miss n) where
  definition k e hk := h.definition k e (types_miss c n ▸ hk)
  dependents k e hk m hm := (h.dependents k e (types_miss c n ▸ hk) m hm).imp_left (·.miss n)

/-- A definition comes in, and the names that it refers to are still to be collected. -/
theorem Covers.put (h : Covers defs (n :: rest) c) (hd : defs.get? n = some d) :
    Covers defs (d.dependents ++ rest) { c with types := c.types.put n d } where
  definition k e hk := by
    rw [Dict.get?_put] at hk
    split at hk
    · rename_i hnk
      rw [← hnk, hd, hk]
    · exact h.definition k e hk
  dependents k e hk m hm := by
    rw [Dict.get?_put] at hk
    split at hk
    · obtain rfl := Option.some.inj hk
      exact .inr (List.mem_append_left _ hm)
    · rcases h.dependents k e hk m hm with hm | hm
      · exact .inl (hm.put n d)
      · rcases List.mem_cons.1 hm with rfl | hm
        · exact .inl (has_put c m d)
        · exact .inr (List.mem_append_right _ hm)

/-! ## Whole collections -/

theorem collect_of_contains (hc : c.types.contains n = true) :
    c.collect defs (n :: rest) = c.collect defs rest := by
  rw [collect, dif_pos hc]

theorem collect_of_eq_none (hc : ¬ c.types.contains n = true) (hd : defs.get? n = none) :
    c.collect defs (n :: rest) = (c.miss n).collect defs rest := by
  rw [collect, dif_neg hc]
  split
  · rfl
  · simp_all

theorem collect_of_eq_some (hc : ¬ c.types.contains n = true) (hd : defs.get? n = some d) :
    c.collect defs (n :: rest) =
      collect defs (d.dependents ++ rest) { c with types := c.types.put n d } := by
  rw [collect, dif_neg hc]
  split
  · simp_all
  · rename_i d' hd'
    rw [Option.some.inj (hd.symm.trans hd')]

/-- What every step of a collection keeps holds in the end, when no name is left. -/
theorem collect_induct {P : List String → TypeCollection → Prop}
    (collected : ∀ n rest c, n ∈ c.types.keys → P (n :: rest) c → P rest c)
    (undefined : ∀ n rest c, n ∉ c.types.keys → defs.get? n = none → P (n :: rest) c →
      P rest (c.miss n))
    (defined : ∀ n rest c d, n ∉ c.types.keys → defs.get? n = some d → P (n :: rest) c →
      P (d.dependents ++ rest) { c with types := c.types.put n d })
    (h : P todo c) : P [] (c.collect defs todo) := by
  induction todo, c using collect.induct defs with
  | case1 c => rwa [collect]
  | case2 n rest c hc ih =>
    rw [collect_of_contains hc]
    exact ih (collected n rest c (Dict.contains_iff.1 hc) h)
  | case3 n rest c hc hd ih =>
    rw [collect_of_eq_none hc hd]
    exact ih (undefined n rest c (mt Dict.contains_iff.2 hc) hd h)
  | case4 n rest c hc d hd _ ih =>
    rw [collect_of_eq_some hc hd]
    exact ih (defined n rest c d (mt Dict.contains_iff.2 hc) hd h)

/-- **Collecting the names that are left covers all.** -/
theorem Covers.collect (h : Covers defs todo c) : Covers defs [] (c.collect defs todo) :=
  collect_induct (fun _ _ _ hn h => h.skip (.inl hn))
    (fun n _ c _ _ h => (h.miss n).skip (has_miss c n)) (fun _ _ _ _ _ hd h => h.put hd) h

/-- The names that were left, and those that were there before, are there after it. -/
theorem has_collect (h : c.Has n ∨ n ∈ todo) : (c.collect defs todo).Has n := by
  have hend : (c.collect defs todo).Has n ∨ n ∈ [] :=
    collect_induct (P := fun todo c => c.Has n ∨ n ∈ todo) ?collected ?undefined ?defined h
  · exact hend.resolve_right List.not_mem_nil
  case collected =>
    rintro k rest c hk (h | h)
    · exact .inl h
    · rcases List.mem_cons.1 h with rfl | h
      · exact .inl (.inl hk)
      · exact .inr h
  case undefined =>
    rintro k rest c - - (h | h)
    · exact .inl (h.miss k)
    · rcases List.mem_cons.1 h with rfl | h
      · exact .inl (has_miss c n)
      · exact .inr h
  case defined =>
    rintro k rest c d - - (h | h)
    · exact .inl (h.put k d)
    · rcases List.mem_cons.1 h with rfl | h
      · exact .inl (has_put c n d)
      · exact .inr (List.mem_append_right _ h)

end TypeCollection

end RouteDoc
