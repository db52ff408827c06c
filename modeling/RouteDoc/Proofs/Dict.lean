import RouteDoc.Dict
import Mathlib.Data.List.Nodup

/-!
# Dictionaries under insertion

* `Dict.entries_put_of_not_mem`: a new key adds one entry, behind all others.
  `put_of_get?_eq_some`: to put what is there changes nothing.
* `Dict.mem_keys_put`, `Dict.mem_keys_union`, `Dict.mem_keys_filter`: the keys that there are.
* `Dict.mem_values_put`, `Dict.mem_values_union`, `Dict.mem_values_ofList`,
  `Dict.mem_values_filter`: where values come from.
* `Dict.get?_of_prefix`: entries added behind the others change no look-up that succeeds.
* `Dict.entries_ofList`: entries with different keys all stay.
* `Dict.Alike`: the same entries in any order, which is to say the same look-ups (`alike_iff`).
  `put_comm`: entries under different keys are put in any order.
-/

namespace RouteDoc.Dict

variable {κ α : Type} [DecidableEq κ]

theorem putIn_of_not_mem {k : κ} {v : α} {es : List (κ × α)} (h : k ∉ es.map Prod.fst) :
    putIn k v es = es ++ [(k, v)] := by
  induction es with
  | nil => rfl
  | cons e es ih =>
    simp only [List.map_cons, List.mem_cons, not_or] at h
    rw [putIn, if_neg (Ne.symm h.1), ih h.2, List.cons_append]

theorem entries_put_of_not_mem {d : Dict κ α} {k : κ} {v : α} (h : k ∉ d.keys) :
    (d.put k v).entries = d.entries ++ [(k, v)] :=
  putIn_of_not_mem h

theorem get?_of_prefix {d e : Dict κ α} {k : κ} {v : α} (h : d.entries <+: e.entries)
    (hk : d.get? k = some v) : e.get? k = some v :=
  get?_eq_some_iff.2 (h.subset (get?_eq_some_iff.1 hk))

theorem mem_keys_of_get?_eq_some {d : Dict κ α} {k : κ} {v : α} (h : d.get? k = some v) :
    k ∈ d.keys := by
  rw [← contains_iff, contains, h, Option.isSome_some]

theorem exists_get?_of_mem_keys {d : Dict κ α} {k : κ} (h : k ∈ d.keys) :
    ∃ v, d.get? k = some v := by
  rwa [← contains_iff, contains, Option.isSome_iff_exists] at h

theorem mem_keys_put {d : Dict κ α} {k j : κ} {v : α} :
    j ∈ (d.put k v).keys ↔ j = k ∨ j ∈ d.keys := by
  rw [keys_put]
  split
  · rename_i hk
    exact ⟨.inr, fun h => h.elim (fun h => h ▸ hk) id⟩
  · simp [or_comm]

/-- To put what is there changes nothing. -/
theorem put_of_get?_eq_some {d : Dict κ α} {k : κ} {v : α} (h : d.get? k = some v) :
    d.put k v = d := by
  have hself : ∀ es : List (κ × α), findIn k es = some v → putIn k v es = es := by
    intro es hes
    induction es with
    | nil => exact absurd hes (by simp [findIn])
    | cons e es ih =>
      obtain ⟨j, w⟩ := e
      by_cases hj : j = k
      · subst hj
        simp only [findIn, if_true, Option.some.injEq] at hes
        simp [putIn, hes]
      · simp only [findIn, if_neg hj] at hes
        rw [putIn, if_neg hj, ih hes]
  exact ext_entries (hself d.entries h)

theorem mem_keys_union {d e : Dict κ α} {k : κ} :
    k ∈ (d.union e).keys ↔ k ∈ d.keys ∨ k ∈ e.keys := by
  unfold union
  rw [show e.keys = e.entries.map Prod.fst from rfl]
  generalize e.entries = es
  induction es generalizing d with
  | nil => simp
  | cons x es ih =>
    rw [List.foldl_cons, ih, mem_keys_put, List.map_cons, List.mem_cons, or_assoc, or_left_comm]

omit [DecidableEq κ] in
theorem mem_keys_filter {d : Dict κ α} {p : κ → Bool} {k : κ} :
    k ∈ (d.filter fun j _ => p j).keys ↔ p k = true ∧ k ∈ d.keys := by
  simp only [keys, filter, List.mem_map, List.mem_filter]
  constructor
  · rintro ⟨e, ⟨he, hp⟩, rfl⟩
    exact ⟨hp, e, he, rfl⟩
  · rintro ⟨hp, e, he, rfl⟩
    exact ⟨e, ⟨he, hp⟩, rfl⟩

theorem mem_values_iff {d : Dict κ α} {v : α} : v ∈ d.values ↔ ∃ k, d.get? k = some v := by
  constructor
  · intro h
    obtain ⟨⟨k, w⟩, he, rfl⟩ := List.mem_map.1 h
    exact ⟨k, get?_eq_some_iff.2 he⟩
  · rintro ⟨k, hk⟩
    exact List.mem_map.2 ⟨(k, v), get?_eq_some_iff.1 hk, rfl⟩

theorem mem_values_put {d : Dict κ α} {k : κ} {v w : α} (h : w ∈ (d.put k v).values) :
    w = v ∨ w ∈ d.values := by
  obtain ⟨j, hj⟩ := mem_values_iff.1 h
  rw [get?_put] at hj
  split at hj
  · exact .inl (Option.some.inj hj).symm
  · exact .inr (mem_values_iff.2 ⟨j, hj⟩)

/-- What stands in a dictionary after some entries are put there was there before, or is put. -/
theorem mem_values_foldl_put {d : Dict κ α} {es : List (κ × α)} {v : α}
    (h : v ∈ (es.foldl (fun d e => d.put e.1 e.2) d).values) :
    v ∈ d.values ∨ v ∈ es.map Prod.snd := by
  refine List.foldlRecOn es (fun d e => d.put e.1 e.2)
    (motive := fun b => v ∈ Dict.values b → v ∈ d.values ∨ v ∈ es.map Prod.snd) .inl
    (fun b hb e he hv => ?_) h
  rcases mem_values_put hv with rfl | hv
  · exact .inr (List.mem_map_of_mem he)
  · exact hb hv

theorem mem_values_union {d e : Dict κ α} {v : α} (h : v ∈ (d.union e).values) :
    v ∈ d.values ∨ v ∈ e.values :=
  mem_values_foldl_put h

theorem mem_values_ofList {es : List (κ × α)} {v : α} (h : v ∈ (ofList es).values) :
    v ∈ es.map Prod.snd :=
  (mem_values_foldl_put h).resolve_left List.not_mem_nil

omit [DecidableEq κ] in
theorem mem_values_filter {d : Dict κ α} {p : κ → α → Bool} {v : α}
    (h : v ∈ (d.filter p).values) : v ∈ d.values :=
  (List.filter_sublist.map Prod.snd).subset h

/-- Entries with new keys are added one behind the other. -/
theorem entries_foldl_put {es : List (κ × α)} {d : Dict κ α}
    (h : (d.keys ++ es.map Prod.fst).Nodup) :
    (es.foldl (fun d e => d.put e.1 e.2) d).entries = d.entries ++ es := by
  induction es generalizing d with
  | nil => simp
  | cons e es ih =>
    have hnew : e.1 ∉ d.keys := fun hmem =>
      (List.nodup_append.1 h).2.2 _ hmem _ List.mem_cons_self rfl
    have hkeys : (d.put e.1 e.2).keys = d.keys ++ [e.1] := by rw [keys_put, if_neg hnew]
    rw [List.foldl_cons, ih, entries_put_of_not_mem hnew, List.append_assoc, List.singleton_append]
    rwa [hkeys, List.append_assoc, List.singleton_append]

/-- Entries with different keys all stay. -/
theorem entries_ofList {es : List (κ × α)} (h : (es.map Prod.fst).Nodup) :
    (ofList es).entries = es := by
  have hnew : ((∅ : Dict κ α).keys ++ es.map Prod.fst).Nodup := h
  exact (entries_foldl_put hnew).trans (List.nil_append es)

/-! ## Entries in any order -/

variable {d e : Dict κ α}

omit [DecidableEq κ] in
/-- The same entries, in any order. -/
def Alike (d e : Dict κ α) : Prop := d.entries.Perm e.entries

omit [DecidableEq κ] in
theorem nodup_entries (d : Dict κ α) : d.entries.Nodup := List.Nodup.of_map Prod.fst d.nodup

/-- The order of the entries makes no difference to look-up, and nothing else is left of it. -/
theorem alike_iff : d.Alike e ↔ ∀ k, d.get? k = e.get? k := by
  rw [Alike, List.perm_ext_iff_of_nodup d.nodup_entries e.nodup_entries]
  constructor
  · intro h k
    refine Option.ext fun v => ?_
    rw [get?_eq_some_iff, get?_eq_some_iff, h]
  · rintro h ⟨k, v⟩
    rw [← get?_eq_some_iff, ← get?_eq_some_iff, h]

theorem Alike.put (h : d.Alike e) (k : κ) (v : α) : (d.put k v).Alike (e.put k v) := by
  rw [alike_iff] at h ⊢
  intro j
  rw [get?_put, get?_put, h]

/-- Entries under different keys are put in any order. -/
theorem put_comm {k j : κ} (h : k ≠ j) (d : Dict κ α) (v w : α) :
    ((d.put k v).put j w).Alike ((d.put j w).put k v) := by
  rw [alike_iff]
  intro i
  rw [get?_put, get?_put, get?_put, get?_put]
  by_cases hk : k = i
  · have hj : j ≠ i := fun hj => h (hk.trans hj.symm)
    rw [if_pos hk, if_neg hj, if_pos hk]
  · rw [if_neg hk, if_neg hk]

end RouteDoc.Dict
