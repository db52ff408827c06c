/-!
# Dictionaries that keep the order of insertion

A `Dict κ α` lists its entries in the order in which their keys came in, each key once.

* `Dict.put`: a key already present keeps its place and takes the new value; a new key goes last.
  The look-up after it is `get?_put`, the order of the keys `keys_put`.
* `Dict.erase`: the entry of one key is dropped, the others keep their order.
* `Dict.ofList`: later entries win over earlier ones of the same key, at the earlier place.
* `Dict.filter`, `Dict.mapValues`: entries kept by a test, and values changed in place.
-/

namespace RouteDoc

/-- Entries in order of insertion, with pairwise different keys. -/
structure Dict (κ α : Type) where
  entries : List (κ × α) := []
  nodup : (entries.map Prod.fst).Nodup := by simp

namespace Dict

variable {κ α β : Type}

instance : EmptyCollection (Dict κ α) := ⟨{}⟩

instance : Inhabited (Dict κ α) := ⟨∅⟩

theorem ext_entries {d e : Dict κ α} (h : d.entries = e.entries) : d = e := by
  cases d; cases e; cases h; rfl

instance [DecidableEq κ] [DecidableEq α] : DecidableEq (Dict κ α) := fun d e =>
  decidable_of_iff (d.entries = e.entries) ⟨ext_entries, fun h => h ▸ rfl⟩

def keys (d : Dict κ α) : List κ := d.entries.map Prod.fst

def values (d : Dict κ α) : List α := d.entries.map Prod.snd

def size (d : Dict κ α) : Nat := d.entries.length

def isEmpty (d : Dict κ α) : Bool := d.entries.isEmpty

theorem keys_nodup (d : Dict κ α) : d.keys.Nodup := d.nodup

@[simp] theorem entries_empty : (∅ : Dict κ α).entries = [] := rfl

@[simp] theorem keys_empty : (∅ : Dict κ α).keys = [] := rfl

/-! ## Look-up -/

/-- The value of the first entry with the key `k`. -/
def findIn [DecidableEq κ] (k : κ) : List (κ × α) → Option α
  | [] => none
  | e :: r => if e.1 = k then some e.2 else findIn k r

def get? [DecidableEq κ] (d : Dict κ α) (k : κ) : Option α := findIn k d.entries

def contains [DecidableEq κ] (d : Dict κ α) (k : κ) : Bool := (d.get? k).isSome

theorem findIn_eq_none_iff [DecidableEq κ] {k : κ} {es : List (κ × α)} :
    findIn k es = none ↔ k ∉ es.map Prod.fst := by
  induction es with
  | nil => simp [findIn]
  | cons e r ih =>
    by_cases h : e.1 = k
    · simp [findIn, h]
    · simp [findIn, h, ih, Ne.symm h]

theorem findIn_eq_some_iff [DecidableEq κ] {k : κ} {v : α} {es : List (κ × α)}
    (hes : (es.map Prod.fst).Nodup) : findIn k es = some v ↔ (k, v) ∈ es := by
  induction es with
  | nil => simp [findIn]
  | cons e r ih =>
    obtain ⟨k', v'⟩ := e
    simp only [List.map_cons, List.nodup_cons] at hes
    by_cases h : k' = k
    · subst h
      have hk : ∀ w, (k', w) ∉ r := fun w hw => hes.1 (List.mem_map.2 ⟨_, hw, rfl⟩)
      simp [findIn, hk v, eq_comm]
    · simp [findIn, h, ih hes.2, Ne.symm h]

theorem get?_eq_none_iff [DecidableEq κ] {d : Dict κ α} {k : κ} : d.get? k = none ↔ k ∉ d.keys :=
  findIn_eq_none_iff

theorem get?_eq_some_iff [DecidableEq κ] {d : Dict κ α} {k : κ} {v : α} :
    d.get? k = some v ↔ (k, v) ∈ d.entries :=
  findIn_eq_some_iff d.nodup

theorem contains_iff [DecidableEq κ] {d : Dict κ α} {k : κ} : d.contains k = true ↔ k ∈ d.keys := by
  unfold contains
  cases h : d.get? k with
  | none => simpa using get?_eq_none_iff.1 h
  | some v =>
    have hk : k ∈ d.keys := List.mem_map.2 ⟨(k, v), get?_eq_some_iff.1 h, rfl⟩
    simp [hk]

/-! ## Insertion -/

def putIn [DecidableEq κ] (k : κ) (v : α) : List (κ × α) → List (κ × α)
  | [] => [(k, v)]
  | e :: r => if e.1 = k then (k, v) :: r else e :: putIn k v r

theorem map_fst_putIn [DecidableEq κ] (k : κ) (v : α) (es : List (κ × α)) :
    (putIn k v es).map Prod.fst =
      if k ∈ es.map Prod.fst then es.map Prod.fst else es.map Prod.fst ++ [k] := by
  induction es with
  | nil => simp [putIn]
  | cons e r ih =>
    by_cases h : e.1 = k
    · simp [putIn, h]
    · by_cases hk : k ∈ r.map Prod.fst
      · simp only [putIn, h, if_false, List.map_cons, ih, if_pos hk,
          if_pos (List.mem_cons_of_mem _ hk)]
      · have : k ∉ e.1 :: r.map Prod.fst := by simp [Ne.symm h, hk]
        simp only [putIn, h, if_false, List.map_cons, ih, if_neg hk, if_neg this, List.cons_append]

/-- Stores `v` under the key `k`: in place of the value there, or else behind all entries. -/
def put [DecidableEq κ] (d : Dict κ α) (k : κ) (v : α) : Dict κ α where
  entries := putIn k v d.entries
  nodup := by
    rw [map_fst_putIn]
    split
    · exact d.nodup
    · rename_i h
      rw [List.nodup_append]
      refine ⟨d.nodup, by simp, ?_⟩
      simp only [List.mem_singleton, forall_eq]
      exact fun a ha hak => h (hak ▸ ha)

/-- A new key goes last, one already present keeps its place. -/
theorem keys_put [DecidableEq κ] (d : Dict κ α) (k : κ) (v : α) :
    (d.put k v).keys = if k ∈ d.keys then d.keys else d.keys ++ [k] :=
  map_fst_putIn k v d.entries

theorem findIn_putIn [DecidableEq κ] (k j : κ) (v : α) (es : List (κ × α)) :
    findIn j (putIn k v es) = if k = j then some v else findIn j es := by
  induction es with
  | nil => simp [putIn, findIn]
  | cons e r ih =>
    by_cases h : e.1 = k
    · by_cases hj : k = j <;> simp [putIn, findIn, h, hj]
    · by_cases hj : e.1 = j
      · have hk : ¬ k = j := fun hk => h (hj.trans hk.symm)
        simp only [putIn, if_neg h, findIn, if_pos hj, if_neg hk]
      · simp [putIn, findIn, h, hj, ih]

theorem get?_put [DecidableEq κ] (d : Dict κ α) (k j : κ) (v : α) :
    (d.put k v).get? j = if k = j then some v else d.get? j :=
  findIn_putIn k j v d.entries

/-- The dictionary that holds the entries, put one after the other. -/
def ofList [DecidableEq κ] (es : List (κ × α)) : Dict κ α :=
  es.foldl (fun d e => d.put e.1 e.2) ∅

def union [DecidableEq κ] (d e : Dict κ α) : Dict κ α :=
  e.entries.foldl (fun d x => d.put x.1 x.2) d

/-! ## Removal and change of values -/

/-- The entries whose key and value pass the test. -/
def filter (p : κ → α → Bool) (d : Dict κ α) : Dict κ α where
  entries := d.entries.filter fun e => p e.1 e.2
  nodup := ((List.filter_sublist).map Prod.fst).nodup d.nodup

def erase [DecidableEq κ] (d : Dict κ α) (k : κ) : Dict κ α := d.filter fun j _ => j != k

def mapValues (f : κ → α → β) (d : Dict κ α) : Dict κ β where
  entries := d.entries.map fun e => (e.1, f e.1 e.2)
  nodup := by
    have : (d.entries.map fun e => (e.1, f e.1 e.2)).map Prod.fst = d.entries.map Prod.fst := by
      simp
    rw [this]
    exact d.nodup

end Dict

end RouteDoc
