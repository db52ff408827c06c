import RouteDoc.Proofs.Resolution.Extension
import RouteDoc.Proofs.Resolution.Name
import Mathlib.Control.Monad.Basic

/-!
# The history of a registry

What every run of calls on a fresh registry keeps, calls that fail included.

* `Registry.Call`, `Registry.run`: calls, and the registry after several of them.
* `Registry.extends_call`, `Registry.extends_run`: entries are added behind all others, and this is
  all that happens to a registry.
* `Registry.Consistent`: no name is both a definition and an alias, and each definition stands under
  its own name.  `consistent_built`: a registry that is built by calls is consistent.
* `Registry.exists_maps_resolve`: resolution adds map types only, each under the name of its parts.
* `Registry.exists_parts_of_resolve`: what is resolved in the form of a map is registered.
* `Registry.history`: **all of these over whole runs.**
-/

namespace RouteDoc

namespace Registry

variable {r s t : Registry} {e key value name target : String} {d : Descriptor}

/-! ## Calls -/

inductive Call where
  | add (d : Definition)
  | addAlias (name target : String)
  | resolve (expression : String)
  deriving DecidableEq, Inhabited

/-- The registry after a call, whether it succeeds or not. -/
def call (r : Registry) : Call → Registry
  | .add d =>
    match r.add d with
    | .ok (s, _) => s
    | .error _ => r
  | .addAlias name target =>
    match r.addAlias name target with
    | .ok (s, _) => s
    | .error _ => r
  | .resolve e => (r.resolve e).1

def run (r : Registry) (calls : List Call) : Registry := calls.foldl call r

/-- The registry after several calls on a fresh one. -/
def built (calls : List Call) : Registry := run {} calls

theorem call_add_cases (r : Registry) (d : Definition) :
    r.call (.add d) = r ∨ ∃ isNew, r.add d = .ok (r.call (.add d), isNew) := by
  simp only [call]
  cases h : r.add d with
  | ok p => exact .inr ⟨p.2, rfl⟩
  | error fault => exact .inl rfl

theorem call_addAlias_cases (r : Registry) (name target : String) :
    r.call (.addAlias name target) = r ∨
      ∃ isNew, r.addAlias name target = .ok (r.call (.addAlias name target), isNew) := by
  simp only [call]
  cases h : r.addAlias name target with
  | ok p => exact .inr ⟨p.2, rfl⟩
  | error fault => exact .inl rfl

theorem call_add_of_error {d : Definition} {fault : TypeFault} (h : r.add d = .error fault) :
    r.call (.add d) = r := by
  simp only [call, h]

theorem call_addAlias_of_error {fault : TypeFault} (h : r.addAlias name target = .error fault) :
    r.call (.addAlias name target) = r := by
  simp only [call, h]

/-! ## Extension -/

/-- A call adds entries behind all others, and changes nothing else. -/
theorem extends_call (r : Registry) (k : Call) : Extends r (r.call k) := by
  cases k with
  | add d =>
    rcases call_add_cases r d with h | ⟨isNew, h⟩
    · exact h.symm ▸ .refl r
    · exact extends_add h
  | addAlias name target =>
    rcases call_addAlias_cases r name target with h | ⟨isNew, h⟩
    · exact h.symm ▸ .refl r
    · exact extends_addAlias h
  | resolve e => exact extends_resolve r e

theorem extends_run (r : Registry) (calls : List Call) : Extends r (r.run calls) :=
  List.foldlRecOn calls call (motive := Extends r) (.refl r) fun s hs k _ =>
    hs.trans (extends_call s k)

/-! ## Consistency -/

theorem fst_resolve (r : Registry) (e : String) :
    (r.resolve e).1 = (r.register (r.read e).maps).1 := by
  rw [resolve_eq]
  split <;> rename_i hreg <;> rw [hreg]

/-- No name is both a definition and an alias, and each definition stands under its own name. -/
structure Consistent (r : Registry) : Prop where
  disjoint : ∀ n ∈ r.definitions.keys, n ∉ r.aliases.keys
  named : ∀ n d, r.definition? n = some d → d.name = n

theorem consistent_empty : Consistent {} where
  disjoint _ _ hn := absurd hn List.not_mem_nil
  named n d h := absurd h (by simp [definition?, Dict.get?, Dict.findIn])

theorem Consistent.add {d : Definition} {isNew : Bool} (hr : r.Consistent)
    (h : r.add d = .ok (s, isNew)) : s.Consistent := by
  obtain ⟨halias, ⟨-, rfl, -⟩ | ⟨hd, rfl, -⟩⟩ := add_eq_ok_iff.1 h
  · exact hr
  refine ⟨fun n hn => ?_, fun n d' hd' => ?_⟩
  · rcases Dict.mem_keys_put.1 hn with rfl | hn
    · exact halias
    · exact hr.disjoint n hn
  · rw [definition?_put] at hd'
    split at hd'
    · rename_i hname
      exact Option.some.inj hd' ▸ hname
    · exact hr.named n d' hd'

theorem Consistent.addAlias {isNew : Bool} (hr : r.Consistent)
    (h : r.addAlias name target = .ok (s, isNew)) : s.Consistent := by
  obtain ⟨hdef, ⟨-, rfl, -⟩ | ⟨ht, rfl, -⟩⟩ := addAlias_eq_ok_iff.1 h
  · exact hr
  refine ⟨fun n hn ha => ?_, hr.named⟩
  rcases Dict.mem_keys_put.1 ha with rfl | ha
  · exact hdef hn
  · exact hr.disjoint n hn ha

theorem Consistent.register (hr : r.Consistent) (ms : List MapType) :
    (r.register ms).1.Consistent := by
  induction ms generalizing r with
  | nil => exact hr
  | cons m ms ih =>
    unfold Registry.register
    split
    · rename_i s _ hadd
      exact ih (hr.add hadd)
    · exact hr

/-- A call keeps a registry consistent, also if it fails. -/
theorem Consistent.call (hr : r.Consistent) (k : Call) : (r.call k).Consistent := by
  cases k with
  | add d =>
    rcases call_add_cases r d with h | ⟨isNew, h⟩
    · exact h.symm ▸ hr
    · exact hr.add h
  | addAlias name target =>
    rcases call_addAlias_cases r name target with h | ⟨isNew, h⟩
    · exact h.symm ▸ hr
    · exact hr.addAlias h
  | resolve e =>
    have h := hr.register (r.read e).maps
    rwa [← fst_resolve] at h

/-- A registry that is built by calls is consistent. -/
theorem consistent_built (calls : List Call) : (built calls).Consistent :=
  List.foldlRecOn calls call (motive := Consistent) consistent_empty fun _ hs k _ => hs.call k

/-! ## Map types -/

/-- Resolution adds map types only, each under the name of its parts, also if it fails. -/
theorem exists_maps_resolve (r : Registry) (e : String) : ∃ ms : List MapType,
    (r.resolve e).1.definitions.entries =
      r.definitions.entries ++ ms.map (fun m => (m.name, .map m)) ∧
    ∀ m ∈ ms, m.name = MapType.nameFor m.key.name m.value.name := by
  obtain ⟨ms, hms⟩ := (resolve_grows r e).entries_eq
  refine ⟨ms, hms, fun m hm => ?_⟩
  have hmem : (m.name, Definition.map m) ∈ ms.map fun m => (m.name, Definition.map m) :=
    List.mem_map_of_mem hm
  have hd : (r.resolve e).1.definition? m.name = some (.map m) :=
    Dict.get?_eq_some_iff.2 (hms ▸ List.mem_append_right _ hmem)
  rcases definition?_resolve_or hd with hd | ⟨m', hm', -, heq⟩
  · -- the name is not in use before, since each key stands once
    have hnodup := (r.resolve e).1.definitions.nodup
    rw [hms, List.map_append] at hnodup
    have hold : m.name ∈ r.definitions.entries.map Prod.fst := Dict.mem_keys_of_get?_eq_some hd
    have hnew : m.name ∈ (ms.map fun m => (m.name, Definition.map m)).map Prod.fst :=
      List.mem_map_of_mem hmem
    exact absurd rfl ((List.nodup_append.1 hnodup).2.2 _ hold _ hnew)
  · obtain rfl := Definition.map.inj heq
    obtain ⟨-, -, -, -, -, -, k, v, -, -, -, -, rfl⟩ := mapWithin_of_mem_maps hm'
    rfl

/-- A part of what was resolved can be resolved too. -/
theorem resolve_of_admits {maps ms : List MapType} (ha : r.Admits maps) (hs : ms ⊆ maps)
    (h : r.read e = ⟨ms, .ok d⟩) : (r.resolve e).2 = .ok d := by
  obtain ⟨t, ht⟩ := register_eq_ok_iff.2 (ha.of_subset hs)
  rw [resolve_eq_ok_iff.2 ⟨ms, h, ht⟩]

/-- An expression inside a form is read as it stands, since it is trimmed. -/
theorem read_of_mem_parts {p : String} (hp : p ∈ (Form.of r e).parts) :
    r.read p = r.readFrom [] p := by
  rw [read, Form.strip_of_mem_parts hp]

/-- What is resolved in the form of a map has a key and a value that resolve, and these are
registered under its name. -/
theorem exists_parts_of_resolve (hf : Form.of r (Text.strip e) = .map key value)
    (h : r.resolve e = (s, .ok d)) :
    ∃ k v, (r.resolve key).2 = .ok k ∧ (r.resolve value).2 = .ok v ∧
      s.definition? d.name = some (.map ⟨d.name, k, v⟩) := by
  obtain ⟨maps, hread, hreg⟩ := resolve_eq_ok_iff.1 h
  obtain ⟨k, v, ms, ns, hkey, hvalue, rfl, rfl⟩ := exists_parts_of_readFrom_map hf hread
  have hadmits := register_eq_ok_iff.1 ⟨s, hreg⟩
  refine ⟨k, v, ?_, ?_, ?_⟩
  · refine resolve_of_admits hadmits (fun m (hm : m ∈ ms) => by simp [hm]) ?_
    rw [read_of_mem_parts (r := r) (e := Text.strip e) (by simp [hf, Form.parts]), hkey]
  · refine resolve_of_admits hadmits (fun m (hm : m ∈ ns) => by simp [hm]) ?_
    rw [read_of_mem_parts (r := r) (e := Text.strip e) (by simp [hf, Form.parts]), hvalue]
  · exact (definition?_of_register hreg).2 (.inr ⟨.ofParts k v, by simp, rfl, rfl⟩)

/-! ## Whole runs -/

/-- **The history of a registry**, after calls on a fresh one.  No name is both a definition and an
alias, and each definition stands under its own name.  All entries stay, in their order.  An addition
that is refused changes nothing.  Resolution adds map types only, each under the name of its parts.
What is resolved in the form of a map is registered from then on, with the descriptors of its key and
value; so those of the same name have the same key and value. -/
theorem history (calls : List Call) :
    let r := built calls
    (∀ n ∈ r.definitions.keys, n ∉ r.aliases.keys) ∧
    (∀ n d, r.definition? n = some d → d.name = n) ∧
    (∀ more, r.definitions.entries <+: (r.run more).definitions.entries ∧
      r.aliases.entries <+: (r.run more).aliases.entries) ∧
    (∀ d fault, r.add d = .error fault → r.call (.add d) = r) ∧
    (∀ name target fault, r.addAlias name target = .error fault →
      r.call (.addAlias name target) = r) ∧
    (∀ e, (r.resolve e).1.aliases = r.aliases ∧ ∃ ms : List MapType,
      (r.resolve e).1.definitions.entries =
        r.definitions.entries ++ ms.map (fun m => (m.name, .map m)) ∧
      ∀ m ∈ ms, m.name = MapType.nameFor m.key.name m.value.name) ∧
    ∀ e key value s d, Form.of r (Text.strip e) = .map key value → r.resolve e = (s, .ok d) →
      ∃ k v, (r.resolve key).2 = .ok k ∧ (r.resolve value).2 = .ok v ∧
        ∀ more, (s.run more).definition? d.name = some (.map ⟨d.name, k, v⟩) ∧
          ∀ e' key' value' t d', Form.of (s.run more) (Text.strip e') = .map key' value' →
            (s.run more).resolve e' = (t, .ok d') → d'.name = d.name →
            ((s.run more).resolve key').2 = .ok k ∧ ((s.run more).resolve value').2 = .ok v := by
  intro r
  have hr := consistent_built calls
  refine ⟨hr.disjoint, hr.named, fun more => ?_, fun d fault => call_add_of_error,
    fun name target fault => call_addAlias_of_error,
    fun e => ⟨(resolve_grows r e).aliases_eq, exists_maps_resolve r e⟩, ?_⟩
  · exact ⟨(extends_run r more).definitions, (extends_run r more).aliases⟩
  intro e key value s d hf h
  obtain ⟨k, v, hkey, hvalue, hd⟩ := exists_parts_of_resolve hf h
  refine ⟨k, v, hkey, hvalue, fun more => ?_⟩
  have hmore := (extends_run s more).definition?_eq_some hd
  refine ⟨hmore, fun e' key' value' t d' hf' h' hname => ?_⟩
  obtain ⟨k', v', hkey', hvalue', hd'⟩ := exists_parts_of_resolve hf' h'
  -- the map type of the first resolution is still there after the second
  have hsame := (grows_of_resolve_eq h').definition?_eq_some hmore
  rw [← hname, hd'] at hsame
  obtain ⟨-, rfl, rfl⟩ := MapType.mk.injEq .. ▸ Definition.map.inj (Option.some.inj hsame)
  exact ⟨hkey', hvalue'⟩

/-- After a resolution that fails at a conflict of two map types: a map is resolved through an alias,
and whatever is called then, its type stays registered with its key and its value. -/
theorem history_nested_map :
    let r := built [.add (.primitive { name := "uuid", base := "string" }),
      .addAlias "BookId" "uuid", .resolve "map[string][]int | map[string]integerArray"]
    ∃ s, r.resolve "map[BookId]map[string][]int" = (s, .ok ⟨.object,
        "map_uuid_map_string_integerArray",
        ["map_uuid_map_string_integerArray", "uuid", "map_string_integerArray"]⟩) ∧
      ∀ more, (s.run more).definition? "map_uuid_map_string_integerArray" = some (.map
        ⟨"map_uuid_map_string_integerArray", ⟨.scalar, "uuid", ["uuid"]⟩,
          ⟨.object, "map_string_integerArray", ["map_string_integerArray"]⟩⟩) := by
  intro r
  have hf : Form.of r (Text.strip "map[BookId]map[string][]int") =
      .map "BookId" "map[string][]int" := by decide +kernel
  have h : (r.resolve "map[BookId]map[string][]int").2 = .ok ⟨.object,
      "map_uuid_map_string_integerArray",
      ["map_uuid_map_string_integerArray", "uuid", "map_string_integerArray"]⟩ := by decide +kernel
  have hkey : (r.resolve "BookId").2 = .ok ⟨.scalar, "uuid", ["uuid"]⟩ := by decide +kernel
  have hvalue : (r.resolve "map[string][]int").2 =
      .ok ⟨.object, "map_string_integerArray", ["map_string_integerArray"]⟩ := by decide +kernel
  have hres := resolve_eq_mk h
  obtain ⟨-, -, -, -, -, -, hmap⟩ := history [.add (.primitive { name := "uuid", base := "string" }),
    .addAlias "BookId" "uuid", .resolve "map[string][]int | map[string]integerArray"]
  obtain ⟨k, v, hk, hv, hmore⟩ := hmap _ _ _ _ _ hf hres
  obtain rfl := Except.ok.inj (hk.symm.trans hkey)
  obtain rfl := Except.ok.inj (hv.symm.trans hvalue)
  exact ⟨_, hres, fun more => (hmore more).1⟩

/-- The marks of an array behind a map are read first: an array of maps is resolved, and there is no
map type under its name. -/
theorem resolve_marks_behind_map : ∃ s, ({} : Registry).resolve "map[string]int[]" =
      (s, .ok ⟨.array, "map_string_integer[]", ["map_string_integer"]⟩) ∧
    ∀ m, s.definition? "map_string_integer[]" ≠ some (.map m) := by
  have h : (({} : Registry).resolve "map[string]int[]").2 =
      .ok ⟨.array, "map_string_integer[]", ["map_string_integer"]⟩ := by decide +kernel
  have hnone : (({} : Registry).resolve "map[string]int[]").1.definition? "map_string_integer[]" =
      none := by decide +kernel
  exact ⟨_, resolve_eq_mk h, fun m hm => absurd (hnone.symm.trans hm) (by simp)⟩

end Registry

end RouteDoc
