import RouteDoc.Context
import RouteDoc.Proofs.Resolution.Member
import RouteDoc.Proofs.Resolution.Registration
import Mathlib.Control.Monad.Basic

/-!
# Printed names are read again

The name of what was read is an expression, and it reads as its members, one by one.

* `Registry.Member.readFrom_name`: a member reads as itself.
* `Registry.resolve_name_of_members`: the printed name resolves to the union of the members, and
  registers nothing.
* `Registry.resolve_name`: **printed names are fixed points**.
* `Registry.kind_resolve_name`: **when the printed name keeps the kind**: always, but for an array
  of a union that prints a member that is no array.
-/

namespace RouteDoc

open Chars

/-! ## Members read as themselves -/

namespace Registry

open Descriptor

variable {r s : Registry} {maps : List MapType} {d m : Descriptor} {ms : List Descriptor}

/-- A member reads as itself, once its map types are registered. -/
theorem Member.readFrom_name (hm : r.Member maps m) (hr : r.PlainNames) (ha : r.Admits maps)
    (seen : List String) : r.readFrom seen m.name = .pure m := by
  induction hm with
  | nothing =>
    have hf : Form.of r "nil" = .nothing := rfl
    exact (readFrom_eq r seen _).trans (by rw [Descriptor.nothing, hf])
  | anything =>
    have hf : Form.of r "any" = .anything := rfl
    exact (readFrom_eq r seen _).trans (by rw [Descriptor.anything, hf])
  | primitive h => rw [readFrom_eq, h]
  | scalar h => rw [readFrom_eq, form_scalar hr h]
  | named h => rw [readFrom_eq, h]
  | @map k v h =>
    have hp : r.primitive? (MapType.nameFor k.name v.name) = none := by
      rw [← Option.not_isSome_iff_eq_none, isSome_primitive?_iff]
      rintro ⟨p, hp⟩
      exact absurd (ha.eq_of_definition? _ h _ hp) (by simp)
    have ht : r.target? (MapType.nameFor k.name v.name) = none :=
      Dict.get?_eq_none_iff.2 (ha.name_not_alias _ h)
    rw [readFrom_eq, form_named (MapType.isPlainName_nameFor _ _) hp ht]
  | @array d hd ih =>
    rw [name_arrayOf, readFrom_array (form_array hr (hd.namelike hr.identifierPrimitives)), ih]
    rfl

/-! ## Printed names -/

theorem form_joinWith {ps : List String} (hlen : 1 < ps.length)
    (hps : ∀ p ∈ ps, Solid p.toList) : Form.of r (Text.joinWith " | " ps) = .union ps := by
  have hsplit := Text.splitUnion_joinWith (List.length_pos_iff.1 (by omega)) hps
  have hstrip : ∀ p ∈ ps, String.ofList (strip p.toList) = p := fun p hp => by
    rw [(hps p hp).strip_eq, String.ofList_toList]
  simp only [Form.of, hsplit, List.length_map, if_pos hlen, List.map_map]
  exact congrArg _ ((List.map_congr_left hstrip).trans (List.map_id ps))

end Registry

/-- What a list of members reads as: a member alone as itself, several as a union. -/
def Descriptor.rejoin : List Descriptor → Descriptor
  | [m] => m
  | ms => .union ms

namespace Descriptor

theorem name_rejoin (ms : List Descriptor) :
    (rejoin ms).name = Text.joinWith " | " (ms.map name) := by
  unfold rejoin
  split
  · rw [List.map_singleton, Text.joinWith_singleton]
  · rfl

theorem kind_rejoin (ms : List Descriptor) : (rejoin ms).kind = (union ms).kind := by
  unfold rejoin
  split
  · exact (kind_union_singleton _).symm
  · rfl

theorem exists_of_mem_dependents_rejoin {ms : List Descriptor} {n : String}
    (h : n ∈ (rejoin ms).dependents) : ∃ m ∈ ms, n ∈ m.dependents := by
  unfold rejoin at h
  split at h
  · exact ⟨_, List.mem_singleton.2 rfl, h⟩
  · obtain ⟨l, hl, hn⟩ := mem_mergeNames.1 h
    obtain ⟨m, hm, rfl⟩ := List.mem_map.1 hl
    exact ⟨m, hm, hn⟩

end Descriptor

namespace Registry

open Descriptor

variable {r s : Registry} {maps : List MapType} {e : String} {d : Descriptor} {ms : List Descriptor}

/-- The printed name of what has members reads as these members. -/
theorem read_name_of_members (hr : r.PlainNames) (ha : r.Admits maps)
    (hms : ∀ m ∈ ms, r.Member maps m) (hd : d.HasMembers ms) :
    r.read d.name = .pure (rejoin ms) := by
  have hsolid := solid_of_members hr.identifierPrimitives hms
  have hstrip : Text.strip d.name = d.name := by
    rw [hd.name_eq, Text.strip_joinWith hsolid]
  rw [read, hstrip, hd.name_eq]
  match ms with
  | [] => exact absurd rfl hd.ne_nil
  | [m] =>
    rw [List.map_singleton, Text.joinWith_singleton]
    exact (hms m (by simp)).readFrom_name hr ha []
  | m :: n :: ms =>
    have hself : ∀ a ∈ m :: n :: ms, (r.readFrom [] ∘ name) a = .pure (id a) :=
      fun a ha' => (hms a ha').readFrom_name hr ha []
    rw [readFrom_union (form_joinWith (by simp) hsolid), List.map_map, List.map_congr_left hself,
      Reading.all_map_pure, List.map_id]
    rfl

/-- The printed name of what was resolved resolves to its members, and registers nothing. -/
theorem resolve_name_of_members (hr : r.PlainNames) (h : r.resolve e = (s, .ok d)) :
    ∃ maps ms, (∀ m ∈ ms, r.Member maps m) ∧ d.HasMembers ms ∧
      s.resolve d.name = (s, .ok (rejoin ms)) := by
  obtain ⟨maps, hread, hreg⟩ := resolve_eq_ok_iff.1 h
  obtain ⟨ms, hms, hd⟩ := exists_members hread
  have hg := grows_of_resolve_eq h
  have hname := read_name_of_members hr (register_eq_ok_iff.1 ⟨s, hreg⟩) hms hd
  exact ⟨maps, ms, hms, hd,
    resolve_eq_ok_iff.2 ⟨[], (hg.readsAlike.read_eq d.name).symm.trans hname, rfl⟩⟩

/-- **Printed names are fixed points.**  What was resolved resolves again by its printed name, to
the same name, to no more dependents, and without any effect on the registry. -/
theorem resolve_name (hr : r.PlainNames) (h : r.resolve e = (s, .ok d)) :
    ∃ d', s.resolve d.name = (s, .ok d') ∧ d'.name = d.name ∧ d'.dependents ⊆ d.dependents := by
  obtain ⟨maps, ms, -, hd, hres⟩ := resolve_name_of_members hr h
  refine ⟨rejoin ms, hres, (name_rejoin ms).trans hd.name_eq.symm, fun n hn => ?_⟩
  obtain ⟨m, hm, hn⟩ := exists_of_mem_dependents_rejoin hn
  exact hd.dependents_subset m hm hn

/-- An alias for a union with a map type in it, in an array: the map type is registered by the
first resolution, and the second one registers nothing. -/
theorem resolve_name_array_of_union :
    ({ aliases := Dict.ofList [("Shelf", "map[string]Book | *int")] } : Registry).PlainNames ∧
      ∃ s, ({ aliases := Dict.ofList [("Shelf", "map[string]Book | *int")] } : Registry).resolve
          "[]Shelf" = (s, .ok ⟨.array, "map_string_Book | integer[]", ["map_string_Book", "Book"]⟩) ∧
        ∃ d', s.resolve "map_string_Book | integer[]" = (s, .ok d') ∧
          d'.name = "map_string_Book | integer[]" ∧
          d'.dependents ⊆ ["map_string_Book", "Book"] := by
  have hr : ({ aliases := Dict.ofList [("Shelf", "map[string]Book | *int")] } :
      Registry).PlainNames := by decide +kernel
  have h : (({ aliases := Dict.ofList [("Shelf", "map[string]Book | *int")] } : Registry).resolve
      "[]Shelf").2 = .ok ⟨.array, "map_string_Book | integer[]", ["map_string_Book", "Book"]⟩ := by
    decide +kernel
  have h' := resolve_eq_mk h
  have hname := resolve_name hr h'
  exact ⟨hr, _, h', hname⟩

end Registry

/-! ## The kind of a printed name -/

/-- Every member that the name lists is an array. -/
def Descriptor.ListsArrays (d : Descriptor) : Prop :=
  ∀ p ∈ splitUnion d.name.toList, endsWith p ['[', ']'] = true

namespace Registry

open Descriptor

variable {r s : Registry} {maps : List MapType} {e : String} {d m : Descriptor}
  {ms : List Descriptor}

/-- The arrays among the members are those that are printed with the marks of an array. -/
theorem Member.endsWith_marks_iff (hm : r.Member maps m) (hr : r.PlainNames) :
    endsWith m.name.toList ['[', ']'] = true ↔ m.kind = .array := by
  have plain : ∀ {n : String} {k : Kind}, ']' ∉ n.toList → k ≠ .array →
      (endsWith n.toList ['[', ']'] = true ↔ k = .array) := fun hn hk => by
    simp [endsWith_eq_false (t := ['[', ']']) (by simp) hn, hk]
  cases hm with
  | nothing => exact plain (by decide) (by decide)
  | anything => exact plain (by decide) (by decide)
  | primitive h =>
    obtain ⟨-, hp⟩ := Form.of_eq_primitive h
    exact plain (bracket_not_mem_of_isIdentifier (hr.of_primitive _ hp).isIdentifier)
      Kind.noConfusion
  | scalar h =>
    obtain ⟨p, hp, rfl⟩ := Form.exists_of_scalarName? h
    exact plain (Form.scalarWords_closed p hp).2.1 Kind.noConfusion
  | named h => exact plain (bracket_not_mem_of_isIdentifier (Form.of_eq_named h).2) Kind.noConfusion
  | map h =>
    exact plain (bracket_not_mem_of_isIdentifier (MapType.isPlainName_nameFor _ _).isIdentifier)
      Kind.noConfusion
  | @array d _ =>
    refine ⟨fun _ => rfl, fun _ => ?_⟩
    rw [name_arrayOf, Form.toList_append_marks, endsWith, List.isSuffixOf_iff_suffix]
    exact List.suffix_append _ _

theorem listsArrays_iff (hr : r.PlainNames) (hms : ∀ m ∈ ms, r.Member maps m)
    (hd : d.HasMembers ms) : d.ListsArrays ↔ ∀ m ∈ ms, m.kind = .array := by
  have hsolid := solid_of_members hr.identifierPrimitives hms
  rw [ListsArrays, hd.name_eq, Text.splitUnion_joinWith (by simpa using hd.ne_nil) hsolid]
  simp only [List.map_map, List.mem_map, Function.comp_apply, forall_exists_index, and_imp,
    forall_apply_eq_imp_iff₂]
  exact forall₂_congr fun m hm => (hms m hm).endsWith_marks_iff hr

/-- **When the printed name keeps the kind.**  The marks of an array bind closer than the bars of a
union.  So an array of a union does not read as an array again, unless all members that it prints
are arrays; what it reads as is of any kind.  All other printed names keep their kind. -/
theorem kind_resolve_name (hr : r.PlainNames) (h : r.resolve e = (s, .ok d)) :
    ∃ d', s.resolve d.name = (s, .ok d') ∧
      (d'.kind = d.kind ↔ (d.kind = .array → d.ListsArrays)) ∧
      (d'.kind ≠ d.kind → d'.kind = .any) := by
  obtain ⟨maps, ms, hms, hd, hres⟩ := resolve_name_of_members hr h
  refine ⟨rejoin ms, hres, ?_⟩
  rw [kind_rejoin, listsArrays_iff hr hms hd]
  rcases hd.kind_cases with hk | ⟨harr, ⟨a, ha, hka⟩, b, hb, hkb⟩
  · refine ⟨⟨fun _ hk' => ?_, fun _ => hk.symm⟩, fun hne => absurd hk.symm hne⟩
    rcases kind_union_cases hd.ne_nil with hall | ⟨hany, -⟩
    · exact fun m hm => (hall m hm).trans (hk.symm.trans hk')
    · exact absurd (hany.symm.trans (hk.symm.trans hk')) (by decide)
  · have hany : (union ms).kind = .any :=
      kind_union_of_ne ha hb fun hab => hkb (hab.symm.trans hka)
    rw [hany, harr]
    refine ⟨⟨fun hk => absurd hk (by decide), fun hall => ?_⟩, fun _ => rfl⟩
    exact absurd (hall rfl b hb) hkb

/-- The array of a union of two types that are no arrays: it prints a member that is none, and the
printed name reads as a union of any kind. -/
theorem kind_resolve_name_array_of_union :
    ({ aliases := Dict.ofList [("Shelf", "map[string]Book | *int")] } : Registry).PlainNames ∧
      ∃ s, ({ aliases := Dict.ofList [("Shelf", "map[string]Book | *int")] } : Registry).resolve
          "[]Shelf" = (s, .ok ⟨.array, "map_string_Book | integer[]", ["map_string_Book", "Book"]⟩) ∧
        ∃ d', s.resolve "map_string_Book | integer[]" = (s, .ok d') ∧
          (d'.kind = .array ↔ (Kind.array = .array → Descriptor.ListsArrays
            ⟨.array, "map_string_Book | integer[]", ["map_string_Book", "Book"]⟩)) ∧
          (d'.kind ≠ .array → d'.kind = .any) := by
  have hr : ({ aliases := Dict.ofList [("Shelf", "map[string]Book | *int")] } :
      Registry).PlainNames := by decide +kernel
  have h : (({ aliases := Dict.ofList [("Shelf", "map[string]Book | *int")] } : Registry).resolve
      "[]Shelf").2 = .ok ⟨.array, "map_string_Book | integer[]", ["map_string_Book", "Book"]⟩ := by
    decide +kernel
  have h' := resolve_eq_mk h
  have hkind := kind_resolve_name hr h'
  exact ⟨hr, _, h', hkind⟩

/-- A printed name need not keep the kind: with an alias `U` for `int | string`, which a fresh
context accepts, `[]U` is an array and its printed name `integer | string[]` is of any kind. -/
theorem resolve_name_array_of_alias :
    ∃ c, ({} : Context).defineAlias "U" "int | string" = (c, .ok ()) ∧ c.registry.PlainNames ∧
      ∃ s, c.registry.resolve "[]U" = (s, .ok ⟨.array, "integer | string[]", []⟩) ∧
        s.resolve "integer | string[]" = (s, .ok ⟨.any, "integer | string[]", []⟩) := by
  have halias : (({} : Context).defineAlias "U" "int | string").2 = .ok () := by decide +kernel
  have hr : (({} : Context).defineAlias "U" "int | string").1.registry.PlainNames := by
    decide +kernel
  have hU : ((({} : Context).defineAlias "U" "int | string").1.registry.resolve "[]U").2 =
      .ok ⟨.array, "integer | string[]", []⟩ := by decide +kernel
  have hname : (((({} : Context).defineAlias "U" "int | string").1.registry.resolve "[]U").1.resolve
      "integer | string[]") = (((({} : Context).defineAlias "U" "int | string").1.registry.resolve
      "[]U").1, .ok ⟨.any, "integer | string[]", []⟩) := by decide +kernel
  exact ⟨_, Prod.ext rfl halias, hr, _, resolve_eq_mk hU, hname⟩

end Registry

end RouteDoc
