import RouteDoc.Proofs.Resolution.Closed
import RouteDoc.Proofs.Resolution.Expansion
import RouteDoc.Proofs.Resolution.History

/-!
# What a type depends on

* `Registry.Meets`: the names that the reading of an expression meets: those of narrowed built-in
  types and of other types, and those of the map types on the way.
* `Registry.meets_iff`: what an expression meets, from what the expressions inside it meet.
* `Registry.mem_dependents_iff`: **what is resolved depends on exactly the names met**, each listed
  once, and prints no other names than these and those of built-in types.
-/

namespace RouteDoc

namespace Registry

variable {r s : Registry} {e p n : String} {d : Descriptor}

/-- Reading the trimmed expression `e` meets a name: through aliases, pointers, arrays, the keys and
values of maps, and the members of unions. -/
inductive Meets (r : Registry) (e : String) : String → Prop
  | primitive {p n : String} : r.Reaches e p → Form.of r p = .primitive n → Meets r e n
  | named {p n : String} : r.Reaches e p → Form.of r p = .named n → Meets r e n
  | map {p key value : String} {k v : Descriptor} : r.Reaches e p → Form.of r p = .map key value →
      (r.resolve key).2 = .ok k → (r.resolve value).2 = .ok v →
      Meets r e (MapType.nameFor k.name v.name)

theorem Meets.of_leads (hp : r.Leads e p) (h : r.Meets p n) : r.Meets e n := by
  cases h with
  | primitive hreach hf => exact .primitive (.head hp hreach) hf
  | named hreach hf => exact .named (.head hp hreach) hf
  | map hreach hf hkey hvalue => exact .map (.head hp hreach) hf hkey hvalue

/-- An expression meets its own name, if it has one, and what the expressions inside it meet. -/
theorem meets_iff : r.Meets e n ↔ Form.of r e = .primitive n ∨ Form.of r e = .named n ∨
    (∃ key value k v, Form.of r e = .map key value ∧ (r.resolve key).2 = .ok k ∧
      (r.resolve value).2 = .ok v ∧ MapType.nameFor k.name v.name = n) ∨
    ∃ p, r.Leads e p ∧ r.Meets p n := by
  constructor
  · intro h
    cases h with
    | primitive hreach hf =>
      rcases hreach.cases_head with rfl | ⟨q, hq, hreach⟩
      · exact .inl hf
      · exact .inr (.inr (.inr ⟨q, hq, .primitive hreach hf⟩))
    | named hreach hf =>
      rcases hreach.cases_head with rfl | ⟨q, hq, hreach⟩
      · exact .inr (.inl hf)
      · exact .inr (.inr (.inr ⟨q, hq, .named hreach hf⟩))
    | map hreach hf hkey hvalue =>
      rcases hreach.cases_head with rfl | ⟨q, hq, hreach⟩
      · exact .inr (.inr (.inl ⟨_, _, _, _, hf, hkey, hvalue, rfl⟩))
      · exact .inr (.inr (.inr ⟨q, hq, .map hreach hf hkey hvalue⟩))
  · rintro (hf | hf | ⟨key, value, k, v, hf, hkey, hvalue, rfl⟩ | ⟨p, hp, h⟩)
    · exact .primitive .refl hf
    · exact .named .refl hf
    · exact .map .refl hf hkey hvalue
    · exact h.of_leads hp

/-- A part of an expression that reads as a type resolves to it and to nothing else, if the map
types met there do not conflict. -/
theorem resolve_part_eq_ok_iff {seen : List String} {part : String} {ms maps : List MapType}
    {d d' : Descriptor} (hp : part ∈ (Form.of r e).parts)
    (h : r.readFrom seen part = ⟨ms, .ok d⟩) (ha : r.Admits maps) (hms : ms ⊆ maps) :
    (r.resolve part).2 = .ok d' ↔ d' = d := by
  have hread : r.read part = ⟨ms, .ok d⟩ := by
    rw [read_of_mem_parts hp, readFrom_nil_of_ok h]
  rw [resolve_of_admits ha hms hread, Except.ok.injEq, eq_comm]

/-- What is read without a fault depends on exactly the names met, if its map types do not
conflict. -/
theorem exact_of_readFrom {seen : List String} {maps : List MapType}
    (h : r.readFrom seen e = ⟨maps, .ok d⟩) (ha : r.Admits maps) :
    d.dependents.Nodup ∧ ∀ n, n ∈ d.dependents ↔ r.Meets e n := by
  refine readFrom_ok_induct (motive := fun e maps d =>
    r.Admits maps → d.dependents.Nodup ∧ ∀ n, n ∈ d.dependents ↔ r.Meets e n)
    ?union ?nothing ?anything ?primitive ?aliasOf ?pointer ?array ?map ?scalar ?named h ha
  case union =>
    intro e rs hf ih ha
    refine ⟨nodup_mergeNames _, fun n => ?_⟩
    have hmem : n ∈ (Descriptor.union (rs.map (·.2.2))).dependents ↔
        ∃ x ∈ rs, n ∈ x.2.2.dependents := by
      simp [Descriptor.union, mem_mergeNames]
    have hmeets : r.Meets e n ↔ ∃ x ∈ rs, r.Meets x.1 n := by
      rw [meets_iff]
      simp [hf, Leads, Form.next, Form.parts]
    rw [hmem, hmeets]
    refine exists_congr fun x => and_congr_right fun hx => (ih x hx (ha.of_subset ?_)).2 n
    exact fun m hm => List.mem_flatMap.2 ⟨x, hx, hm⟩
  case nothing =>
    intro e hf _
    refine ⟨List.nodup_nil, fun n => ?_⟩
    rw [meets_iff]
    simp [hf, Leads, Form.next, Form.parts, Descriptor.nothing]
  case anything =>
    intro e hf _
    refine ⟨List.nodup_nil, fun n => ?_⟩
    rw [meets_iff]
    simp [hf, Leads, Form.next, Form.parts, Descriptor.anything]
  case primitive =>
    intro e name hf _
    refine ⟨List.nodup_singleton name, fun n => ?_⟩
    rw [meets_iff]
    simp [hf, Leads, Form.next, Form.parts, eq_comm]
  case aliasOf =>
    intro e name target maps d hf ih ha
    refine ⟨(ih ha).1, fun n => ?_⟩
    rw [meets_iff, (ih ha).2]
    simp [hf, Leads, Form.next]
  case pointer =>
    intro e inner maps d hf ih ha
    refine ⟨(ih ha).1, fun n => ?_⟩
    rw [meets_iff, (ih ha).2]
    simp [hf, Leads, Form.next, Form.parts]
  case array =>
    intro e item maps d hf ih ha
    refine ⟨(ih ha).1, fun n => ?_⟩
    rw [meets_iff, Descriptor.arrayOf, (ih ha).2]
    simp [hf, Leads, Form.next, Form.parts]
  case map =>
    rintro e key value ms ns k v hf ⟨_, hkey⟩ ⟨_, hvalue⟩ ihk ihv ha
    have hms : ms ⊆ ms ++ ns ++ [MapType.ofParts k v] := fun m hm => by simp [hm]
    have hns : ns ⊆ ms ++ ns ++ [MapType.ofParts k v] := fun m hm => by simp [hm]
    have hk : ∀ k', (r.resolve key).2 = .ok k' ↔ k' = k := fun _ =>
      resolve_part_eq_ok_iff (e := e) (by simp [hf, Form.parts]) hkey ha hms
    have hv : ∀ v', (r.resolve value).2 = .ok v' ↔ v' = v := fun _ =>
      resolve_part_eq_ok_iff (e := e) (by simp [hf, Form.parts]) hvalue ha hns
    refine ⟨nodup_mergeNames _, fun n => ?_⟩
    have hmem : n ∈ (Descriptor.ofMap (.ofParts k v)).dependents ↔
        MapType.nameFor k.name v.name = n ∨ n ∈ k.dependents ∨ n ∈ v.dependents := by
      simp [Descriptor.ofMap, MapType.ofParts, mem_mergeNames, eq_comm]
    have hmeets : r.Meets e n ↔
        MapType.nameFor k.name v.name = n ∨ r.Meets key n ∨ r.Meets value n := by
      rw [meets_iff]
      simp [hf, Leads, Form.next, Form.parts, hk, hv]
    rw [hmem, hmeets, (ihk (ha.of_subset hms)).2, (ihv (ha.of_subset hns)).2]
  case scalar =>
    intro e name hf _
    refine ⟨List.nodup_nil, fun n => ?_⟩
    rw [meets_iff]
    simp [hf, Leads, Form.next, Form.parts]
  case named =>
    intro e name hf _
    refine ⟨List.nodup_singleton name, fun n => ?_⟩
    rw [meets_iff]
    simp [hf, Leads, Form.next, Form.parts, eq_comm]

/-- **What is resolved depends on exactly the names met**, each listed once.  Each part of its
printed name is printed for a built-in type, or is one of these names. -/
theorem mem_dependents_iff (hr : r.IdentifierPrimitives) (h : r.resolve e = (s, .ok d)) :
    d.dependents.Nodup ∧ (∀ n, n ∈ d.dependents ↔ r.Meets (Text.strip e) n) ∧
      ∀ p ∈ typeParts d.name, p ∈ canonicalNames ∨ p ∈ d.dependents := by
  obtain ⟨maps, hread, hreg⟩ := resolve_eq_ok_iff.1 h
  obtain ⟨hnodup, hmem⟩ := exact_of_readFrom hread (register_eq_ok_iff.1 ⟨s, hreg⟩)
  exact ⟨hnodup, hmem, canonical_or_mem_of_readFrom hr hread⟩

/-- A name that is met in a map, behind an alias and beside the map is listed once, and so is that
of a map inside the map. -/
theorem mem_dependents_iff_shelves :
    let r : Registry :=
      { definitions := Dict.ofList [("uuid", .primitive { name := "uuid", base := "string" })]
        aliases := Dict.ofList [("BookId", "*uuid"), ("Shelf", "map[BookId]map[string]*Book")] }
    let e := " []Shelf | BookId | Author"
    let names := ["map_uuid_map_string_Book", "uuid", "map_string_Book", "Book", "Author"]
    r.IdentifierPrimitives ∧
      (r.resolve e).2 = .ok ⟨.any, "map_uuid_map_string_Book[] | uuid | Author", names⟩ ∧
      names.Nodup ∧ (∀ n, n ∈ names ↔ r.Meets (Text.strip e) n) ∧
      ∀ p ∈ typeParts "map_uuid_map_string_Book[] | uuid | Author",
        p ∈ canonicalNames ∨ p ∈ names := by
  intro r e names
  have hr : r.IdentifierPrimitives :=
    (by decide +kernel : r.PlainNames).identifierPrimitives
  have h : (r.resolve e).2 =
      .ok ⟨.any, "map_uuid_map_string_Book[] | uuid | Author", names⟩ := by decide +kernel
  exact ⟨hr, h, mem_dependents_iff hr (resolve_eq_mk h)⟩

end Registry

end RouteDoc
