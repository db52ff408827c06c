import RouteDoc.Proofs.Resolution.Member
import RouteDoc.Proofs.Resolution.Registration

/-!
# Closed types

A printed type is made of parts: the members that it lists, freed of the marks of arrays.

* `typeParts`: the parts of a printed type.
* `Descriptor.Closed`: each part is built in, or one of the dependents.
* `Registry.Closed`: all types that the definitions print are closed.
  `Closed.add`, `Closed.resolve`: registration and resolution keep this.
* `Registry.Closed.of_resolve`: **what is resolved is closed.**
-/

namespace RouteDoc

/-! ## Parts of printed types -/

namespace Chars

/-- A reversed text without the marks of arrays at its front. -/
def dropMarksRev : List Char → List Char
  | ']' :: '[' :: r => dropMarksRev r
  | s => s

/-- A text without the marks of arrays at its end. -/
def dropMarks (s : List Char) : List Char := (dropMarksRev s.reverse).reverse

theorem dropMarks_append_marks (s : List Char) : dropMarks (s ++ ['[', ']']) = dropMarks s := by
  simp [dropMarks, dropMarksRev]

theorem dropMarks_eq_self {s : List Char} (h : ']' ∉ s) : dropMarks s = s := by
  have hrev : dropMarksRev s.reverse = s.reverse := by
    unfold dropMarksRev
    split
    · rename_i r hr
      exact absurd (List.mem_reverse.1 (hr ▸ List.mem_cons_self)) h
    · rfl
  rw [dropMarks, hrev, List.reverse_reverse]

end Chars

/-- The parts of a printed type: the members of a union, freed of the marks of arrays. -/
def typeParts (name : String) : List String :=
  (Chars.splitUnion name.toList).map fun p => String.ofList (Chars.dropMarks p)

/-- The names under which built-in types are printed. -/
def canonicalNames : List String := Form.scalarWords.map Prod.snd ++ ["any", "nil"]

/-- The names that need no declaration. -/
def builtinNames : List String := Form.scalarWords.map Prod.snd ++ ["any", "nil", "object"]

theorem canonicalNames_subset : canonicalNames ⊆ builtinNames := by
  intro n hn
  simp only [canonicalNames, builtinNames, List.mem_append, List.mem_cons] at hn ⊢
  exact hn.imp_right (Or.imp_right fun h => .inl (h.resolve_right List.not_mem_nil))

/-- Each part of the printed name is built in, or one of the dependents. -/
def Descriptor.Closed (d : Descriptor) : Prop :=
  ∀ p ∈ typeParts d.name, p ∈ builtinNames ∨ p ∈ d.dependents

namespace Registry

open Chars Descriptor

variable {r s : Registry} {maps : List MapType} {seen : List String} {e : String}
  {d m : Descriptor} {ms : List Descriptor}

/-- A member is a single part, which is built in or one of its dependents. -/
theorem Member.dropMarks_name (hm : r.Member maps m) (hr : r.IdentifierPrimitives) :
    String.ofList (dropMarks m.name.toList) ∈ canonicalNames ∨
      String.ofList (dropMarks m.name.toList) ∈ m.dependents := by
  have identifier : ∀ {n : String}, Form.isIdentifier n.toList = true →
      String.ofList (dropMarks n.toList) = n := fun {n} h => by
    rw [dropMarks_eq_self (bracket_not_mem_of_isIdentifier h), String.ofList_toList]
  induction hm with
  | nothing => exact .inl (by decide)
  | anything => exact .inl (by decide)
  | @primitive n h =>
    have hn := identifier (hr _ (Form.of_eq_primitive h).2)
    exact .inr (List.mem_singleton.2 hn)
  | @scalar w n h =>
    obtain ⟨p, hp, rfl⟩ := Form.exists_of_scalarName? h
    rw [dropMarks_eq_self (Form.scalarWords_closed p hp).2.1, String.ofList_toList]
    exact .inl (List.mem_append_left _ (List.mem_map_of_mem hp))
  | named h => exact .inr (List.mem_singleton.2 (identifier (Form.of_eq_named h).2))
  | map h =>
    exact .inr (List.mem_singleton.2 (identifier (MapType.isPlainName_nameFor _ _).isIdentifier))
  | @array d _ ih =>
    rw [name_arrayOf, Form.toList_append_marks, dropMarks_append_marks]
    exact ih

theorem canonical_or_mem_of_members (hr : r.IdentifierPrimitives)
    (hms : ∀ m ∈ ms, r.Member maps m) (hd : d.HasMembers ms) :
    ∀ p ∈ typeParts d.name, p ∈ canonicalNames ∨ p ∈ d.dependents := by
  intro p hp
  rw [typeParts, hd.name_eq,
    Text.splitUnion_joinWith (by simpa using hd.ne_nil) (solid_of_members hr hms)] at hp
  simp only [List.map_map, List.mem_map, Function.comp_apply] at hp
  obtain ⟨m, hm, rfl⟩ := hp
  exact ((hms m hm).dropMarks_name hr).imp_right fun h => hd.dependents_subset m hm h

/-- Each part of what is read without a fault is printed for a built-in type, or is one of the
dependents. -/
theorem canonical_or_mem_of_readFrom (hr : r.IdentifierPrimitives)
    (h : r.readFrom seen e = ⟨maps, .ok d⟩) :
    ∀ p ∈ typeParts d.name, p ∈ canonicalNames ∨ p ∈ d.dependents := by
  obtain ⟨ms, hms, hd⟩ := exists_members h
  exact canonical_or_mem_of_members hr hms hd

/-- What is read without a fault is closed. -/
theorem closed_of_readFrom (hr : r.IdentifierPrimitives) (h : r.readFrom seen e = ⟨maps, .ok d⟩) :
    d.Closed := fun p hp =>
  (canonical_or_mem_of_readFrom hr h p hp).imp_left fun h => canonicalNames_subset h

end Registry

/-! ## Closed registries -/

/-- The types that a definition prints. -/
def Definition.types : Definition → List Descriptor
  | .primitive _ => []
  | .map m => [m.value]
  | .struct s => s.fields.map StructField.type

theorem Definition.dependents_subset_of_mem_types {d : Definition} {t : Descriptor}
    (h : t ∈ d.types) : t.dependents ⊆ d.dependents := by
  cases d with
  | primitive p => exact absurd h (by simp [types])
  | map m =>
    obtain rfl := List.mem_singleton.1 h
    exact List.subset_append_right _ _
  | struct s =>
    obtain ⟨f, hf, rfl⟩ := List.mem_map.1 h
    exact fun n hn => List.mem_flatMap.2 ⟨f, hf, hn⟩

namespace Registry

/-- The names of narrowed built-in types are identifiers, and all types that the definitions print
are closed. -/
structure Closed (r : Registry) : Prop where
  identifierPrimitives : r.IdentifierPrimitives
  types : ∀ n d, r.definition? n = some d → ∀ t ∈ d.types, t.Closed

variable {r s : Registry} {e : String} {d : Descriptor}

theorem closed_empty : Closed {} where
  identifierPrimitives n h := absurd h (by simp [primitive?, definition?, Dict.get?, Dict.findIn])
  types n d h := absurd h (by simp [definition?, Dict.get?, Dict.findIn])

/-- Only the definitions matter. -/
theorem Closed.of_definitions_eq (hr : r.Closed) (h : s.definitions = r.definitions) :
    s.Closed where
  identifierPrimitives n hn := hr.identifierPrimitives n (by
    rwa [primitive?, definition?, h] at hn)
  types n d hd := hr.types n d (by rwa [definition?, h] at hd)

/-- A definition whose types are closed can be added. -/
theorem Closed.add {d : Definition} {isNew : Bool} (hr : r.Closed)
    (hid : ∀ p, d = .primitive p → Form.isIdentifier p.name.toList = true)
    (hd : ∀ t ∈ d.types, t.Closed) (h : r.add d = .ok (s, isNew)) : s.Closed := by
  obtain ⟨-, ⟨-, rfl, -⟩ | ⟨-, rfl, -⟩⟩ := add_eq_ok_iff.1 h
  · exact hr
  refine ⟨fun n hn => ?_, fun n d' hd' => ?_⟩
  · obtain ⟨p, hp⟩ := isSome_primitive?_iff.1 hn
    rw [definition?_put] at hp
    split at hp
    · rename_i hname
      obtain rfl := Option.some.inj hp
      rw [← hname]
      exact hid p rfl
    · exact hr.identifierPrimitives n (isSome_primitive?_iff.2 ⟨p, hp⟩)
  · rw [definition?_put] at hd'
    split at hd'
    · obtain rfl := Option.some.inj hd'
      exact hd
    · exact hr.types n d' hd'

/-- **What is resolved is closed.** -/
theorem Closed.of_resolve (hr : r.Closed) (h : r.resolve e = (s, .ok d)) : d.Closed := by
  obtain ⟨maps, hread, -⟩ := resolve_eq_ok_iff.1 h
  exact closed_of_readFrom hr.identifierPrimitives hread

/-- Resolution adds map types to closed values only, also if it fails. -/
theorem Closed.resolve (hr : r.Closed) (e : String) : (r.resolve e).1.Closed where
  identifierPrimitives n hn := by
    rw [← (resolve_grows r e).readsAlike.isSome_primitive? n] at hn
    exact hr.identifierPrimitives n hn
  types n d hd := by
    rcases definition?_resolve_or hd with hd | ⟨m, hm, -, rfl⟩
    · exact hr.types n d hd
    · obtain ⟨-, -, value, seen, -, vs, k, v, -, -, -, hv, rfl⟩ := mapWithin_of_mem_maps hm
      simp only [Definition.types, List.mem_singleton, forall_eq]
      exact closed_of_readFrom hr.identifierPrimitives hv

end Registry

end RouteDoc
