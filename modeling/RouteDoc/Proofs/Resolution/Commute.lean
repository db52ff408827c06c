import RouteDoc.Proofs.Resolution.Extension
import Mathlib.Control.Monad.Basic

/-!
# The order of resolutions

Reading looks at nothing that resolution changes, and whether map types agree does not depend on
their order.  So the order in which expressions are resolved matters for the order of the
definitions only.

* `Registry.resolve_of_grows`: what was resolved once resolves again, to the same and without any
  effect, also after other resolutions.
* `Registry.resolve_comm`: **two resolutions that succeed also succeed in the other order**, with
  the same descriptors and the same definitions.
-/

namespace RouteDoc

namespace Registry

variable {r s t : Registry} {e : String} {d : Descriptor} {ms ns : List MapType}

theorem Admits.append_comm (h : r.Admits (ms ++ ns)) : r.Admits (ns ++ ms) :=
  h.of_subset fun _ hm => List.mem_append.2 (List.mem_append.1 hm).symm

theorem register_append_of_ok (h : r.register ms = (s, .ok ())) :
    r.register (ms ++ ns) = s.register ns := by
  rw [register_append, h]

/-- What can be registered behind `ms` can also be registered in front of it, and then a name stands
for the same in the end. -/
theorem register_comm (h₁ : r.register ms = (s, .ok ())) (h₂ : s.register ns = (t, .ok ())) :
    ∃ s' t', r.register ns = (s', .ok ()) ∧ s'.register ms = (t', .ok ()) ∧
      ∀ n, t'.definition? n = t.definition? n := by
  have h : r.register (ms ++ ns) = (t, .ok ()) := (register_append_of_ok h₁).trans h₂
  have hadmits := (register_eq_ok_iff.1 ⟨t, h⟩).append_comm
  obtain ⟨t', h'⟩ := register_eq_ok_iff.2 hadmits
  obtain ⟨s', hs'⟩ := register_eq_ok_iff.2 (hadmits.of_subset (List.subset_append_left ns ms))
  refine ⟨s', t', hs', (register_append_of_ok hs').symm.trans h', fun n => ?_⟩
  have hiff : ∀ d, t'.definition? n = some d ↔ t.definition? n = some d := by
    intro d
    rw [definition?_of_register h', definition?_of_register h]
    simp only [List.mem_append, or_comm]
  exact Option.ext hiff

/-- What was resolved once resolves again, to the same and without any effect. -/
theorem resolve_of_grows (h : r.resolve e = (s, .ok d)) (hg : Grows s t) :
    t.resolve e = (t, .ok d) := by
  refine hg.precedes.resolve_eq h fun a ⟨_, _, hf⟩ => ?_
  rw [← (grows_of_resolve_eq h).aliases_eq, ← hg.aliases_eq]
  exact (Form.mem_aliases hf).2

/-- **Resolutions commute and are stable.** -/
theorem resolve_comm {r r₁ r₂ : Registry} {e₁ e₂ : String} {d₁ d₂ : Descriptor}
    (h₁ : r.resolve e₁ = (r₁, .ok d₁)) (h₂ : r₁.resolve e₂ = (r₂, .ok d₂)) :
    ∃ s₁ s₂, r.resolve e₂ = (s₁, .ok d₂) ∧ s₁.resolve e₁ = (s₂, .ok d₁) ∧
      (∀ n, s₂.definition? n = r₂.definition? n) ∧ s₂.aliases = r₂.aliases ∧
      (r₂.resolve e₁ = (r₂, .ok d₁) ∧ r₂.resolve e₂ = (r₂, .ok d₂)) ∧
      s₂.resolve e₁ = (s₂, .ok d₁) ∧ s₂.resolve e₂ = (s₂, .ok d₂) := by
  have hg₁ := grows_of_resolve_eq h₁
  have hg₂ := grows_of_resolve_eq h₂
  obtain ⟨ms, hread₁, hreg₁⟩ := resolve_eq_ok_iff.1 h₁
  obtain ⟨ns, hread₂, hreg₂⟩ := resolve_eq_ok_iff.1 h₂
  obtain ⟨s₁, s₂, hreg₂', hreg₁', hdefs⟩ := register_comm hreg₁ hreg₂
  have hfirst : r.resolve e₂ = (s₁, .ok d₂) :=
    resolve_eq_ok_iff.2 ⟨ns, (hg₁.readsAlike.read_eq e₂).trans hread₂, hreg₂'⟩
  have hg₁' := grows_of_resolve_eq hfirst
  have hsecond : s₁.resolve e₁ = (s₂, .ok d₁) :=
    resolve_eq_ok_iff.2 ⟨ms, (hg₁'.readsAlike.read_eq e₁).symm.trans hread₁, hreg₁'⟩
  have hg₂' := grows_of_resolve_eq hsecond
  refine ⟨s₁, s₂, hfirst, hsecond, hdefs, ?_, ⟨?_, ?_⟩, ?_, ?_⟩
  · rw [hg₂'.aliases_eq, hg₁'.aliases_eq, hg₂.aliases_eq, hg₁.aliases_eq]
  · exact resolve_of_grows h₁ hg₂
  · exact resolve_of_grows h₂ (.refl r₂)
  · exact resolve_of_grows hsecond (.refl s₂)
  · exact resolve_of_grows hfirst hg₂'

/-- Two expressions that meet three map types, one of them in common. -/
theorem resolve_comm_maps :
    let r₁ := (({} : Registry).resolve "map[string]map[int]Book").1
    let r₂ := (r₁.resolve "[]map[int]Book | map[string]Author").1
    ({} : Registry).resolve "map[string]map[int]Book" = (r₁, .ok
        ⟨.object, "map_string_map_integer_Book",
          ["map_string_map_integer_Book", "map_integer_Book", "Book"]⟩) ∧
      r₁.resolve "[]map[int]Book | map[string]Author" = (r₂, .ok
        ⟨.any, "map_integer_Book[] | map_string_Author",
          ["map_integer_Book", "Book", "map_string_Author", "Author"]⟩) ∧
      ∃ s₁ s₂, ({} : Registry).resolve "[]map[int]Book | map[string]Author" = (s₁, .ok
          ⟨.any, "map_integer_Book[] | map_string_Author",
            ["map_integer_Book", "Book", "map_string_Author", "Author"]⟩) ∧
        s₁.resolve "map[string]map[int]Book" = (s₂, .ok
          ⟨.object, "map_string_map_integer_Book",
            ["map_string_map_integer_Book", "map_integer_Book", "Book"]⟩) ∧
        ∀ n, s₂.definition? n = r₂.definition? n := by
  intro r₁ r₂
  have h₁ : ({} : Registry).resolve "map[string]map[int]Book" = (r₁, .ok
      ⟨.object, "map_string_map_integer_Book",
        ["map_string_map_integer_Book", "map_integer_Book", "Book"]⟩) := by decide +kernel
  have h₂ : r₁.resolve "[]map[int]Book | map[string]Author" = (r₂, .ok
      ⟨.any, "map_integer_Book[] | map_string_Author",
        ["map_integer_Book", "Book", "map_string_Author", "Author"]⟩) := by decide +kernel
  obtain ⟨s₁, s₂, h₂', h₁', hdefs, -⟩ := resolve_comm h₁ h₂
  exact ⟨h₁, h₂, s₁, s₂, h₂', h₁', hdefs⟩

end Registry

end RouteDoc
