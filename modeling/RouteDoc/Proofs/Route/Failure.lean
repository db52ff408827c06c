import RouteDoc.Proofs.Route.Step
import Mathlib.Control.Monad.Basic

/-!
# Tags that fail

* `Assembly.exists_of_eachGroup_error`: steps for several groups end at the first group whose step
  fails; the groups in front of it have been added.
* `Assembly.route_addTag_of_error`: **what a tag that fails adds to the route**: nothing if it
  passes one group or its keyword takes none, and otherwise what the groups in front of the first
  fault add.
-/

namespace RouteDoc

namespace Assembly

variable {a b : Assembly}

/-- Steps for several groups fail at one of them, and those in front of it have been taken. -/
theorem exists_of_eachGroup_error {f : Assembly → List String → Step} {groups : List (List String)}
    {fault : TagFault} (h : eachGroup f a groups = (b, .error fault)) :
    ∃ done g rest c, groups = done ++ g :: rest ∧ eachGroup f a done = (c, .ok ()) ∧
      f c g = (b, .error fault) := by
  induction groups generalizing a with
  | nil => exact absurd (congrArg Prod.snd h) (by simp [eachGroup])
  | cons g gs ih =>
    unfold eachGroup at h
    split at h
    · rename_i a' _ hg
      obtain ⟨done, g', rest, c, rfl, hdone, hfault⟩ := ih h
      refine ⟨g :: done, g', rest, c, rfl, ?_, hfault⟩
      rw [eachGroup, hg]
      exact hdone
    · rename_i a' fault' hg
      exact ⟨[], g, gs, a, rfl, rfl, by rw [hg, h]⟩

theorem addTag_eq_ok_iff {keyword : String} {value : TagValue} :
    a.addTag keyword value = (b, .ok ()) ↔ a.apply (Keyword.base keyword) value = (b, .ok ()) := by
  rw [addTag_eq]
  obtain ⟨c, _ | _⟩ := a.apply (Keyword.base keyword) value <;> simp [Except.mapError]

theorem addTag_eq_error_iff {keyword : String} {value : TagValue} {e : TagError} :
    a.addTag keyword value = (b, .error e) ↔
      ∃ fault, a.apply (Keyword.base keyword) value = (b, .error fault) ∧
        e = ⟨Keyword.base keyword, fault⟩ := by
  rw [addTag_eq]
  obtain ⟨c, fault | _⟩ := a.apply (Keyword.base keyword) value
  · simp only [Except.mapError, Prod.mk.injEq, Except.error.injEq]
    exact ⟨fun h => ⟨fault, ⟨h.1, rfl⟩, h.2.symm⟩, fun ⟨_, ⟨hc, hfault⟩, he⟩ =>
      ⟨hc, by rw [he, hfault]⟩⟩
  · simp [Except.mapError]

/-- **What a tag that fails adds to the route.**  Nothing, if it passes one group or its keyword
takes none.  Otherwise what the groups in front of one of them add that fails. -/
theorem route_addTag_of_error {keyword : String} {value : TagValue} {e : TagError}
    (h : a.addTag keyword value = (b, .error e)) :
    ((Keyword.base keyword ∈ Keyword.grouped → value.toGroups.length ≤ 1) → b.route = a.route) ∧
    (Keyword.base keyword ∈ Keyword.grouped → ∃ done g rest c,
      value.toGroups = done ++ g :: rest ∧ a.addTag keyword (.groups done) = (c, .ok ()) ∧
        c.addTag keyword (.fields g) = (b, .error e) ∧ b.route = c.route) := by
  obtain ⟨fault, hfault, rfl⟩ := addTag_eq_error_iff.1 h
  by_cases hk : Keyword.base keyword ∈ Keyword.grouped
  · obtain ⟨f, hdoes, hf⟩ := exists_step_of_mem hk
    rw [hf] at hfault
    obtain ⟨done, g, rest, c, hgroups, hdone, hg⟩ := exists_of_eachGroup_error hfault
    have hroute : b.route = c.route := by
      simpa only [hg] using (hdoes c g).route_of_error (congrArg Prod.snd hg)
    refine ⟨fun hone => ?_, fun _ => ⟨done, g, rest, c, hgroups, ?_, ?_, hroute⟩⟩
    · -- a single group has none in front of it
      have hlen := hone hk
      rw [hgroups, List.length_append, List.length_cons] at hlen
      obtain rfl : done = [] := List.eq_nil_of_length_eq_zero (by omega)
      rw [hroute, ← (Prod.mk.inj hdone).1]
    · rw [addTag_eq_ok_iff, hf]
      exact hdone
    · rw [addTag_eq_error_iff]
      refine ⟨fault, ?_, rfl⟩
      rw [hf]
      exact (eachGroup_singleton f c g).trans hg
  · have hroute : b.route = a.route := by
      simpa only [hfault] using (does_apply hk a value).route_of_error (congrArg Prod.snd hfault)
    exact ⟨fun _ => hroute, fun hmem => absurd hmem hk⟩

/-- The second of two groups fails here; what stays is what the first one adds. -/
theorem route_addTag_of_error_routes :
    let a : Assembly := { context := {} }
    let value : TagValue := .groups [["{int}", "id"], ["{int}"]]
    let e : TagError := ⟨"route", .fields .missingName⟩
    (a.addTag "routes" value).2 = .error e ∧ ∃ done g rest c,
      value.toGroups = done ++ g :: rest ∧ a.addTag "routes" (.groups done) = (c, .ok ()) ∧
        c.addTag "routes" (.fields g) = ((a.addTag "routes" value).1, .error e) ∧
        (a.addTag "routes" value).1.route = c.route := by
  intro a value e
  have he : (a.addTag "routes" value).2 = .error e := by decide +kernel
  exact ⟨he, (route_addTag_of_error (Prod.ext rfl he)).2 (by decide)⟩

/-- The parameter `id` stays on the route of a tag that fails. -/
theorem parameter_of_failed_routes :
    let a : Assembly := { context := {} }
    let b := a.addTag "routes" (.groups [["{int}", "id"], ["{int}"]])
    b.2 = .error ⟨"route", .fields .missingName⟩ ∧ b.1.route ≠ a.route ∧
      b.1.route.uriParameters.keys = ["id"] := by
  decide +kernel

end Assembly

end RouteDoc
