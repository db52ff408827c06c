import RouteDoc.Proofs.Configuration.Run
import RouteDoc.Proofs.Resolution.Closed
import RouteDoc.Proofs.Route.Assembly

/-!
# Closed routes

* `Route.types`: the types of the parameters and of the response.
* `Route.Closed`: these types are closed, and the route lists what they depend on.
* `Assembly.Changes.grows`: tags only add map types to the registry.
* `Route.closed_assemble`: **a route that is put together in a closed context is closed**, and the
  context stays closed.
* `Route.rooted_assemble`: a resource begins with a slash.
-/

namespace RouteDoc

namespace Route

variable {r : Route} {t : Descriptor}

/-- The types of the parameters and of the response. -/
def types (r : Route) : List Descriptor :=
  (r.uriParameters.values ++ r.queryParameters.values ++ r.bodyParameters.values).map
    Parameter.type ++ (r.response.map Response.type).toList

theorem mem_types_iff : t ∈ r.types ↔
    (∃ place, ∃ p ∈ (r.parameters place).values, p.type = t) ∨
      ∃ x, r.response = some x ∧ x.type = t := by
  simp only [types, List.mem_append, List.mem_map, Option.mem_toList,
    Option.map_eq_some_iff]
  refine or_congr_left ⟨?_, ?_⟩
  · rintro ⟨p, (hp | hp) | hp, rfl⟩
    · exact ⟨.uri, p, hp, rfl⟩
    · exact ⟨.query, p, hp, rfl⟩
    · exact ⟨.body, p, hp, rfl⟩
  · rintro ⟨_ | _ | _, p, hp, rfl⟩
    · exact ⟨p, .inl (.inl hp), rfl⟩
    · exact ⟨p, .inl (.inr hp), rfl⟩
    · exact ⟨p, .inr hp, rfl⟩

theorem mem_types_of_mem_values (place : Place) {p : Parameter}
    (hp : p ∈ (r.parameters place).values) : p.type ∈ r.types :=
  mem_types_iff.2 (.inl ⟨place, p, hp, rfl⟩)

theorem mem_types_of_response {x : Response} (hx : r.response = some x) : x.type ∈ r.types :=
  mem_types_iff.2 (.inr ⟨x, hx, rfl⟩)

theorem dependentTypes_addParameter (r : Route) (place : Place) (p : Parameter) :
    (r.addParameter place p).dependentTypes = mergeInto r.dependentTypes p.type.dependents := by
  cases place <;> rfl

/-- The types after a parameter came in are its own and those that were there. -/
theorem mem_types_addParameter {place : Place} {p : Parameter}
    (h : t ∈ (r.addParameter place p).types) : t = p.type ∨ t ∈ r.types := by
  rcases mem_types_iff.1 h with ⟨place', q, hq, rfl⟩ | ⟨x, hx, rfl⟩
  · have hmem : q = p ∨ q ∈ (r.parameters place').values := by
      cases place <;> cases place' <;> first | exact Dict.mem_values_put hq | exact .inr hq
    rcases hmem with rfl | hmem
    · exact .inl rfl
    · exact .inr (mem_types_of_mem_values place' hmem)
  · refine .inr (mem_types_of_response (x := x) ?_)
    cases place <;> exact hx

theorem mem_types_setResponse {x : Response} (h : t ∈ (r.setResponse x).types) :
    t = x.type ∨ t ∈ r.types := by
  rcases mem_types_iff.1 h with ⟨place, p, hp, rfl⟩ | ⟨y, hy, rfl⟩
  · refine .inr (mem_types_of_mem_values place ?_)
    cases place <;> exact hp
  · exact .inl (congrArg Response.type (Option.some.inj hy).symm)

/-- The types are closed, and the route lists what they depend on. -/
structure Closed (r : Route) : Prop where
  types : ∀ t ∈ r.types, t.Closed
  dependents : ∀ t ∈ r.types, t.dependents ⊆ r.dependentTypes

theorem closed_empty : Closed {} where
  types t h := absurd h (by simp [Route.types, Dict.values])
  dependents t h := absurd h (by simp [Route.types, Dict.values])

/-- A route still lists what its types depend on when the dependents of a new type are merged in. -/
theorem dependents_subset_merge {s : Route} {d : Descriptor}
    (hr : ∀ t ∈ r.types, t.dependents ⊆ r.dependentTypes)
    (htypes : ∀ t ∈ s.types, t = d ∨ t ∈ r.types)
    (hdep : s.dependentTypes = mergeInto r.dependentTypes d.dependents) :
    ∀ t ∈ s.types, t.dependents ⊆ s.dependentTypes := by
  intro t ht n hn
  rw [hdep, mem_mergeInto]
  rcases htypes t ht with rfl | ht
  · exact .inr hn
  · exact .inl (hr t ht hn)

/-- A route stays closed when one of its types is replaced by a closed one whose dependents are
merged in. -/
theorem Closed.merge {s : Route} {d : Descriptor} (hr : r.Closed) (hd : d.Closed)
    (htypes : ∀ t ∈ s.types, t = d ∨ t ∈ r.types)
    (hdep : s.dependentTypes = mergeInto r.dependentTypes d.dependents) : s.Closed where
  types t ht := by
    rcases htypes t ht with rfl | ht
    · exact hd
    · exact hr.types t ht
  dependents := dependents_subset_merge hr.dependents htypes hdep

end Route

namespace Assembly

variable {a b : Assembly}

/-! ## The context of an assembly -/

theorem Change.grows (h : Change a b) : Registry.Grows a.context.registry b.context.registry := by
  have hres : ∀ {e c o}, a.context.resolve e = (c, o) →
      Registry.Grows a.context.registry c.registry := fun h =>
    Registry.grows_of_resolve_eq (Context.registry_resolve h)
  cases h with
  | resolve e notices => exact hres rfl
  | parameter notices place h => exact hres h
  | response notices h => exact hres h
  | _ => exact .refl _

/-- Tags only add map types to the registry. -/
theorem Changes.grows (h : Changes a b) : Registry.Grows a.context.registry b.context.registry :=
  h.keep (P := fun b => Registry.Grows a.context.registry b.context.registry)
    (fun _ _ hbc hab => hab.trans hbc.grows) (.refl _)

theorem Change.keywords_eq (h : Change a b) : b.context.keywords = a.context.keywords := by
  have hres : ∀ {e c o}, a.context.resolve e = (c, o) → c.keywords = a.context.keywords :=
    fun h => (congrArg (·.1.keywords) h).symm
  cases h with
  | parameter notices place h => exact hres h
  | response notices h => exact hres h
  | _ => rfl

/-- Tags do not change the keywords. -/
theorem Changes.keywords_eq (h : Changes a b) : b.context.keywords = a.context.keywords :=
  h.keep (P := fun b => b.context.keywords = a.context.keywords)
    (fun _ _ hbc hab => hbc.keywords_eq.trans hab) rfl

/-! ## Closed assemblies -/

theorem Change.closed (h : Change a b) (ha : a.context.registry.Closed ∧ a.route.Closed) :
    b.context.registry.Closed ∧ b.route.Closed := by
  obtain ⟨hc, hr⟩ := ha
  -- a resolution keeps the registry closed, and its result is closed
  have hres : ∀ {e c d}, a.context.resolve e = (c, .ok d) → c.registry.Closed ∧ d.Closed :=
    fun {e c d} h => by
      have hgrown := hc.resolve e
      rw [Context.registry_resolve h] at hgrown
      exact ⟨hgrown, hc.of_resolve (Context.registry_resolve h)⟩
  cases h with
  | resolve e notices => exact ⟨hc.resolve e, hr⟩
  | parameter notices place h =>
    obtain ⟨hc', hd⟩ := hres h
    exact ⟨hc', hr.merge hd (fun t => Route.mem_types_addParameter)
      (Route.dependentTypes_addParameter ..)⟩
  | response notices h =>
    obtain ⟨hc', hd⟩ := hres h
    exact ⟨hc', hr.merge hd (fun t => Route.mem_types_setResponse) rfl⟩
  | _ => exact ⟨hc, hr.types, hr.dependents⟩

end Assembly

namespace Route

/-- **A route that is put together in a closed context is closed**, and the context stays
closed. -/
theorem closed_assemble {c : Context} (hc : c.registry.Closed) (comment : String)
    (overrides : Dict String TagValue) (source : String) :
    (Route.assemble c comment overrides source).1.context.registry.Closed ∧
      (Route.assemble c comment overrides source).1.route.Closed :=
  (Assembly.changes_assemble c comment overrides source).keep
    (P := fun a => a.context.registry.Closed ∧ a.route.Closed) (fun _ _ h => h.closed)
    ⟨hc, closed_empty⟩

/-- A resource is empty, or begins with a slash. -/
def Rooted (r : Route) : Prop := r.resource = "" ∨ r.resource.toList.head? = some '/'

theorem head?_of_readResource {value resource : String} {m : Option String}
    (h : Endpoint.readResource value = .ok (resource, m)) : resource.toList.head? = some '/' := by
  unfold Endpoint.readResource at h
  simp only at h
  split at h
  · exact absurd h (by simp)
  -- with a method in front of it or not
  split at h
  all_goals
    simp only at h
    split at h
    · rename_i hslash
      rw [← (Prod.mk.inj (Except.ok.inj h)).1, String.toList_ofList]
      exact hslash
    · exact absurd h (by simp)

theorem rooted_assemble (c : Context) (comment : String) (overrides : Dict String TagValue)
    (source : String) : (Route.assemble c comment overrides source).1.route.Rooted := by
  refine (Assembly.changes_assemble c comment overrides source).keep
    (P := fun a => a.route.Rooted) (fun a b h ha => ?_) (.inl rfl)
  cases h with
  | resource h => exact .inr (head?_of_readResource h)
  | parameter notices place h => cases place <;> exact ha
  | _ => exact ha

end Route

end RouteDoc
