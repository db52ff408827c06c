import RouteDoc.Proofs.Configuration.Run
import RouteDoc.Proofs.Resolution.Closed

/-!
# Configuration keeps types closed

* `Context.closed_resolveFields`: the types of fields are closed when they are resolved.
* `Context.closed_defineType`, `Context.closed_defineAlias`: these definitions keep the registry
  closed, also if they fail.
* `Context.closed_configured`: **a configured context is closed**, if its narrowed built-in types
  have identifiers as names.
-/

namespace RouteDoc

/-- Registering an alias leaves the definitions as they are. -/
theorem Registry.definitions_of_addAlias {r s : Registry} {name target : String} {isNew : Bool}
    (h : r.addAlias name target = .ok (s, isNew)) : s.definitions = r.definitions := by
  obtain ⟨-, ⟨-, rfl, -⟩ | ⟨-, rfl, -⟩⟩ := addAlias_eq_ok_iff.1 h <;> rfl

namespace Context

variable {c : Context} {t : ClassTable} {name : String}

/-! ## Single definitions -/

theorem closed_defineAlias {target : String} (hc : c.registry.Closed) :
    (c.defineAlias name target).1.registry.Closed := by
  have hres := hc.resolve (Text.strip target)
  rcases registry_defineAlias c name target with h | h | ⟨d, isNew, -, -, hadd⟩
  · rwa [h]
  · rwa [h]
  · exact hres.of_definitions_eq (Registry.definitions_of_addAlias hadd)

/-- The types of fields are closed when they are resolved, and the registry stays closed. -/
theorem closed_resolveFields (hc : c.registry.Closed) (specs : List FieldSpec) :
    (c.resolveFields specs).1.registry.Closed ∧
      ∀ fields, (c.resolveFields specs).2 = .ok fields → ∀ f ∈ fields, f.type.Closed := by
  induction specs generalizing c with
  | nil => exact ⟨hc, fun fields h f hf => absurd hf (by simp [← Except.ok.inj h])⟩
  | cons spec specs ih =>
    have hres : (c.resolveOpen spec.expression).1.registry.Closed := hc.resolve spec.expression
    unfold resolveFields
    split
    · rename_i hopen
      rw [hopen] at hres
      exact ⟨hres, fun fields h => absurd h (by simp)⟩
    · rename_i c' d hopen
      rw [hopen] at hres
      obtain ⟨hrest, hfields⟩ := ih hres
      refine ⟨hrest, fun fields h f hf => ?_⟩
      obtain ⟨rest, hspecs, rfl⟩ := map_eq_ok_iff.1 h
      rcases List.mem_cons.1 hf with rfl | hf
      · exact hc.of_resolve (registry_resolveOpen hopen)
      · exact hfields rest hspecs f hf

/-- A type of objects is registered with closed fields, and all else stays closed. -/
theorem closed_defineType {sample : Sample} (hc : c.registry.Closed) :
    (c.defineType t name sample).1.registry.Closed := by
  have hbind : (c.bindSample name sample).registry.Closed := by
    cases sample with
    | fields entries => exact hc
    | _ => exact hc.of_definitions_eq rfl
  rcases registry_defineType c t name sample with h | h | ⟨layout, h | ⟨fields, s, _, hok, hadd, h⟩⟩
  · rwa [h]
  · rwa [h]
  · exact h ▸ (closed_resolveFields hbind layout.fields).1
  obtain ⟨hres, hfields⟩ := closed_resolveFields hbind layout.fields
  have hadded : s.Closed := by
    refine hres.add (fun p hp => absurd hp (by simp)) (fun d hd => ?_) hadd
    obtain ⟨f, hf, rfl⟩ := List.mem_map.1 hd
    exact hfields fields hok f hf
  rcases h with h | ⟨cls, _, -, -, halias⟩
  · rwa [h]
  · exact hadded.of_definitions_eq (Registry.definitions_of_addAlias halias)

/-! ## Runs -/

/-- **A configured context is closed**, if its narrowed built-in types have identifiers as
names. -/
theorem closed_configured {calls : List Call}
    (hnames : ∀ name base facets, .definePrimitive name base facets ∈ calls →
      Form.isIdentifier name.toList = true) : (configured t calls).registry.Closed := by
  refine configured_induct (P := fun c => c.registry.Closed) Registry.closed_empty
    fun k hk c hc => ?_
  cases k with
  | defineKeyword name category => exact (registry_call_defineKeyword t c name category).symm ▸ hc
  | definePrimitive name base facets =>
    rcases registry_call_definePrimitive t c name base facets with h | ⟨p, isNew, rfl, hadd⟩
    · exact h.symm ▸ hc
    refine hc.add (fun q hq => ?_) (by simp [Definition.types]) hadd
    obtain rfl := Definition.primitive.inj hq
    exact hnames p.name base facets hk
  | defineAlias name target => exact closed_defineAlias hc
  | defineType name sample => exact closed_defineType hc
  | resolve e => exact hc.resolve e
  | close => exact hc

end Context

end RouteDoc
