import RouteDoc.Context

/-!
# Runs of configuration

* `Context.registry_resolve`: a context resolves like its registry.
* `Context.registry_of_definePrimitive`, `Context.registry_defineAlias`,
  `Context.registry_defineType`: the registry after a definition, in all the ways in which it can
  succeed or fail.
* `Context.Call`: what a context can be asked for.
* `Context.call`: the context after a call.  A call that fails counts too, since it may leave map
  types behind.
* `Context.configured`: the context after several calls on a fresh one.
-/

namespace RouteDoc

/-! ## Outcomes that are passed on -/

section Outcomes

variable {ε α β : Type} {x : Except ε α} {f : α → β}

theorem map_eq_error_iff {e : ε} : x.map f = .error e ↔ x = .error e := by
  cases x <;> simp [Except.map]

theorem map_eq_ok_iff {y : β} : x.map f = .ok y ↔ ∃ z, x = .ok z ∧ y = f z := by
  cases x <;> simp [Except.map, eq_comm]

end Outcomes

namespace Context

/-! ## Resolution in a context -/

theorem registry_resolveOpen {c c' : Context} {e : String} {outcome : Except TypeFault Descriptor}
    (h : c.resolveOpen e = (c', outcome)) : c.registry.resolve e = (c'.registry, outcome) := by
  obtain ⟨rfl, rfl⟩ := Prod.mk.injEq .. ▸ h
  rfl

/-- A context resolves like its registry, whether it is sealed or not. -/
theorem registry_resolve {c c' : Context} {e : String} {outcome : Except TypeFault Descriptor}
    (h : c.resolve e = (c', outcome)) : c.registry.resolve e = (c'.registry, outcome) :=
  registry_resolveOpen (c := c.sealed) h

/-! ## Definitions -/

section Definitions

variable {c c' : Context} {t : ClassTable} {name : String}

theorem registry_of_add {d : Definition} (h : c.add d = .ok c') :
    ∃ isNew, c.registry.add d = .ok (c'.registry, isNew) := by
  unfold add at h
  split at h
  · rename_i r isNew hadd
    obtain rfl := Except.ok.inj h
    exact ⟨isNew, hadd⟩
  · exact absurd h (by simp)

theorem registry_of_defineKeywordOf {category : String}
    (h : c.defineKeywordOf name category = .ok c') : c'.registry = c.registry := by
  simp only [defineKeywordOf, defineKeyword, checkOpen, bind, Except.bind] at h
  repeat' split at h
  all_goals simp_all
  all_goals rw [← h]

theorem registry_of_definePrimitive {base : String} {facets : Facets} {p : Primitive}
    (h : c.definePrimitive name base facets = .ok (c', p)) :
    p.name = name ∧ ∃ isNew, c.registry.add (.primitive p) = .ok (c'.registry, isNew) := by
  simp only [definePrimitive, checkOpen, bind, Except.bind] at h
  split at h
  · exact absurd h (by simp)
  split at h
  · exact absurd h (by simp)
  rename_i c'' hadd
  obtain ⟨rfl, rfl⟩ := Prod.mk.injEq .. ▸ Except.ok.inj h
  exact ⟨rfl, registry_of_add hadd⟩

theorem registry_of_aliasSample {sample : Sample} (h : c.aliasSample t name sample = .ok c') :
    c'.registry = c.registry ∨ ∃ cls isNew, sample.class? = some cls ∧ t.className cls ≠ name ∧
      c.registry.addAlias (t.className cls) name = .ok (c'.registry, isNew) := by
  unfold aliasSample at h
  split at h
  · obtain rfl := Except.ok.inj h
    exact .inl rfl
  split at h
  · obtain rfl := Except.ok.inj h
    exact .inl rfl
  rename_i hne
  split at h
  · rename_i hadd
    obtain rfl := Except.ok.inj h
    exact .inr ⟨_, _, ‹_›, hne, hadd⟩
  · exact absurd h (by simp)

/-- Defining an alias does nothing, or it resolves the target, or it adds the alias after that, if
all names in the target are known. -/
theorem registry_defineAlias (c : Context) (name target : String) :
    let resolved := c.registry.resolve (Text.strip target)
    let r := (c.defineAlias name target).1.registry
    r = c.registry ∨ r = resolved.1 ∨ ∃ d isNew, resolved.2 = .ok d ∧
      (∀ n ∈ d.dependents, resolved.1.knows n = true) ∧
      resolved.1.addAlias name (Text.strip target) = .ok (r, isNew) := by
  simp only [defineAlias]
  split
  · exact .inl rfl
  split
  · exact .inl rfl
  split
  · rename_i hopen
    rw [registry_resolveOpen hopen]
    exact .inr (.inl rfl)
  rename_i hopen
  rw [registry_resolveOpen hopen]
  split
  · exact .inr (.inl rfl)
  rename_i hall
  split
  · exact .inr (.inl rfl)
  · rename_i hadd
    refine .inr (.inr ⟨_, _, rfl, ?_, hadd⟩)
    simpa using hall

/-- What resolution keeps, resolving the fields of a type keeps. -/
theorem resolveFields_induct {P : Registry → Prop} (hc : P c.registry)
    (resolve : ∀ r e, P r → P (r.resolve e).1) (specs : List FieldSpec) :
    P (c.resolveFields specs).1.registry := by
  induction specs generalizing c with
  | nil => exact hc
  | cons spec specs ih =>
    have hres := resolve c.registry spec.expression hc
    unfold resolveFields
    split
    · rename_i hopen
      rwa [registry_resolveOpen hopen] at hres
    · rename_i hopen
      rw [registry_resolveOpen hopen] at hres
      exact ih hres

/-- Defining a type of objects binds its class and resolves its fields.  Then the type is added, and
an alias for it if the class has another name.  If this fails, it stops on the way. -/
theorem registry_defineType (c : Context) (t : ClassTable) (name : String) (sample : Sample) :
    let bound := c.bindSample name sample
    let r := (c.defineType t name sample).1.registry
    r = c.registry ∨ r = bound.registry ∨ ∃ layout : Layout,
      let resolved := bound.resolveFields layout.fields
      r = resolved.1.registry ∨ ∃ fields s isNew, resolved.2 = .ok fields ∧
        resolved.1.registry.add (.struct ⟨name, layout.source, fields⟩) = .ok (s, isNew) ∧
        (r = s ∨ ∃ cls isNew, sample.class? = some cls ∧ t.className cls ≠ name ∧
          s.addAlias (t.className cls) name = .ok (r, isNew)) := by
  simp only [defineType]
  split
  · exact .inl rfl
  split
  · exact .inr (.inl rfl)
  rename_i layout _ _
  refine .inr (.inr ⟨layout, ?_⟩)
  split
  · rename_i hspecs
    rw [hspecs]
    exact .inl rfl
  rename_i hspecs
  rw [hspecs]
  split
  · exact .inl rfl
  rename_i hadd
  obtain ⟨isNew, hadd⟩ := registry_of_add hadd
  refine .inr ⟨_, _, isNew, rfl, hadd, ?_⟩
  split
  · exact .inl rfl
  · rename_i halias
    exact registry_of_aliasSample halias

/-- A type of objects is defined from a layout whose fields are all resolved. -/
theorem exists_of_defineType {sample : Sample} {s : Struct}
    (h : c.defineType t name sample = (c', .ok s)) :
    let bound := c.bindSample name sample
    ∃ layout notices c₁ fields r isNew,
      Layout.describe t bound.registry sample = .ok (layout, notices) ∧
      bound.resolveFields layout.fields = (c₁, .ok fields) ∧ s = ⟨name, layout.source, fields⟩ ∧
      c₁.registry.add (.struct s) = .ok (r, isNew) ∧
      (c'.registry = r ∨
        ∃ cls isNew, r.addAlias (t.className cls) name = .ok (c'.registry, isNew)) := by
  simp only [defineType] at h
  split at h
  · exact absurd h (by simp)
  split at h
  · exact absurd h (by simp)
  rename_i layout notices hlayout
  split at h
  · exact absurd h (by simp)
  rename_i c₁ fields hfields
  split at h
  · exact absurd h (by simp)
  rename_i c₂ hadd
  obtain ⟨isNew, hadd⟩ := registry_of_add hadd
  split at h
  · exact absurd h (by simp)
  rename_i halias
  obtain ⟨rfl, hs⟩ := Prod.mk.injEq .. ▸ h
  obtain rfl := Except.ok.inj hs
  refine ⟨layout, notices, c₁, fields, c₂.registry, isNew, hlayout, hfields, rfl, hadd, ?_⟩
  rcases registry_of_aliasSample halias with halias | ⟨cls, isNew, -, -, halias⟩
  · exact .inl halias
  · exact .inr ⟨cls, isNew, halias⟩

end Definitions

/-! ## Calls -/

inductive Call where
  | defineKeyword (name category : String)
  | definePrimitive (name base : String) (facets : Facets)
  | defineAlias (name target : String)
  | defineType (name : String) (sample : Sample)
  | resolve (expression : String)
  | close
  deriving DecidableEq, Inhabited

/-- The context after a call, whether it succeeds or not. -/
def call (t : ClassTable) (c : Context) : Call → Context
  | .defineKeyword name category => (c.defineKeywordOf name category).toOption.getD c
  | .definePrimitive name base facets => ((c.definePrimitive name base facets).map Prod.fst).toOption.getD c
  | .defineAlias name target => (c.defineAlias name target).1
  | .defineType name sample => (c.defineType t name sample).1
  | .resolve e => (c.resolve e).1
  | .close => c.sealed

theorem registry_call_defineKeyword (t : ClassTable) (c : Context) (name category : String) :
    (c.call t (.defineKeyword name category)).registry = c.registry := by
  simp only [call]
  cases h : c.defineKeywordOf name category with
  | error fault => rfl
  | ok c' => exact registry_of_defineKeywordOf h

theorem registry_call_definePrimitive (t : ClassTable) (c : Context) (name base : String)
    (facets : Facets) :
    let r := (c.call t (.definePrimitive name base facets)).registry
    r = c.registry ∨ ∃ p isNew, p.name = name ∧ c.registry.add (.primitive p) = .ok (r, isNew) := by
  simp only [call]
  cases h : c.definePrimitive name base facets with
  | error fault => exact .inl rfl
  | ok q =>
    obtain ⟨hname, isNew, hadd⟩ := registry_of_definePrimitive h
    exact .inr ⟨q.2, isNew, hname, hadd⟩

/-- The context after several calls on a fresh one. -/
def configured (t : ClassTable) (calls : List Call) : Context := calls.foldl (call t) {}

/-- What a fresh context has and each call keeps, a configured context has. -/
theorem configured_induct {P : Context → Prop} {t : ClassTable} {calls : List Call} (fresh : P {})
    (call : ∀ k ∈ calls, ∀ c, P c → P (c.call t k)) : P (configured t calls) :=
  List.foldlRecOn calls _ fresh fun c hc k hk => call k hk c hc

end Context

end RouteDoc
