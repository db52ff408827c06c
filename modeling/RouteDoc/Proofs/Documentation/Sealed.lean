import RouteDoc.Config
import RouteDoc.Proofs.Documentation.Submission

/-!
# Sealed contexts

* `Context.Use`: what a context can be asked for by those who hold it, routes that are added to a
  documentation included.
* `Context.use`, `Context.after`: the context after a use, and after several.
* `Context.Frozen`: a sealed context that another one has become: no definition is accepted any
  more, and no difference is left but added map types.
* `Context.frozen_after`: **a sealed context stays frozen**, whatever it is asked for.
-/

namespace RouteDoc

/-! ## Routes -/

namespace Assembly

variable {a b : Assembly}

theorem Change.isSealed (h : Change a b) (ha : a.context.isSealed = true) :
    b.context.isSealed = true := by
  have hres : ∀ {e c o}, a.context.resolve e = (c, o) → c.isSealed = true :=
    fun h => (congrArg (·.1.isSealed) h).symm
  cases h with
  | resolve e notices => rfl
  | parameter notices place h => exact hres h
  | response notices h => exact hres h
  | _ => exact ha

theorem Changes.isSealed (h : Changes a b) (ha : a.context.isSealed = true) :
    b.context.isSealed = true :=
  h.keep (P := fun b => b.context.isSealed = true) (fun _ _ h => h.isSealed) ha

end Assembly

/-- Adding a route does to the context what its tags do. -/
theorem Documentation.changes_submit (d : Documentation) (s : Submission) :
    ∃ a, Assembly.Changes { context := d.context } a ∧
      (d.submit s).documentation.context = a.context := by
  unfold submit addRoute
  split
  · rename_i values _
    refine ⟨_, Assembly.changes_assemble d.context s.comment values s.source, ?_⟩
    unfold addRouteOf
    generalize Route.assemble d.context s.comment values s.source = assembled
    obtain ⟨assembly, fault | errors⟩ := assembled
    · rfl
    simp only
    split
    · rfl
    · rw [context_accept]
  · exact ⟨_, .refl, rfl⟩

namespace Context

variable {t : ClassTable} {c d : Context}

/-! ## Uses -/

inductive Use where
  | defineKeyword (name category : String)
  /-- The facets are given by name, and none of them takes the place of another argument. -/
  | definePrimitive (name base : String) (facets : List (String × Datum))
      (h : (facets.any fun e => ["self", "name", "base"].contains e.1) = false)
  | defineAlias (name target : String)
  | defineType (name : String) (sample : Sample)
  | configure (phase : Context → Context × Except ConfigFault Unit)
  | resolve (expression : String)
  | close
  /-- A route that is added to a documentation with this context. -/
  | addRoute (d : Documentation) (s : Submission)

/-- Whether a use is to define something. -/
def Use.defines : Use → Bool
  | .resolve _ | .close | .addRoute .. => false
  | _ => true

/-- The context after a definition that leaves it as it is when it fails. -/
def settle (c : Context) : Except ConfigFault Context → Context × Option ConfigFault
  | .ok c' => (c', none)
  | .error fault => (c, some fault)

/-- The context after a definition, and the fault that the definition has. -/
def noting {α : Type} : Context × Except ConfigFault α → Context × Option ConfigFault
  | (c, .ok _) => (c, none)
  | (c, .error fault) => (c, some fault)

/-- The context after a use, and the fault of a definition. -/
def use (t : ClassTable) (c : Context) : Use → Context × Option ConfigFault
  | .defineKeyword name category => c.settle (c.defineKeywordOf name category)
  | .definePrimitive name base facets _ =>
    c.settle ((c.definePrimitiveOf name base facets).map Prod.fst)
  | .defineAlias name target => noting (c.defineAlias name target)
  | .defineType name sample => noting (c.defineType t name sample)
  | .configure phase => noting (c.configure phase)
  | .resolve e => ((c.resolve e).1, none)
  | .close => (c.sealed, none)
  | .addRoute d s => ((Documentation.submit { d with context := c } s).documentation.context, none)

/-- The context after several uses, whether they succeed or not. -/
def after (t : ClassTable) (c : Context) (uses : List Use) : Context :=
  uses.foldl (fun c u => (c.use t u).1) c

/-! ## Frozen contexts -/

/-- The faults of definitions in a sealed context. -/
inductive SealFault : ConfigFault → Prop
  | alreadyConfigured : SealFault .alreadyConfigured
  | isSealed (what : String) : SealFault (.isSealed what)

theorem checkOpen_of_isSealed (h : c.isSealed = true) (what : String) :
    c.checkOpen what = .error (.isSealed what) := by
  rw [checkOpen, if_pos h]

/-- A sealed context refuses every definition, and is not changed by it. -/
theorem use_of_isSealed (hc : c.isSealed = true) {u : Use} (hu : u.defines = true) :
    ∃ fault, c.use t u = (c, some fault) ∧ SealFault fault := by
  cases u with
  | defineKeyword name category =>
    refine ⟨_, ?_, .isSealed s!"keyword `{name}`"⟩
    rw [use, defineKeywordOf, checkOpen_of_isSealed hc]
    rfl
  | definePrimitive name base facets h =>
    refine ⟨_, ?_, .isSealed s!"primitive `{name}`"⟩
    rw [use, definePrimitiveOf, if_neg (by rw [h]; exact Bool.false_ne_true),
      checkOpen_of_isSealed hc]
    rfl
  | defineAlias name target =>
    refine ⟨_, ?_, .isSealed s!"alias `{name}`"⟩
    rw [use, defineAlias, checkOpen_of_isSealed hc]
    rfl
  | defineType name sample =>
    refine ⟨_, ?_, .isSealed s!"type `{name}`"⟩
    rw [use, defineType, checkOpen_of_isSealed hc]
    rfl
  | configure phase =>
    refine ⟨_, ?_, .alreadyConfigured⟩
    rw [use, Context.configure, if_pos hc]
    rfl
  | _ => exact absurd hu Bool.false_ne_true

/-- What the context `c` can become once it is sealed. -/
structure Frozen (t : ClassTable) (c d : Context) : Prop where
  isSealed : d.isSealed = true
  keywords_eq : d.keywords = c.keywords
  /-- Map types are added, and nothing else changes. -/
  grows : Registry.Grows c.registry d.registry
  refuses : ∀ u : Use, u.defines = true → ∃ fault, d.use t u = (d, some fault) ∧ SealFault fault

/-- The steps that a sealed context can take. -/
theorem frozen_use (hc : c.isSealed = true) (u : Use) : Frozen t c (c.use t u).1 := by
  have hfrozen : ∀ {d : Context}, d.isSealed = true → d.keywords = c.keywords →
      Registry.Grows c.registry d.registry → Frozen t c d := fun hd hk hg =>
    ⟨hd, hk, hg, fun _ => use_of_isSealed hd⟩
  by_cases hu : u.defines = true
  · obtain ⟨fault, heq, -⟩ := use_of_isSealed (t := t) hc hu
    rw [heq]
    exact hfrozen hc rfl (.refl _)
  cases u with
  | resolve e => exact hfrozen rfl rfl (Registry.grows_of_resolve_eq (registry_resolve rfl))
  | close => exact hfrozen rfl rfl (.refl _)
  | addRoute d s =>
    obtain ⟨a, ha, heq⟩ := Documentation.changes_submit { d with context := c } s
    rw [use, heq]
    exact hfrozen (ha.isSealed hc) ha.keywords_eq ha.grows
  | _ => exact absurd rfl hu

/-- **A sealed context stays frozen**: it refuses every definition, and only map types are added to
its registry. -/
theorem frozen_after (hc : c.isSealed = true) (uses : List Use) : Frozen t c (c.after t uses) := by
  refine List.foldlRecOn uses _ ⟨hc, rfl, .refl _, fun _ => use_of_isSealed hc⟩ fun d hd u _ => ?_
  have hu := frozen_use (t := t) hd.isSealed u
  exact ⟨hu.isSealed, hu.keywords_eq.trans hd.keywords_eq, hd.grows.trans hu.grows, hu.refuses⟩

/-- A route adds a map type to a sealed context, which refuses an alias before and after that. -/
theorem frozen_after_map :
    let c := (({} : Context).defineAlias "Books" "[]string").1.sealed
    let uses : List Use := [.defineAlias "Pages" "int",
      .addRoute { context := {} }
        { comment := "@resource GET /books\n@response {map[string]Books}" },
      .defineAlias "Pages" "int"]
    c.isSealed = true ∧ Frozen [] c (c.after [] uses) ∧
      (c.after [] uses).registry.definitions.keys = ["map_string_stringArray"] := by
  intro c uses
  have hc : c.isSealed = true := by decide +kernel
  exact ⟨hc, frozen_after hc uses, by decide +kernel⟩

end Context

end RouteDoc
