import RouteDoc.Proofs.Resolution.Joined
import RouteDoc.Proofs.Route.Closed

/-!
# Routes next to further map types

A route is put together step by step in two contexts, where the second has some map types that the
first does not have.

* `Context.Joins`, `Assembly.Joins`: the second context has some map types on the side; all else is
  the same, and so is the route.
* `Assembly.Parallel`: two steps have the same outcome and keep the assemblies so, as far as what
  the first one registers is there in the end.
* `Assembly.parallel_addTags`, `Route.parallel_assemble`: **tags do the same on both sides.**
-/

namespace RouteDoc

variable {ms : List MapType} {u : Registry}

namespace Context

variable {c c' : Context}

/-- The second context has some map types on the side. -/
structure Joins (ms : List MapType) (c c' : Context) : Prop where
  registry : Registry.Joins ms c.registry c'.registry
  keywords : c'.keywords = c.keywords

theorem Joins.resolve (h : Joins ms c c') (hu : u.AgreesWith ms) {e : String}
    (hgrows : Registry.Grows (c.resolve e).1.registry u) :
    Joins ms (c.resolve e).1 (c'.resolve e).1 ∧ (c'.resolve e).2 = (c.resolve e).2 :=
  let ⟨hregistry, houtcome⟩ := h.registry.resolve hu (e := e) hgrows
  ⟨⟨hregistry, h.keywords⟩, houtcome⟩

theorem Joins.readParameter (h : Joins ms c c') (hu : u.AgreesWith ms) {isBody : Bool}
    {keyword : String} {fields : List String}
    (hgrows : Registry.Grows (c.readParameter isBody keyword fields).context.registry u) :
    Joins ms (c.readParameter isBody keyword fields).context
      (c'.readParameter isBody keyword fields).context ∧
    (c'.readParameter isBody keyword fields).outcome =
      (c.readParameter isBody keyword fields).outcome := by
  unfold Context.readParameter at hgrows ⊢
  generalize ParameterDraft.ofFields isBody fields = reading at hgrows ⊢
  obtain fault | draft := reading
  · exact ⟨h, rfl⟩
  have hresolve := fun hgrows => h.resolve hu (e := draft.type.expression) hgrows
  simp only at hgrows ⊢
  generalize c.resolve draft.type.expression = x at *
  generalize c'.resolve draft.type.expression = y at *
  obtain ⟨c₁, fault | type⟩ := x
  · obtain ⟨c₁', _⟩ := y
    obtain ⟨hjoins, rfl⟩ := hresolve hgrows
    exact ⟨hjoins, rfl⟩
  · -- the base of the type is the same on both sides
    obtain ⟨c₁', _⟩ := y
    obtain ⟨hjoins, rfl⟩ := hresolve (by
      simp only at hgrows
      split at hgrows <;> exact hgrows)
    simp only [hjoins.registry.baseOf_eq]
    cases draft.complete type (c₁.registry.baseOf type) with
    | error fault => exact ⟨hjoins, rfl⟩
    | ok p => exact ⟨hjoins, rfl⟩

theorem Joins.readResponse (h : Joins ms c c') (hu : u.AgreesWith ms) {fields : List String}
    (hgrows : Registry.Grows (c.readResponse fields).context.registry u) :
    Joins ms (c.readResponse fields).context (c'.readResponse fields).context ∧
    (c'.readResponse fields).outcome = (c.readResponse fields).outcome := by
  unfold Context.readResponse at hgrows ⊢
  generalize ResponseDraft.ofFields fields = reading at hgrows ⊢
  obtain fault | draft := reading
  · exact ⟨h, rfl⟩
  have hresolve := fun hgrows => h.resolve hu (e := draft.expression) hgrows
  simp only at hgrows ⊢
  generalize c.resolve draft.expression = x at *
  generalize c'.resolve draft.expression = y at *
  obtain ⟨c₁, fault | type⟩ := x
  · obtain ⟨c₁', _⟩ := y
    obtain ⟨hjoins, rfl⟩ := hresolve hgrows
    exact ⟨hjoins, rfl⟩
  · obtain ⟨c₁', _⟩ := y
    obtain ⟨hjoins, rfl⟩ := hresolve hgrows
    exact ⟨hjoins, rfl⟩

end Context

namespace Assembly

variable {a a' b : Assembly} {α : Type}

/-- The second assembly has the same route, in a context with some map types on the side. -/
structure Joins (ms : List MapType) (a a' : Assembly) : Prop where
  context : Context.Joins ms a.context a'.context
  route : a'.route = a.route

/-- Two steps have the same outcome and keep the assemblies next to each other, as far as what the
first one registers is there in the end. -/
def Parallel (ms : List MapType) (u : Registry) (x y : Assembly × α) : Prop :=
  Registry.Grows x.1.context.registry u → x.1.Joins ms y.1 ∧ y.2 = x.2

theorem Joins.change (h : a.Joins ms a') (f : Route → Route) :
    Parallel ms u (a.change f) (a'.change f) := fun _ =>
  ⟨⟨h.context, congrArg f h.route⟩, rfl⟩

theorem Joins.same (h : a.Joins ms a') (x : α) : Parallel ms u (a, x) (a', x) := fun _ => ⟨h, rfl⟩

theorem Joins.refuse (h : a.Joins ms a') (fault : FieldFault) :
    Parallel ms u (a.refuse fault) (a'.refuse fault) :=
  h.same _

theorem parallel_addParameter (hu : u.AgreesWith ms) (h : a.Joins ms a') (place : Place)
    (fields : List String) :
    Parallel ms u (addParameter place a fields) (addParameter place a' fields) := by
  intro hgrows
  have hcontext : (addParameter place a fields).1.context =
      (a.context.readParameter (place == .body) (keywordOf place) fields).context := by
    unfold addParameter
    simp only
    split <;> rfl
  rw [hcontext] at hgrows
  obtain ⟨hjoins, houtcome⟩ := h.context.readParameter hu hgrows
  unfold addParameter
  simp only [houtcome]
  cases (a.context.readParameter (place == .body) (keywordOf place) fields).outcome with
  | error fault => exact ⟨⟨hjoins, h.route⟩, rfl⟩
  | ok p => exact ⟨⟨hjoins, congrArg (·.addParameter place p) h.route⟩, rfl⟩

theorem parallel_setResponse (hu : u.AgreesWith ms) (h : a.Joins ms a') (lines : List String) :
    Parallel ms u (a.setResponse lines) (a'.setResponse lines) := by
  intro hgrows
  have hcontext : (a.setResponse lines).1.context = (a.context.readResponse lines).context := by
    unfold setResponse
    simp only
    split <;> rfl
  rw [hcontext] at hgrows
  obtain ⟨hjoins, houtcome⟩ := h.context.readResponse hu hgrows
  unfold setResponse
  simp only [houtcome]
  cases (a.context.readResponse lines).outcome with
  | error fault => exact ⟨⟨hjoins, h.route⟩, rfl⟩
  | ok x => exact ⟨⟨hjoins, congrArg (·.setResponse x) h.route⟩, rfl⟩

theorem parallel_addExample (h : a.Joins ms a') (lines : List String) :
    Parallel ms u (a.addExample lines) (a'.addExample lines) := by
  have hreport : (a.advance a.context ((Example.ignored lines).map .exampleLineIgnored)).Joins ms
      (a'.advance a'.context ((Example.ignored lines).map .exampleLineIgnored)) :=
    ⟨h.context, h.route⟩
  unfold addExample
  simp only
  cases Example.read lines with
  | error fault => exact hreport.same _
  | ok e => exact hreport.change _

theorem parallel_setMethod (h : a.Joins ms a') (value : String) :
    Parallel ms u (a.setMethod value) (a'.setMethod value) := by
  unfold setMethod
  cases Endpoint.readMethod value with
  | error fault => exact h.refuse fault
  | ok method => exact h.change _

theorem parallel_setResource (h : a.Joins ms a') (value : String) :
    Parallel ms u (a.setResource value) (a'.setResource value) := by
  unfold setResource
  cases Endpoint.readResource value with
  | error fault => exact h.refuse fault
  | ok resource => exact h.change _

theorem parallel_setDescription (h : a.Joins ms a') (lines : List String) :
    Parallel ms u (a.setDescription lines) (a'.setDescription lines) :=
  h.change _

theorem parallel_addStub (h : a.Joins ms a') (keyword : String) (value : TagValue) :
    Parallel ms u (a.addStub keyword value) (a'.addStub keyword value) := by
  have hcategory : a'.context.category? keyword = a.context.category? keyword :=
    congrArg (Dict.get? · keyword) h.context.keywords
  unfold addStub
  simp only [hcategory]
  cases a.context.category? keyword with
  | none => exact h.same _
  | some category => cases category <;> exact h.change _

theorem parallel_eachGroup {f : Assembly → List String → Step}
    (hf : ∀ {a a'} g, a.Joins ms a' → Parallel ms u (f a g) (f a' g))
    (hchanges : ∀ a g, Changes a (f a g).1) (h : a.Joins ms a') (groups : List (List String)) :
    Parallel ms u (eachGroup f a groups) (eachGroup f a' groups) := by
  induction groups generalizing a a' with
  | nil => exact h.same _
  | cons g gs ih =>
    intro hgrows
    have hrest : Registry.Grows (f a g).1.context.registry u := by
      refine Registry.Grows.trans ?_ hgrows
      unfold eachGroup
      split <;> rename_i heq <;> rw [heq]
      · exact (changes_eachGroup hchanges _ gs).grows
      · exact .refl _
    have hstep := hf g h hrest
    unfold eachGroup at hgrows ⊢
    generalize f a g = x at *
    generalize f a' g = y at *
    obtain ⟨b, fault | ⟨⟩⟩ := x
    · obtain ⟨b', _⟩ := y
      obtain ⟨hjoins, rfl⟩ := hstep
      exact ⟨hjoins, rfl⟩
    · obtain ⟨b', _⟩ := y
      obtain ⟨hjoins, rfl⟩ := hstep
      exact ih hjoins hgrows

theorem parallel_given {reading : Except FieldFault α} {f f' : α → Step} (h : a.Joins ms a')
    (hf : ∀ x, Parallel ms u (f x) (f' x)) :
    Parallel ms u (a.given reading f) (a'.given reading f') := by
  unfold given
  cases reading with
  | error fault => exact h.refuse fault
  | ok x => exact hf x

theorem parallel_apply (hu : u.AgreesWith ms) (h : a.Joins ms a') (keyword : String)
    (value : TagValue) : Parallel ms u (a.apply keyword value) (a'.apply keyword value) := by
  refine apply_induct (motive := fun _ f => Parallel ms u (f a value) (f a' value))
    ?handler ?method ?resource ?description ?response ?parameter ?example' ?stub keyword
  case handler => exact h.same _
  case method => exact parallel_given h (parallel_setMethod h)
  case resource => exact parallel_given h (parallel_setResource h)
  case description => exact parallel_given h (parallel_setDescription h)
  case response => exact parallel_given h (parallel_setResponse hu h)
  case parameter =>
    exact fun place => parallel_eachGroup (fun g h => parallel_addParameter hu h place g)
      (changes_addParameter place) h _
  case example' =>
    exact parallel_eachGroup (fun g h => parallel_addExample h g) changes_addExample h _
  case stub => exact fun k _ => parallel_addStub h k value

/-- A tag does the same on both sides. -/
theorem parallel_addTag (hu : u.AgreesWith ms) (h : a.Joins ms a') (keyword : String)
    (value : TagValue) : Parallel ms u (a.addTag keyword value) (a'.addTag keyword value) := by
  intro hgrows
  unfold addTag at hgrows ⊢
  split at hgrows
  · rename_i k _
    have hgroups : Parallel ms u (eachGroup (fun a g => a.apply k (.fields g)) a value.toGroups)
        (eachGroup (fun a g => a.apply k (.fields g)) a' value.toGroups) :=
      parallel_eachGroup (fun g h => parallel_apply hu h k (.fields g))
        (fun a g => changes_apply a k (.fields g)) h _
    obtain ⟨hjoins, houtcome⟩ := hgroups hgrows
    exact ⟨hjoins, congrArg (Except.mapError (TagError.mk k)) houtcome⟩
  · obtain ⟨hjoins, houtcome⟩ := parallel_apply hu h keyword value hgrows
    exact ⟨hjoins, congrArg (Except.mapError (TagError.mk keyword)) houtcome⟩

/-- **Tags do the same on both sides.** -/
theorem parallel_addTags (hu : u.AgreesWith ms) (source : String) (h : a.Joins ms a')
    (tags : List (String × TagValue)) :
    Parallel ms u (addTags source a tags) (addTags source a' tags) := by
  induction tags generalizing a a' with
  | nil => exact h.same _
  | cons tag tags ih =>
    obtain ⟨keyword, value⟩ := tag
    intro hgrows
    have hrest : Registry.Grows (a.addTag keyword value).1.context.registry u := by
      refine Registry.Grows.trans ?_ hgrows
      unfold addTags
      split <;> rename_i b _ heq <;> rw [heq]
      · exact (changes_addTags source b tags).grows
      · split
        · exact .refl _
        · exact (changes_addTags source (b.advance _ _) tags).grows
    have hstep := parallel_addTag hu h keyword value hrest
    unfold addTags at hgrows ⊢
    generalize a.addTag keyword value = x at *
    generalize a'.addTag keyword value = y at *
    obtain ⟨b, e | ⟨⟩⟩ := x
    · obtain ⟨b', _⟩ := y
      obtain ⟨hjoins, rfl⟩ := hstep
      by_cases hends : e.fault = .overlongNumber
      · simp only [if_pos hends, and_true]
        exact hjoins
      have hreport : (b.advance b.context [.tagSkipped e.message (b.label source)]).Joins ms
          (b'.advance b'.context [.tagSkipped e.message (b'.label source)]) :=
        ⟨hjoins.context, hjoins.route⟩
      simp only [if_neg hends] at hgrows ⊢
      obtain ⟨hend, herrors⟩ := ih hreport hgrows
      exact ⟨hend, congrArg (Except.map (e :: ·)) herrors⟩
    · obtain ⟨b', _⟩ := y
      obtain ⟨hjoins, rfl⟩ := hstep
      exact ih hjoins hgrows

end Assembly

/-- A route is put together the same way on both sides. -/
theorem Route.parallel_assemble {c c' : Context} (hu : u.AgreesWith ms) (h : c.Joins ms c')
    (comment : String) (overrides : Dict String TagValue) (source : String) :
    Assembly.Parallel ms u (Route.assemble c comment overrides source)
      (Route.assemble c' comment overrides source) := by
  have hstart : ({ context := c } : Assembly).Joins ms { context := c' } := ⟨h, rfl⟩
  exact Assembly.parallel_addTags hu source hstart _

end RouteDoc
