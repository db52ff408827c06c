import RouteDoc.Route.Assembly

/-!
# Single steps of an assembly

Everything that a step needs is read before the route is changed.

* `Assembly.Does`: a step that changes the route in some way, or fails and leaves it as it is.
* `Assembly.does_addParameter`, `Assembly.does_addStub` and so on: what each single step does.
* `Keyword.base`: the keyword by which a tag is applied, see `Assembly.addTag_eq`.
* `Assembly.apply_induct`: **what holds of the steps of each keyword holds of every tag.**
* `Assembly.exists_step_of_mem`, `Assembly.does_apply`: a tag takes one step for each of its groups,
  or a single step.
-/

namespace RouteDoc

namespace Keyword

/-- The keyword by which a tag is applied. -/
def base (keyword : String) : String := (singular? keyword).getD keyword

/-- The keywords that several groups of fields can be passed to. -/
def grouped : List String := [route, query, body, example']

/-- The keywords that every context knows, without their plurals. -/
def builtIn : List String := [handler, method, resource, description, response] ++ grouped

/-- A plural is applied by a keyword that takes groups. -/
theorem mem_grouped_of_singular? {keyword k : String} (h : singular? keyword = some k) :
    k ∈ grouped := by
  obtain ⟨l, r, hsplit, -⟩ := List.lookup_eq_some_iff.1 h
  have hmem : (keyword, k) ∈ plurals := by rw [hsplit]; simp
  have hall : ∀ p ∈ plurals, p.2 ∈ grouped := by decide
  exact hall _ hmem

/-- Only a plural is applied by another keyword. -/
theorem base_eq_self {keyword : String} (h : base keyword ∉ builtIn) : base keyword = keyword := by
  cases hk : singular? keyword with
  | none => rw [base, hk, Option.getD_none]
  | some k =>
    rw [base, hk] at h
    exact absurd (List.mem_append_right _ (mem_grouped_of_singular? hk)) h

end Keyword

namespace Route

theorem parameters_addParameter (r : Route) (place place' : Place) (p : Parameter) :
    (r.addParameter place p).parameters place' =
      if place = place' then (r.parameters place').put p.name p else r.parameters place' := by
  cases place <;> cases place' <;> rfl

/-- The recorded tags of a category. -/
def stubs (r : Route) : Category → Dict String Stub
  | .trait => r.traits
  | .security => r.securities
  | .remark => r.annotations

/-- Records a tag of a category. -/
def putStub (r : Route) (category : Category) (stub : Stub) : Route :=
  match category with
  | .trait => { r with traits := r.traits.put stub.name stub }
  | .security => { r with securities := r.securities.put stub.name stub }
  | .remark => { r with annotations := r.annotations.put stub.name stub }

theorem stubs_putStub (r : Route) (category category' : Category) (stub : Stub) :
    (r.putStub category stub).stubs category' =
      if category = category' then (r.stubs category').put stub.name stub
      else r.stubs category' := by
  cases category <;> cases category' <;> rfl

end Route

namespace Assembly

/-- The step changes the route as `P` says, or fails and leaves it as it is. -/
def Does (P : Route → Route → Prop) (a : Assembly) (s : Step) : Prop :=
  match s.2 with
  | .ok _ => P a.route s.1.route
  | .error _ => s.1.route = a.route

variable {a b : Assembly} {P Q : Route → Route → Prop} {s : Step} {fault : TagFault}

namespace Does

theorem mono (h : Does P a s) (hpq : ∀ r r', P r r' → Q r r') : Does Q a s := by
  unfold Does at h ⊢
  split <;> simp_all

/-- A step that fails leaves the route as it is. -/
theorem route_of_error (h : Does P a s) (hs : s.2 = .error fault) : s.1.route = a.route := by
  rwa [Does, hs] at h

theorem of_refl (h : Does P a s) (hrefl : ∀ r, P r r) : P a.route s.1.route := by
  unfold Does at h
  split at h
  · exact h
  · rw [h]
    exact hrefl _

end Does

/-! ## Steps -/

theorem does_addParameter (place : Place) (a : Assembly) (fields : List String) :
    Does (fun r r' => ∃ p, r' = r.addParameter place p) a (addParameter place a fields) := by
  unfold addParameter
  simp only
  split
  · exact ⟨_, rfl⟩
  · rfl

theorem does_setResponse (a : Assembly) (lines : List String) :
    Does (fun r r' => ∃ x, r' = r.setResponse x) a (a.setResponse lines) := by
  unfold setResponse
  simp only
  split
  · exact ⟨_, rfl⟩
  · rfl

theorem does_addExample (a : Assembly) (lines : List String) :
    Does (fun r r' => ∃ e, Example.read lines = .ok e ∧ r' = r.addExample e) a
      (a.addExample lines) := by
  unfold addExample
  simp only
  split
  · exact ⟨_, ‹_›, rfl⟩
  · rfl

theorem does_setMethod (a : Assembly) (value : String) :
    Does (fun r r' => ∃ m, r' = { r with method := m }) a (a.setMethod value) := by
  unfold setMethod
  split
  · exact ⟨_, rfl⟩
  · rfl

theorem does_setResource (a : Assembly) (value : String) :
    Does (fun r r' => ∃ resource m, r' = { r with resource := resource, method := m }) a
      (a.setResource value) := by
  unfold setResource
  split
  · exact ⟨_, _, rfl⟩
  · rfl

theorem does_setDescription (a : Assembly) (lines : List String) :
    Does (fun r r' => ∃ name text, r' = { r with name := name, description := text }) a
      (a.setDescription lines) :=
  ⟨_, _, rfl⟩

theorem addStub_eq {keyword : String} {category : Category}
    (h : a.context.category? keyword = some category) (value : TagValue) :
    a.addStub keyword value =
      a.change (·.putStub category ⟨keyword, value.toGroups.flatten⟩) := by
  unfold addStub
  simp only [h]
  cases category <;> rfl

theorem does_addStub (a : Assembly) (keyword : String) (value : TagValue) :
    Does (fun r r' => ∃ category stub, r' = r.putStub category stub) a
      (a.addStub keyword value) := by
  cases h : a.context.category? keyword with
  | none => simp only [addStub, h, Does]
  | some category =>
    rw [addStub_eq h]
    exact ⟨_, _, rfl⟩

theorem does_given {α : Type} {reading : Except FieldFault α} {f : α → Step}
    (hf : ∀ x, Does P a (f x)) : Does P a (a.given reading f) := by
  unfold given
  split
  · exact hf _
  · rfl

/-! ## Steps for several groups -/

theorem eachGroup_singleton (f : Assembly → List String → Step) (a : Assembly) (g : List String) :
    eachGroup f a [g] = f a g := by
  unfold eachGroup
  split
  · rename_i h
    rw [h]
    rfl
  · rename_i h
    exact h.symm

/-- Steps for several groups go on behind those that have been taken. -/
theorem eachGroup_append {f : Assembly → List String → Step} {done : List (List String)}
    (h : eachGroup f a done = (b, .ok ())) (rest : List (List String)) :
    eachGroup f a (done ++ rest) = eachGroup f b rest := by
  induction done generalizing a with
  | nil => rw [← (Prod.mk.inj h).1, List.nil_append]
  | cons g gs ih =>
    rw [List.cons_append, eachGroup]
    rw [eachGroup] at h
    split at h
    · exact ih h
    · exact absurd (congrArg Prod.snd h) (by simp)

/-- Steps for several groups stop at the first of them that fails. -/
theorem eachGroup_append_of_error {f : Assembly → List String → Step} {done : List (List String)}
    {fault : TagFault} (h : eachGroup f a done = (b, .error fault)) (rest : List (List String)) :
    eachGroup f a (done ++ rest) = (b, .error fault) := by
  induction done generalizing a with
  | nil => exact absurd (congrArg Prod.snd h) (by simp [eachGroup])
  | cons g gs ih =>
    rw [List.cons_append, eachGroup]
    rw [eachGroup] at h
    split at h
    · exact ih h
    · exact h

/-- What each step keeps, or changes in a transitive way, the steps for all groups do. -/
theorem rel_eachGroup {f : Assembly → List String → Step} (hrefl : ∀ r, P r r)
    (htrans : ∀ r s t, P r s → P s t → P r t) (hf : ∀ a g, P a.route (f a g).1.route)
    (a : Assembly) (groups : List (List String)) : P a.route (eachGroup f a groups).1.route := by
  induction groups generalizing a with
  | nil => exact hrefl _
  | cons g gs ih =>
    have hg := hf a g
    unfold eachGroup
    split
    · rename_i h
      rw [h] at hg
      exact htrans _ _ _ hg (ih _)
    · rename_i h
      rwa [h] at hg

/-! ## Tags -/

/-- A keyword that takes groups takes one step for each of them.  Only examples add examples. -/
theorem exists_step_of_mem {k : String} (h : k ∈ Keyword.grouped) :
    ∃ f, (∀ a g, Does (fun r r' => k ≠ Keyword.example' → r'.examples = r.examples) a (f a g)) ∧
      ∀ a value, apply a k value = eachGroup f a value.toGroups := by
  have hparameter : ∀ place a g, Does (fun r r' => r'.examples = r.examples) a
      (addParameter place a g) := fun place a g =>
    (does_addParameter place a g).mono fun r r' ⟨p, hp⟩ => by rw [hp]; cases place <;> rfl
  simp only [Keyword.grouped, List.mem_cons, List.not_mem_nil, or_false] at h
  rcases h with rfl | rfl | rfl | rfl
  · exact ⟨_, fun a g => (hparameter .uri a g).mono fun _ _ h _ => h, fun _ _ => rfl⟩
  · exact ⟨_, fun a g => (hparameter .query a g).mono fun _ _ h _ => h, fun _ _ => rfl⟩
  · exact ⟨_, fun a g => (hparameter .body a g).mono fun _ _ h _ => h, fun _ _ => rfl⟩
  · exact ⟨_, fun a g => (does_addExample a g).mono fun _ _ _ hne => absurd rfl hne, fun _ _ => rfl⟩

theorem apply_of_not_mem {k : String} (h : k ∉ Keyword.builtIn) (a : Assembly) (value : TagValue) :
    a.apply k value = a.addStub k value := by
  simp only [Keyword.builtIn, Keyword.grouped, List.mem_append, List.mem_cons, List.not_mem_nil,
    or_false, not_or] at h
  simp only [apply, h, if_false]

/-- What holds of the steps of each keyword holds of every tag. -/
theorem apply_induct {motive : String → (Assembly → TagValue → Step) → Prop}
    (handler : motive Keyword.handler fun a _ => (a, .ok ()))
    (method : motive Keyword.method fun a value => a.given value.single a.setMethod)
    (resource : motive Keyword.resource fun a value => a.given value.single a.setResource)
    (description : motive Keyword.description fun a value => a.given value.lines a.setDescription)
    (response : motive Keyword.response fun a value => a.given value.lines a.setResponse)
    (parameter : ∀ place, motive (keywordOf place) fun a value =>
      eachGroup (addParameter place) a value.toGroups)
    (example' : motive Keyword.example' fun a value => eachGroup addExample a value.toGroups)
    (stub : ∀ k, k ∉ Keyword.builtIn → motive k fun a value => a.addStub k value)
    (k : String) : motive k fun a value => a.apply k value := by
  by_cases hk : k ∈ Keyword.builtIn
  · simp only [Keyword.builtIn, Keyword.grouped, List.mem_append, List.mem_cons, List.not_mem_nil,
      or_false] at hk
    rcases hk with (rfl | rfl | rfl | rfl | rfl) | rfl | rfl | rfl | rfl
    · exact handler
    · exact method
    · exact resource
    · exact description
    · exact response
    · exact parameter .uri
    · exact parameter .query
    · exact parameter .body
    · exact example'
  · have hstub : (fun (a : Assembly) value => a.apply k value) =
        fun a value => a.addStub k value := by
      funext a value
      exact apply_of_not_mem hk a value
    rw [hstub]
    exact stub k hk

/-- The other tags take a single step, which adds no example. -/
theorem does_apply {k : String} (h : k ∉ Keyword.grouped) (a : Assembly) (value : TagValue) :
    Does (fun r r' => r'.examples = r.examples) a (a.apply k value) := by
  revert h
  refine apply_induct (motive := fun k f => k ∉ Keyword.grouped →
    Does (fun r r' => r'.examples = r.examples) a (f a value))
    ?handler ?method ?resource ?description ?response ?parameter ?example' ?stub k
  case handler => exact fun _ => rfl
  case method =>
    exact fun _ => (does_given a.does_setMethod).mono fun _ _ ⟨_, h⟩ => by rw [h]
  case resource =>
    exact fun _ => (does_given a.does_setResource).mono fun _ _ ⟨_, _, h⟩ => by rw [h]
  case description =>
    exact fun _ => (does_given a.does_setDescription).mono fun _ _ ⟨_, _, h⟩ => by rw [h]
  case response =>
    exact fun _ => (does_given a.does_setResponse).mono fun _ _ ⟨_, h⟩ => by rw [h]; rfl
  case parameter => exact fun place h => absurd (by cases place <;> decide) h
  case example' => exact fun h => absurd (by decide) h
  case stub =>
    intro k _ _
    refine (a.does_addStub k value).mono fun r r' ⟨category, _, hr⟩ => ?_
    rw [hr]
    cases category <;> rfl

/-- A plural does what its singular does for the same groups. -/
theorem addTag_eq (a : Assembly) (keyword : String) (value : TagValue) :
    a.addTag keyword value = ((a.apply (Keyword.base keyword) value).1,
      (a.apply (Keyword.base keyword) value).2.mapError (TagError.mk (Keyword.base keyword))) := by
  unfold addTag Keyword.base
  cases hk : Keyword.singular? keyword with
  | none => rfl
  | some k =>
    obtain ⟨f, -, hf⟩ := exists_step_of_mem (Keyword.mem_grouped_of_singular? hk)
    have hstep : (fun a g => apply a k (.fields g)) = f := by
      funext a g
      rw [hf]
      exact eachGroup_singleton f a g
    simp only [hstep]
    rw [Option.getD_some, hf]

end Assembly

end RouteDoc
