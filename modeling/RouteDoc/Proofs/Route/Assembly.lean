import RouteDoc.Proofs.Annotation.Parameter
import RouteDoc.Proofs.Route.Step
import Mathlib.Logic.Relation

/-!
# What tags do to a route

* `Assembly.Change`: the single changes that a tag can make to an assembly.
* `Assembly.Changes`: several changes, one after the other.
* `Assembly.changes_addTag`, `Assembly.changes_assemble`: **tags make no other changes**, whether
  they fail or not.
* `Assembly.Changes.keep`: what every single change keeps, all changes keep.
-/

namespace RouteDoc

namespace Context

variable {c : Context} {isBody : Bool} {keyword : String} {fields : List String}

/-- Reading a parameter resolves one expression, or none if the fields cannot be read. -/
theorem context_readParameter (c : Context) (isBody : Bool) (keyword : String)
    (fields : List String) : (c.readParameter isBody keyword fields).context = c ∨
      ∃ e, (c.readParameter isBody keyword fields).context = (c.resolve e).1 := by
  unfold readParameter
  split
  · exact .inl rfl
  rename_i draft _
  split
  · rename_i h
    exact .inr ⟨draft.type.expression, by rw [h]⟩
  · rename_i h
    simp only
    split
    · exact .inr ⟨draft.type.expression, by rw [h]⟩
    · exact .inr ⟨draft.type.expression, by rw [h]⟩

/-- The type of a parameter is what its expression resolves to. -/
theorem resolve_of_readParameter {p : Parameter}
    (h : (c.readParameter isBody keyword fields).outcome = .ok p) :
    ∃ e, c.resolve e = ((c.readParameter isBody keyword fields).context, .ok p.type) := by
  obtain ⟨draft, -, hresolve, -⟩ := exists_draft_of_readParameter h
  exact ⟨draft.type.expression, hresolve⟩

/-- Reading a response resolves one expression, or none if the fields cannot be read. -/
theorem context_readResponse (c : Context) (fields : List String) :
    (c.readResponse fields).context = c ∨
      ∃ e, (c.readResponse fields).context = (c.resolve e).1 := by
  unfold readResponse
  split
  · exact .inl rfl
  rename_i draft _
  split
  · rename_i h
    exact .inr ⟨draft.expression, by rw [h]⟩
  · rename_i h
    exact .inr ⟨draft.expression, by rw [h]⟩

/-- The type of a response is what its expression resolves to. -/
theorem resolve_of_readResponse {x : Response} (h : (c.readResponse fields).outcome = .ok x) :
    ∃ e, c.resolve e = ((c.readResponse fields).context, .ok x.type) := by
  unfold readResponse at h ⊢
  split at h
  · exact absurd h (by simp)
  rename_i draft hdraft
  split at h
  · exact absurd h (by simp)
  rename_i c' type hres
  refine ⟨draft.expression, ?_⟩
  obtain rfl := Except.ok.inj h
  simp only [hres]
  rfl

end Context

namespace Assembly

/-- A single change that a tag can make. -/
inductive Change (a : Assembly) : Assembly → Prop
  | report (notices : List Notice) : Change a (a.advance a.context notices)
  | resolve (e : String) (notices : List Notice) :
      Change a (a.advance (a.context.resolve e).1 notices)
  | parameter {e : String} {c : Context} {p : Parameter} (notices : List Notice) (place : Place) :
      a.context.resolve e = (c, .ok p.type) →
      Change a ((a.advance c notices).change (·.addParameter place p)).1
  | response {e : String} {c : Context} {x : Response} (notices : List Notice) :
      a.context.resolve e = (c, .ok x.type) →
      Change a ((a.advance c notices).change (·.setResponse x)).1
  | exampleOf (e : Example) : Change a (a.change (·.addExample e)).1
  | method {m : String} : m ∈ Endpoint.methods → Change a (a.change ({ · with method := m })).1
  | resource {value resource : String} {m : Option String} :
      Endpoint.readResource value = .ok (resource, m) →
      Change a (a.change fun r => { r with resource := resource, method := m.getD r.method }).1
  | description (name text : String) :
      Change a (a.change ({ · with name := name, description := text })).1
  | trait {keyword : String} (fields : List String) : a.context.category? keyword = some .trait →
      Change a (a.change fun r => { r with traits := r.traits.put keyword ⟨keyword, fields⟩ }).1
  | security {keyword : String} (fields : List String) :
      a.context.category? keyword = some .security →
      Change a (a.change fun r =>
        { r with securities := r.securities.put keyword ⟨keyword, fields⟩ }).1
  | remark {keyword : String} (fields : List String) : a.context.category? keyword = some .remark →
      Change a (a.change fun r =>
        { r with annotations := r.annotations.put keyword ⟨keyword, fields⟩ }).1

abbrev Changes : Assembly → Assembly → Prop := Relation.ReflTransGen Change

variable {a b : Assembly}

/-- What every single change keeps, all changes keep. -/
theorem Changes.keep {P : Assembly → Prop} (h : Changes a b)
    (keep : ∀ a b, Change a b → P a → P b) (ha : P a) : P b := by
  induction h with
  | refl => exact ha
  | tail _ hbc ih => exact keep _ _ hbc ih

/-! ## Tags -/

theorem changes_addParameter (place : Place) (a : Assembly) (fields : List String) :
    Changes a (addParameter place a fields).1 := by
  refine .single ?_
  unfold addParameter
  simp only
  split
  · rename_i p hp
    obtain ⟨e, he⟩ := Context.resolve_of_readParameter hp
    exact .parameter _ place he
  · rcases Context.context_readParameter a.context (place == .body) (keywordOf place) fields with
      h | ⟨e, h⟩
    · rw [h]
      exact .report _
    · rw [h]
      exact .resolve e _

theorem changes_setResponse (a : Assembly) (lines : List String) :
    Changes a (a.setResponse lines).1 := by
  refine .single ?_
  unfold setResponse
  simp only
  split
  · rename_i x hx
    obtain ⟨e, he⟩ := Context.resolve_of_readResponse hx
    exact .response _ he
  · rcases Context.context_readResponse a.context lines with h | ⟨e, h⟩
    · rw [h]
      exact .report _
    · rw [h]
      exact .resolve e _

theorem changes_addExample (a : Assembly) (lines : List String) :
    Changes a (a.addExample lines).1 := by
  refine .head (.report ((Example.ignored lines).map .exampleLineIgnored)) ?_
  unfold addExample
  simp only
  split
  · rename_i e _
    exact .single (.exampleOf e)
  · exact .refl

theorem changes_setMethod (a : Assembly) (value : String) : Changes a (a.setMethod value).1 := by
  unfold setMethod
  split
  · rename_i m hm
    refine .single (.method ?_)
    unfold Endpoint.readMethod at hm
    simp only at hm
    split at hm
    · rename_i hmem
      rwa [← Except.ok.inj hm]
    · exact absurd hm (by simp)
  · exact .refl

theorem changes_setResource (a : Assembly) (value : String) :
    Changes a (a.setResource value).1 := by
  unfold setResource
  split
  · rename_i resource m hr
    exact .single (.resource hr)
  · exact .refl

theorem changes_setDescription (a : Assembly) (lines : List String) :
    Changes a (a.setDescription lines).1 :=
  .single (.description _ _)

theorem changes_addStub (a : Assembly) (keyword : String) (value : TagValue) :
    Changes a (a.addStub keyword value).1 := by
  unfold addStub
  simp only
  split
  · exact .refl
  · exact .single (.trait _ ‹_›)
  · exact .single (.security _ ‹_›)
  · exact .single (.remark _ ‹_›)

theorem changes_eachGroup {f : Assembly → List String → Step}
    (hf : ∀ a g, Changes a (f a g).1) (a : Assembly) (groups : List (List String)) :
    Changes a (eachGroup f a groups).1 := by
  induction groups generalizing a with
  | nil => exact .refl
  | cons g gs ih =>
    have hg := hf a g
    unfold eachGroup
    split
    · rename_i a' _ h
      rw [h] at hg
      exact hg.trans (ih a')
    · rename_i a' fault h
      rwa [h] at hg

theorem changes_given {α : Type} {reading : Except FieldFault α} {f : α → Step}
    (hf : ∀ x, Changes a (f x).1) : Changes a (a.given reading f).1 := by
  unfold given
  split
  · exact hf _
  · exact .refl

theorem changes_apply (a : Assembly) (keyword : String) (value : TagValue) :
    Changes a (a.apply keyword value).1 := by
  refine apply_induct (motive := fun _ f => Changes a (f a value).1)
    ?handler ?method ?resource ?description ?response ?parameter ?example' ?stub keyword
  case handler => exact .refl
  case method => exact changes_given a.changes_setMethod
  case resource => exact changes_given a.changes_setResource
  case description => exact changes_given a.changes_setDescription
  case response => exact changes_given a.changes_setResponse
  case parameter => exact fun place => changes_eachGroup (changes_addParameter place) a _
  case example' => exact changes_eachGroup changes_addExample a _
  case stub => exact fun k _ => changes_addStub a k value

/-- A tag only makes changes, whether it fails or not. -/
theorem changes_addTag (a : Assembly) (keyword : String) (value : TagValue) :
    Changes a (a.addTag keyword value).1 := by
  unfold addTag
  split
  · rename_i k _
    exact changes_eachGroup (fun a g => changes_apply a k (.fields g)) a _
  · exact changes_apply a keyword value

theorem changes_addTags (source : String) (a : Assembly) (tags : List (String × TagValue)) :
    Changes a (addTags source a tags).1 := by
  induction tags generalizing a with
  | nil => exact .refl
  | cons tag tags ih =>
    obtain ⟨keyword, value⟩ := tag
    have htag := a.changes_addTag keyword value
    unfold addTags
    split
    · rename_i a' _ h
      rw [h] at htag
      exact htag.trans (ih a')
    · rename_i a' e h
      rw [h] at htag
      split
      · exact htag
      · exact (htag.tail (.report _)).trans (ih _)

/-- **A route is put together by changes only**, from an empty one. -/
theorem changes_assemble (c : Context) (comment : String) (overrides : Dict String TagValue)
    (source : String) :
    Changes { context := c } (Route.assemble c comment overrides source).1 :=
  changes_addTags source _ _

end Assembly

end RouteDoc
