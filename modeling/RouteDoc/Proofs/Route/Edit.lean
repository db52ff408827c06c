import RouteDoc.Proofs.Route.Closed
import RouteDoc.Proofs.Route.Step

/-!
# Edits of a route

What a tag does to a route is one edit for each of its groups, or a single one.

* `Route.Alike`: two routes that differ in the order of what they list, and in nothing else.
* `Route.Edit`, `Route.edit`: the edits, and what each of them does.  Each is made by the tags of
  one keyword: `Edit.keyword`.
* `Keyword.Apart`: keywords of tags that make edits to different parts of a route.
* `Route.edits_comm`: **edits of such keywords are made in any order.**
-/

namespace RouteDoc

/-- The keywords of two tags that change different parts of a route.  A resource may carry a
method. -/
structure Keyword.Apart (k l : String) : Prop where
  ne : k ≠ l
  not_method_resource : ¬ (k = method ∧ l = resource)
  not_resource_method : ¬ (k = resource ∧ l = method)

namespace Route

/-- Two routes that differ at most in the order of their parameters, examples, recorded tags and
names of types. -/
structure Alike (r s : Route) : Prop where
  name : r.name = s.name
  method : r.method = s.method
  resource : r.resource = s.resource
  description : r.description = s.description
  parameters : ∀ place, (r.parameters place).Alike (s.parameters place)
  response : r.response = s.response
  examples : r.examples.Alike s.examples
  stubs : ∀ category, (r.stubs category).Alike (s.stubs category)
  dependentTypes : r.dependentTypes.Perm s.dependentTypes

namespace Alike

variable {r s t : Route}

theorem refl (r : Route) : Alike r r :=
  ⟨rfl, rfl, rfl, rfl, fun _ => .refl _, rfl, .refl _, fun _ => .refl _, .refl _⟩

theorem symm (h : Alike r s) : Alike s r :=
  ⟨h.name.symm, h.method.symm, h.resource.symm, h.description.symm,
    fun place => (h.parameters place).symm, h.response.symm, h.examples.symm,
    fun category => (h.stubs category).symm, h.dependentTypes.symm⟩

theorem trans (h : Alike r s) (g : Alike s t) : Alike r t :=
  ⟨h.name.trans g.name, h.method.trans g.method, h.resource.trans g.resource,
    h.description.trans g.description, fun place => (h.parameters place).trans (g.parameters place),
    h.response.trans g.response, h.examples.trans g.examples,
    fun category => (h.stubs category).trans (g.stubs category),
    h.dependentTypes.trans g.dependentTypes⟩

end Alike

/-- An edit of a route. -/
inductive Edit where
  | parameter (place : Place) (p : Parameter)
  | response (x : Response)
  | exampleOf (e : Example)
  | method (m : String)
  | resource (resource : String) (m : Option String)
  | description (text : String) (title : Option String)
  | stub (category : Category) (stub : Stub)

/-- The keyword of the tags that make the edit. -/
def Edit.keyword : Edit → String
  | .parameter place _ => Assembly.keywordOf place
  | .response _ => Keyword.response
  | .exampleOf _ => Keyword.example'
  | .method _ => Keyword.method
  | .resource _ _ => Keyword.resource
  | .description _ _ => Keyword.description
  | .stub _ x => x.name

def edit (r : Route) : Edit → Route
  | .parameter place p => r.addParameter place p
  | .response x => r.setResponse x
  | .exampleOf e => r.addExample e
  | .method m => { r with method := m }
  | .resource resource m => { r with resource := resource, method := m.getD r.method }
  | .description text title =>
    { r with
      name := title.getD r.name
      description := if text = "" then r.description else text }
  | .stub category stub => r.putStub category stub

def edits (r : Route) (es : List Edit) : Route := es.foldl edit r

/-! ## The order of what is listed -/

namespace Alike

variable {r s : Route}

theorem addParameter (h : Alike r s) (place : Place) (p : Parameter) :
    Alike (r.addParameter place p) (s.addParameter place p) := by
  have hparameters : ∀ place', ((r.addParameter place p).parameters place').Alike
      ((s.addParameter place p).parameters place') := by
    intro place'
    rw [parameters_addParameter, parameters_addParameter]
    split
    · exact (h.parameters place').put p.name p
    · exact h.parameters place'
  have hdependent : (r.addParameter place p).dependentTypes.Perm
      (s.addParameter place p).dependentTypes := by
    rw [dependentTypes_addParameter, dependentTypes_addParameter]
    exact perm_mergeInto h.dependentTypes _
  cases place
  all_goals
    exact ⟨h.name, h.method, h.resource, h.description, hparameters, h.response, h.examples,
      h.stubs, hdependent⟩

theorem putStub (h : Alike r s) (category : Category) (stub : Stub) :
    Alike (r.putStub category stub) (s.putStub category stub) := by
  have hstubs : ∀ category', ((r.putStub category stub).stubs category').Alike
      ((s.putStub category stub).stubs category') := by
    intro category'
    rw [stubs_putStub, stubs_putStub]
    split
    · exact (h.stubs category').put stub.name stub
    · exact h.stubs category'
  cases category
  all_goals
    exact ⟨h.name, h.method, h.resource, h.description, h.parameters, h.response, h.examples,
      hstubs, h.dependentTypes⟩

theorem addExample (h : Alike r s) (e : Example) : Alike (r.addExample e) (s.addExample e) := by
  have hname : r.nextExampleName = s.nextExampleName := by
    rw [nextExampleName, nextExampleName, Dict.size, Dict.size, h.examples.length_eq]
  have hexamples : (r.addExample e).examples.Alike (s.addExample e).examples := by
    show (r.examples.put r.nextExampleName e).Alike (s.examples.put s.nextExampleName e)
    rw [hname]
    exact h.examples.put _ e
  exact ⟨h.name, h.method, h.resource, h.description, h.parameters, h.response, hexamples,
    h.stubs, h.dependentTypes⟩

/-- The order of what is listed makes no difference to an edit. -/
theorem edit (h : Alike r s) (e : Edit) : Alike (r.edit e) (s.edit e) := by
  cases e with
  | parameter place p => exact h.addParameter place p
  | response x =>
    exact ⟨h.name, h.method, h.resource, h.description, h.parameters, rfl, h.examples, h.stubs,
      perm_mergeInto h.dependentTypes _⟩
  | exampleOf e => exact h.addExample e
  | method m =>
    exact ⟨h.name, rfl, h.resource, h.description, h.parameters, h.response, h.examples, h.stubs,
      h.dependentTypes⟩
  | resource resource m =>
    exact ⟨h.name, congrArg m.getD h.method, rfl, h.description, h.parameters, h.response,
      h.examples, h.stubs, h.dependentTypes⟩
  | description text title =>
    exact ⟨congrArg title.getD h.name, h.method, h.resource,
      congrArg (fun d => if text = "" then d else text) h.description, h.parameters, h.response,
      h.examples, h.stubs, h.dependentTypes⟩
  | stub category stub => exact h.putStub category stub

theorem edits (h : Alike r s) (es : List Edit) : Alike (r.edits es) (s.edits es) := by
  induction es generalizing r s with
  | nil => exact h
  | cons e es ih => exact ih (h.edit e)

end Alike

/-! ## The order of edits -/

/-- Parameters in different places. -/
theorem addParameter_comm {place place' : Place} (h : place ≠ place') (r : Route)
    (p q : Parameter) : Alike ((r.addParameter place p).addParameter place' q)
      ((r.addParameter place' q).addParameter place p) := by
  have hdependent : ((r.addParameter place p).addParameter place' q).dependentTypes.Perm
      ((r.addParameter place' q).addParameter place p).dependentTypes := by
    simp only [dependentTypes_addParameter]
    exact mergeInto_comm r.dependentTypes _ _
  cases place <;> cases place'
  all_goals first
    | exact absurd rfl h
    | exact ⟨rfl, rfl, rfl, rfl, fun place => by cases place <;> exact .refl _, rfl, .refl _,
        fun category => .refl _, hdependent⟩

theorem addParameter_setResponse (r : Route) (place : Place) (p : Parameter) (x : Response) :
    Alike ((r.addParameter place p).setResponse x) ((r.setResponse x).addParameter place p) := by
  have hdependent : ((r.addParameter place p).setResponse x).dependentTypes.Perm
      ((r.setResponse x).addParameter place p).dependentTypes := by
    rw [dependentTypes_addParameter]
    show (mergeInto (r.addParameter place p).dependentTypes x.type.dependents).Perm
      (mergeInto (mergeInto r.dependentTypes x.type.dependents) p.type.dependents)
    rw [dependentTypes_addParameter]
    exact mergeInto_comm r.dependentTypes _ _
  cases place
  all_goals
    exact ⟨rfl, rfl, rfl, rfl, fun _ => .refl _, rfl, .refl _, fun _ => .refl _, hdependent⟩

/-- Recorded tags with different keywords. -/
theorem putStub_comm {x y : Stub} (h : x.name ≠ y.name) (r : Route)
    (category category' : Category) : Alike ((r.putStub category x).putStub category' y)
      ((r.putStub category' y).putStub category x) := by
  have hstubs : ∀ i, (((r.putStub category x).putStub category' y).stubs i).Alike
      (((r.putStub category' y).putStub category x).stubs i) := by
    intro i
    rw [stubs_putStub, stubs_putStub, stubs_putStub, stubs_putStub]
    split <;> split
    · exact Dict.put_comm h _ x y
    all_goals exact .refl _
  cases category <;> cases category'
  all_goals
    exact ⟨rfl, rfl, rfl, rfl, fun _ => .refl _, rfl, .refl _, hstubs, .refl _⟩

/-- Edits of tags with different keywords, other than the method and the resource. -/
theorem edit_comm {e f : Edit} (h : Keyword.Apart e.keyword f.keyword) (r : Route) :
    Alike ((r.edit e).edit f) ((r.edit f).edit e) := by
  cases e with
  | parameter place p =>
    cases f with
    | parameter place' q =>
      exact addParameter_comm (fun hplace => h.ne (congrArg Assembly.keywordOf hplace)) r p q
    | response x => exact addParameter_setResponse r place p x
    | stub category x => cases place <;> cases category <;> exact .refl _
    | _ => cases place <;> exact .refl _
  | response x =>
    cases f with
    | parameter place p => exact (addParameter_setResponse r place p x).symm
    | response y => exact absurd rfl h.ne
    | stub category x => cases category <;> exact .refl _
    | _ => exact .refl _
  | exampleOf x =>
    cases f with
    | parameter place p => cases place <;> exact .refl _
    | exampleOf y => exact absurd rfl h.ne
    | stub category x => cases category <;> exact .refl _
    | _ => exact .refl _
  | method m =>
    cases f with
    | parameter place p => cases place <;> exact .refl _
    | method n => exact absurd rfl h.ne
    | resource resource n => exact absurd ⟨rfl, rfl⟩ h.not_method_resource
    | stub category x => cases category <;> exact .refl _
    | _ => exact .refl _
  | resource resource m =>
    cases f with
    | parameter place p => cases place <;> exact .refl _
    | method n => exact absurd ⟨rfl, rfl⟩ h.not_resource_method
    | resource resource n => exact absurd rfl h.ne
    | stub category x => cases category <;> exact .refl _
    | _ => exact .refl _
  | description text title =>
    cases f with
    | parameter place p => cases place <;> exact .refl _
    | description text title => exact absurd rfl h.ne
    | stub category x => cases category <;> exact .refl _
    | _ => exact .refl _
  | stub category x =>
    cases f with
    | parameter place p => cases place <;> cases category <;> exact .refl _
    | stub category' y => exact putStub_comm h.ne r category category'
    | _ => cases category <;> exact .refl _

theorem edits_append (r : Route) (es fs : List Edit) :
    r.edits (es ++ fs) = (r.edits es).edits fs :=
  List.foldl_append

/-- One edit is moved past several ones. -/
theorem edit_edits_comm {e : Edit} {fs : List Edit}
    (h : ∀ f ∈ fs, Keyword.Apart e.keyword f.keyword) (r : Route) :
    Alike ((r.edit e).edits fs) ((r.edits fs).edit e) := by
  induction fs generalizing r with
  | nil => exact .refl _
  | cons f fs ih =>
    obtain ⟨hf, hfs⟩ := List.forall_mem_cons.1 h
    exact ((edit_comm hf r).edits fs).trans (ih hfs (r.edit f))

/-- **Edits of tags with different keywords are made in any order**, other than those of the method
and the resource. -/
theorem edits_comm {es fs : List Edit}
    (h : ∀ e ∈ es, ∀ f ∈ fs, Keyword.Apart e.keyword f.keyword) (r : Route) :
    Alike ((r.edits es).edits fs) ((r.edits fs).edits es) := by
  induction es generalizing r with
  | nil => exact .refl _
  | cons e es ih =>
    obtain ⟨he, hes⟩ := List.forall_mem_cons.1 h
    exact (ih hes (r.edit e)).trans ((edit_edits_comm he r).edits es)

end Route

end RouteDoc
