import RouteDoc.Proofs.Route.Edit
import RouteDoc.Proofs.Route.Errors

/-!
# The order of tags

A tag reads its value in the context, which other tags change by map types only, and then makes
edits that do not depend on the route.

* `Context.ReadsAlike`: two contexts in which tags read the same, as long as they do not meet
  another definition under the name of a map type.
* `Assembly.Twin`: two steps have the same outcome and make the same edits.
* `Assembly.twin_addTag`: **a tag does the same in contexts that read alike, whatever the routes**.
* `Assembly.addTag_comm`: **tags with different keywords are applied in any order.**
-/

namespace RouteDoc

/-! ## Contexts that read alike -/

/-- An expression resolves to what it reads as, if no name is in conflict. -/
theorem Registry.outcome_resolve {r : Registry} {e : String}
    (h : ∀ name, (r.resolve e).2 ≠ .error (.conflict name)) :
    (r.resolve e).2 = (r.read e).outcome := by
  rw [resolve_eq] at h ⊢
  split at h
  · rfl
  · rename_i s fault hregister
    obtain ⟨name, rfl⟩ := exists_of_register_eq_error hregister
    exact absurd rfl (h name)

/-- Growth adds no narrowed built-in type. -/
theorem Registry.Grows.primitive?_eq {r s : Registry} (h : Grows r s) (n : String) :
    s.primitive? n = r.primitive? n := by
  obtain ⟨ms, hjoins, -⟩ := h.exists_joins
  exact hjoins.primitive?_eq n

namespace Context

/-- The same aliases, narrowed built-in types and keywords. -/
structure ReadsAlike (c c' : Context) : Prop where
  aliases : c'.registry.aliases = c.registry.aliases
  primitive? : ∀ n, c'.registry.primitive? n = c.registry.primitive? n
  keywords : c'.keywords = c.keywords

variable {c c' : Context}

theorem readsAlike_of_grows (h : Registry.Grows c.registry c'.registry)
    (hkeywords : c'.keywords = c.keywords) : ReadsAlike c c' :=
  ⟨h.aliases_eq, h.primitive?_eq, hkeywords⟩

theorem readsAlike_resolve (c : Context) (e : String) : ReadsAlike c (c.resolve e).1 :=
  readsAlike_of_grows (Registry.grows_of_resolve_eq (registry_resolve rfl)) rfl

namespace ReadsAlike

theorem symm (h : ReadsAlike c c') : ReadsAlike c' c :=
  ⟨h.aliases.symm, fun n => (h.primitive? n).symm, h.keywords.symm⟩

theorem trans {c'' : Context} (h : ReadsAlike c c') (g : ReadsAlike c' c'') : ReadsAlike c c'' :=
  ⟨g.aliases.trans h.aliases, fun n => (g.primitive? n).trans (h.primitive? n),
    g.keywords.trans h.keywords⟩

theorem registry (h : ReadsAlike c c') : Registry.ReadsAlike c.registry c'.registry :=
  ⟨h.aliases.symm, fun n => by rw [h.primitive?]⟩

theorem baseOf_eq (h : ReadsAlike c c') (d : Descriptor) :
    c'.registry.baseOf d = c.registry.baseOf d := by
  rw [Registry.baseOf, Registry.baseOf, h.primitive?]

/-- Expressions resolve to the same, if no name is in conflict. -/
theorem outcome_resolve (h : ReadsAlike c c') {e : String}
    (hc : ∀ name, (c.resolve e).2 ≠ .error (.conflict name))
    (hc' : ∀ name, (c'.resolve e).2 ≠ .error (.conflict name)) :
    (c'.resolve e).2 = (c.resolve e).2 := by
  have hleft : (c.resolve e).2 = (c.registry.read e).outcome := Registry.outcome_resolve hc
  have hright : (c'.resolve e).2 = (c'.registry.read e).outcome := Registry.outcome_resolve hc'
  rw [hleft, hright, h.registry.read_eq]

end ReadsAlike

theorem outcome_readParameter (c : Context) (isBody : Bool) (keyword : String)
    (fields : List String) : (c.readParameter isBody keyword fields).outcome =
      match ParameterDraft.ofFields isBody fields with
      | .error fault => .error (.fields fault)
      | .ok draft =>
        match (c.resolve draft.type.expression).2 with
        | .error fault => .error (.type fault)
        | .ok type => (draft.complete type (c.registry.baseOf type)).mapError .fields := by
  unfold readParameter
  cases ParameterDraft.ofFields isBody fields with
  | error fault => rfl
  | ok draft =>
    have halike := c.readsAlike_resolve draft.type.expression
    simp only
    generalize c.resolve draft.type.expression = x at halike ⊢
    obtain ⟨c', fault | type⟩ := x
    · rfl
    · simp only [halike.baseOf_eq]
      cases draft.complete type (c.registry.baseOf type) <;> rfl

theorem outcome_readResponse (c : Context) (fields : List String) :
    (c.readResponse fields).outcome =
      match ResponseDraft.ofFields fields with
      | .error fault => .error (.fields fault)
      | .ok draft =>
        match (c.resolve draft.expression).2 with
        | .error fault => .error (.type fault)
        | .ok type => .ok (draft.complete type) := by
  unfold readResponse
  cases ResponseDraft.ofFields fields with
  | error fault => rfl
  | ok draft =>
    simp only
    generalize c.resolve draft.expression = x
    obtain ⟨c', fault | type⟩ := x <;> rfl

end Context

/-- The outcome is no conflict of names. -/
def Undisputed {α : Type} (outcome : Except TagFault α) : Prop :=
  ∀ name, outcome ≠ .error (.type (.conflict name))

namespace Context.ReadsAlike

variable {c c' : Context}

theorem outcome_readParameter_eq (h : ReadsAlike c c') {isBody : Bool} {keyword : String}
    {fields : List String} (hc : Undisputed (c.readParameter isBody keyword fields).outcome)
    (hc' : Undisputed (c'.readParameter isBody keyword fields).outcome) :
    (c'.readParameter isBody keyword fields).outcome =
      (c.readParameter isBody keyword fields).outcome := by
  rw [outcome_readParameter, outcome_readParameter]
  cases hdraft : ParameterDraft.ofFields isBody fields with
  | error fault => rfl
  | ok draft =>
    have hresolve : (c'.resolve draft.type.expression).2 = (c.resolve draft.type.expression).2 :=
      h.outcome_resolve
        (fun name hname => hc name (outcome_readParameter_eq_type_iff.2 ⟨draft, hdraft, hname⟩))
        fun name hname => hc' name (outcome_readParameter_eq_type_iff.2 ⟨draft, hdraft, hname⟩)
    simp only [hresolve, h.baseOf_eq]

theorem outcome_readResponse_eq (h : ReadsAlike c c') {fields : List String}
    (hc : Undisputed (c.readResponse fields).outcome)
    (hc' : Undisputed (c'.readResponse fields).outcome) :
    (c'.readResponse fields).outcome = (c.readResponse fields).outcome := by
  rw [outcome_readResponse, outcome_readResponse]
  cases hdraft : ResponseDraft.ofFields fields with
  | error fault => rfl
  | ok draft =>
    have hresolve : (c'.resolve draft.expression).2 = (c.resolve draft.expression).2 :=
      h.outcome_resolve
        (fun name hname => hc name (outcome_readResponse_eq_type_iff.2 ⟨draft, hdraft, hname⟩))
        fun name hname => hc' name (outcome_readResponse_eq_type_iff.2 ⟨draft, hdraft, hname⟩)
    simp only [hresolve]

end Context.ReadsAlike

namespace Assembly

variable {a a' : Assembly} {k : String}

theorem Changes.readsAlike {a b : Assembly} (h : Changes a b) :
    Context.ReadsAlike a.context b.context :=
  Context.readsAlike_of_grows h.grows h.keywords_eq

/-! ## Steps that do the same -/

/-- Two steps have the same outcome and make the same edits, those of one keyword, as long as
neither is a conflict of names. -/
def Twin (k : String) (a a' : Assembly) (s s' : Step) : Prop :=
  Undisputed s.2 → Undisputed s'.2 → s'.2 = s.2 ∧
    ∃ es : List Route.Edit, (∀ e ∈ es, e.keyword = k) ∧ s.1.route = a.route.edits es ∧
      s'.1.route = a'.route.edits es

theorem twin_same (k : String) (a a' : Assembly) (outcome : Except TagFault Unit) :
    Twin k a a' (a, outcome) (a', outcome) :=
  fun _ _ => ⟨rfl, [], by simp, rfl, rfl⟩

theorem twin_refuse (k : String) (a a' : Assembly) (fault : FieldFault) :
    Twin k a a' (a.refuse fault) (a'.refuse fault) :=
  twin_same k a a' _

/-- A single edit. -/
theorem twin_change {e : Route.Edit} (a a' : Assembly) :
    Twin e.keyword a a' (a.change (·.edit e)) (a'.change (·.edit e)) :=
  fun _ _ => ⟨rfl, [e], by simp, rfl, rfl⟩

theorem twin_addParameter (h : Context.ReadsAlike a.context a'.context) (place : Place)
    (fields : List String) :
    Twin (keywordOf place) a a' (addParameter place a fields) (addParameter place a' fields) := by
  intro hs hs'
  have hread := h.outcome_readParameter_eq
    (fun name hname => hs name (outcome_addParameter_eq_error_iff.2 hname))
    fun name hname => hs' name (outcome_addParameter_eq_error_iff.2 hname)
  unfold addParameter
  simp only [hread]
  cases (a.context.readParameter (place == .body) (keywordOf place) fields).outcome with
  | error fault => exact ⟨rfl, [], by simp, rfl, rfl⟩
  | ok p => exact ⟨rfl, [.parameter place p], by simp [Route.Edit.keyword], rfl, rfl⟩

theorem twin_setResponse (h : Context.ReadsAlike a.context a'.context) (lines : List String) :
    Twin Keyword.response a a' (a.setResponse lines) (a'.setResponse lines) := by
  intro hs hs'
  have hread := h.outcome_readResponse_eq
    (fun name hname => hs name (outcome_setResponse_eq_error_iff.2 hname))
    fun name hname => hs' name (outcome_setResponse_eq_error_iff.2 hname)
  unfold setResponse
  simp only [hread]
  cases (a.context.readResponse lines).outcome with
  | error fault => exact ⟨rfl, [], by simp, rfl, rfl⟩
  | ok x => exact ⟨rfl, [.response x], by simp [Route.Edit.keyword], rfl, rfl⟩

theorem twin_addExample (a a' : Assembly) (lines : List String) :
    Twin Keyword.example' a a' (a.addExample lines) (a'.addExample lines) := by
  unfold addExample
  simp only
  cases Example.read lines with
  | error fault => exact fun _ _ => ⟨rfl, [], by simp, rfl, rfl⟩
  | ok e => exact fun _ _ => ⟨rfl, [.exampleOf e], by simp [Route.Edit.keyword], rfl, rfl⟩

theorem twin_setMethod (a a' : Assembly) (value : String) :
    Twin Keyword.method a a' (a.setMethod value) (a'.setMethod value) := by
  unfold setMethod
  cases Endpoint.readMethod value with
  | error fault => exact twin_refuse _ a a' fault
  | ok m => exact twin_change (e := .method m) a a'

theorem twin_setResource (a a' : Assembly) (value : String) :
    Twin Keyword.resource a a' (a.setResource value) (a'.setResource value) := by
  unfold setResource
  cases Endpoint.readResource value with
  | error fault => exact twin_refuse _ a a' fault
  | ok x => exact twin_change (e := .resource x.1 x.2) a a'

theorem twin_setDescription (a a' : Assembly) (lines : List String) :
    Twin Keyword.description a a' (a.setDescription lines) (a'.setDescription lines) :=
  twin_change (e := .description (Description.read lines).1 (Description.read lines).2) a a'

theorem twin_addStub (h : Context.ReadsAlike a.context a'.context) (keyword : String)
    (value : TagValue) :
    Twin keyword a a' (a.addStub keyword value) (a'.addStub keyword value) := by
  have hcategory : a'.context.category? keyword = a.context.category? keyword :=
    congrArg (Dict.get? · keyword) h.keywords
  cases hc : a.context.category? keyword with
  | none =>
    rw [hc] at hcategory
    simp only [addStub, hc, hcategory]
    exact twin_same _ a a' _
  | some category =>
    rw [addStub_eq hc, addStub_eq (hcategory.trans hc)]
    exact twin_change (e := .stub category ⟨keyword, value.toGroups.flatten⟩) a a'

theorem twin_given {α : Type} {reading : Except FieldFault α} {f f' : α → Step}
    (hf : ∀ x, Twin k a a' (f x) (f' x)) :
    Twin k a a' (a.given reading f) (a'.given reading f') := by
  unfold given
  cases reading with
  | error fault => exact twin_refuse k a a' fault
  | ok x => exact hf x

/-- Steps for the same groups do the same, up to the first fault. -/
theorem twin_eachGroup {f : Assembly → List String → Step}
    (hf : ∀ {a a'} g, Context.ReadsAlike a.context a'.context → Twin k a a' (f a g) (f a' g))
    (hchanges : ∀ a g, Changes a (f a g).1) (h : Context.ReadsAlike a.context a'.context)
    (groups : List (List String)) :
    Twin k a a' (eachGroup f a groups) (eachGroup f a' groups) := by
  induction groups generalizing a a' with
  | nil => exact twin_same k a a' _
  | cons g gs ih =>
    intro hs hs'
    have hstep := hf g h
    have hleft := (hchanges a g).readsAlike
    have hright := (hchanges a' g).readsAlike
    unfold eachGroup at hs hs' ⊢
    generalize f a g = x at *
    generalize f a' g = y at *
    obtain ⟨b, outcome⟩ := x
    obtain ⟨b', outcome'⟩ := y
    -- a conflict of one group would be one of the whole tag
    have hx : Undisputed outcome := by
      intro name hname
      subst hname
      exact hs name rfl
    have hy : Undisputed outcome' := by
      intro name hname
      subst hname
      exact hs' name rfl
    obtain ⟨heq, es, hes, hroute, hroute'⟩ := hstep hx hy
    obtain rfl : outcome' = outcome := heq
    cases outcome' with
    | error fault => exact ⟨rfl, es, hes, hroute, hroute'⟩
    | ok =>
      have halike : Context.ReadsAlike b.context b'.context := hleft.symm.trans (h.trans hright)
      obtain ⟨houtcome, fs, hfs, hend, hend'⟩ := ih halike hs hs'
      refine ⟨houtcome, es ++ fs, List.forall_mem_append.2 ⟨hes, hfs⟩, ?_, ?_⟩
      · rw [Route.edits_append, ← hroute]
        exact hend
      · rw [Route.edits_append, ← hroute']
        exact hend'

/-! ## Tags -/

theorem twin_apply (h : Context.ReadsAlike a.context a'.context) (keyword : String)
    (value : TagValue) :
    Twin keyword a a' (a.apply keyword value) (a'.apply keyword value) := by
  refine apply_induct (motive := fun k f => Twin k a a' (f a value) (f a' value))
    ?handler ?method ?resource ?description ?response ?parameter ?example' ?stub keyword
  case handler => exact twin_same Keyword.handler a a' _
  case method => exact twin_given fun x => twin_setMethod a a' x
  case resource => exact twin_given fun x => twin_setResource a a' x
  case description => exact twin_given fun x => twin_setDescription a a' x
  case response => exact twin_given fun x => twin_setResponse h x
  case parameter =>
    exact fun place => twin_eachGroup (fun g h => twin_addParameter h place g)
      (changes_addParameter place) h _
  case example' => exact twin_eachGroup (fun g _ => twin_addExample _ _ g) changes_addExample h _
  case stub => exact fun k _ => twin_addStub h k value

/-- The outcome of a tag is no conflict of names. -/
def NoConflict (outcome : Except TagError Unit) : Prop :=
  ∀ e, outcome = .error e → ∀ name, e.fault ≠ .type (.conflict name)

/-- **A tag does the same in contexts that read alike, whatever the routes**: it has the same
outcome and makes the same edits, if it meets no conflict of names. -/
theorem twin_addTag (h : Context.ReadsAlike a.context a'.context) (keyword : String)
    (value : TagValue) (hs : NoConflict (a.addTag keyword value).2)
    (hs' : NoConflict (a'.addTag keyword value).2) :
    (a'.addTag keyword value).2 = (a.addTag keyword value).2 ∧
      ∃ es : List Route.Edit, (∀ e ∈ es, e.keyword = Keyword.base keyword) ∧
        (a.addTag keyword value).1.route = a.route.edits es ∧
        (a'.addTag keyword value).1.route = a'.route.edits es := by
  have hundisputed : ∀ {b : Assembly}, NoConflict (b.addTag keyword value).2 →
      Undisputed (b.apply (Keyword.base keyword) value).2 := by
    intro b hb name hname
    refine hb ⟨Keyword.base keyword, .type (.conflict name)⟩ ?_ name rfl
    rw [addTag_eq, hname]
    rfl
  obtain ⟨houtcome, es, hes, hroute, hroute'⟩ :=
    twin_apply h (Keyword.base keyword) value (hundisputed hs) (hundisputed hs')
  rw [addTag_eq, addTag_eq]
  exact ⟨congrArg (Except.mapError (TagError.mk (Keyword.base keyword))) houtcome, es, hes, hroute,
    hroute'⟩

/-- **Tags with different keywords are applied in any order**, other than the method and the
resource.  If no tag meets a conflict of names in either order, each of them succeeds in both or
fails with the same error in both, and the routes differ in the order of what they list at most,
also by what failing tags have left. -/
theorem addTag_comm (a : Assembly) {k₁ k₂ : String} {v₁ v₂ : TagValue}
    (hapart : Keyword.Apart (Keyword.base k₁) (Keyword.base k₂))
    (h₁ : NoConflict (a.addTag k₁ v₁).2)
    (h₁₂ : NoConflict ((a.addTag k₁ v₁).1.addTag k₂ v₂).2)
    (h₂ : NoConflict (a.addTag k₂ v₂).2)
    (h₂₁ : NoConflict ((a.addTag k₂ v₂).1.addTag k₁ v₁).2) :
    ((a.addTag k₂ v₂).1.addTag k₁ v₁).2 = (a.addTag k₁ v₁).2 ∧
      ((a.addTag k₁ v₁).1.addTag k₂ v₂).2 = (a.addTag k₂ v₂).2 ∧
      ((a.addTag k₁ v₁).1.addTag k₂ v₂).1.route.Alike
        ((a.addTag k₂ v₂).1.addTag k₁ v₁).1.route := by
  obtain ⟨hout₁, es, hes, hroute₁, hroute₂₁⟩ :=
    twin_addTag (changes_addTag a k₂ v₂).readsAlike k₁ v₁ h₁ h₂₁
  obtain ⟨hout₂, fs, hfs, hroute₂, hroute₁₂⟩ :=
    twin_addTag (changes_addTag a k₁ v₁).readsAlike k₂ v₂ h₂ h₁₂
  refine ⟨hout₁, hout₂, ?_⟩
  rw [hroute₁₂, hroute₂₁, hroute₁, hroute₂]
  refine Route.edits_comm (fun e he f hf => ?_) a.route
  rwa [hes e he, hfs f hf]

/-- The second of two query parameters has no name; the first one stays, and its map type is one
that the response has as well. -/
theorem addTag_comm_shelves :
    let a : Assembly := { context := { isSealed := true } }
    let queries : TagValue := .groups [["{map[string]Book} shelf"], ["{int}"]]
    let response : TagValue := .text "{Author | map[string]Book} 200 - Both"
    let b := (a.addTag "queries" queries).1.addTag "response" response
    let c := (a.addTag "response" response).1.addTag "queries" queries
    b.2 = .ok () ∧ c.2 = .error ⟨"query", .fields .missingName⟩ ∧ b.1.route ≠ c.1.route ∧
      c.2 = (a.addTag "queries" queries).2 ∧ b.2 = (a.addTag "response" response).2 ∧
      b.1.route.Alike c.1.route := by
  intro a queries response b c
  obtain ⟨hfirst, hsecond, hb, hc, hne⟩ : (a.addTag "queries" queries).2 =
        .error ⟨"query", .fields .missingName⟩ ∧ (a.addTag "response" response).2 = .ok () ∧
      b.2 = .ok () ∧ c.2 = .error ⟨"query", .fields .missingName⟩ ∧ b.1.route ≠ c.1.route := by
    decide +kernel
  have hfault : NoConflict (.error ⟨"query", .fields .missingName⟩) := by
    intro e he name
    rw [← Except.error.inj he]
    simp
  have hok : NoConflict (.ok ()) := fun e he => absurd he (by simp)
  refine ⟨hb, hc, hne, addTag_comm a ⟨by decide, by decide, by decide⟩ ?_ ?_ ?_ ?_⟩
  · rwa [hfirst]
  · rwa [hb]
  · rwa [hsecond]
  · rwa [hc]

end Assembly

end RouteDoc
