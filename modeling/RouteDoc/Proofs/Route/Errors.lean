import RouteDoc.Proofs.Annotation.Example
import RouteDoc.Proofs.Route.Failure
import RouteDoc.Proofs.Route.Invariant
import RouteDoc.Proofs.Route.Joined
import Mathlib.Algebra.GroupWithZero.Nat
import Mathlib.Data.List.ReduceOption

/-!
# The errors of a route

Every tag is applied, whether the tags in front of it have failed or not, and the error of a tag
tells what it is about.  Only a number with more digits than are read puts an end to it.

* `Assembly.Faults`: the faults that tags can have.
* `Assembly.Unresolved`: the type of a tag cannot be resolved.
* `Assembly.outcome_addTag_eq_type_iff`: a tag fails with a fault of its type if and only if its
  type cannot be resolved.
* `Assembly.failures`: what each of several tags fails with, after those in front of it.
* `Assembly.IsOverlong`: the tags that can put an end to the assembly.
* `Route.errors_assemble`: **the errors of a route are those of its tags**, one at most for each
  tag, in their order.
-/

namespace RouteDoc

/-! ## Faults of types -/

namespace Context

variable {c : Context} {fault : TypeFault}

theorem fault_of_readParameter {isBody : Bool} {keyword : String} {fields : List String}
    {fault : TagFault} : (c.readParameter isBody keyword fields).outcome = .error fault →
      (∃ f, fault = .fields f) ∨ ∃ f, fault = .type f := by
  unfold readParameter
  cases ParameterDraft.ofFields isBody fields with
  | error f => exact fun h => .inl ⟨f, (Except.error.inj h).symm⟩
  | ok draft =>
    simp only
    obtain ⟨c', f | type⟩ := c.resolve draft.type.expression
    · exact fun h => .inr ⟨f, (Except.error.inj h).symm⟩
    · simp only
      cases draft.complete type (c'.registry.baseOf type) with
      | error f => exact fun h => .inl ⟨f, (Except.error.inj h).symm⟩
      | ok p => exact fun h => absurd h (by simp)

theorem fault_of_readResponse {fields : List String} {fault : TagFault} :
    (c.readResponse fields).outcome = .error fault →
      (∃ f, fault = .fields f) ∨ ∃ f, fault = .type f := by
  unfold readResponse
  cases ResponseDraft.ofFields fields with
  | error f => exact fun h => .inl ⟨f, (Except.error.inj h).symm⟩
  | ok draft =>
    simp only
    obtain ⟨c', f | type⟩ := c.resolve draft.expression
    · exact fun h => .inr ⟨f, (Except.error.inj h).symm⟩
    · exact fun h => absurd h (by simp)

theorem outcome_readParameter_eq_type_iff {isBody : Bool} {keyword : String}
    {fields : List String} :
    (c.readParameter isBody keyword fields).outcome = .error (.type fault) ↔
      ∃ draft, ParameterDraft.ofFields isBody fields = .ok draft ∧
        (c.resolve draft.type.expression).2 = .error fault := by
  unfold readParameter
  cases ParameterDraft.ofFields isBody fields with
  | error => simp
  | ok draft =>
    simp only [Except.ok.injEq, exists_eq_left']
    obtain ⟨c', fault' | type⟩ := c.resolve draft.type.expression
    · simp
    · cases hp : draft.complete type (c'.registry.baseOf type) <;> simp [hp]

theorem outcome_readResponse_eq_type_iff {fields : List String} :
    (c.readResponse fields).outcome = .error (.type fault) ↔
      ∃ draft, ResponseDraft.ofFields fields = .ok draft ∧
        (c.resolve draft.expression).2 = .error fault := by
  unfold readResponse
  cases ResponseDraft.ofFields fields with
  | error => simp
  | ok draft =>
    simp only [Except.ok.injEq, exists_eq_left']
    obtain ⟨c', fault' | type⟩ := c.resolve draft.expression <;> simp

end Context

namespace Assembly

variable {a b : Assembly} {keyword : String} {value : TagValue} {fault : TypeFault}

/-- The type of a tag, with this keyword, cannot be resolved: that of a parameter, when the groups
in front of it have been taken, or that of the response. -/
inductive Unresolved (a : Assembly) (value : TagValue) (fault : TypeFault) : String → Prop
  | parameter {place : Place} {done rest : List (List String)} {fields : List String}
      {b : Assembly} {draft : ParameterDraft} :
      value.toGroups = done ++ fields :: rest →
      a.addTag (keywordOf place) (.groups done) = (b, .ok ()) →
      ParameterDraft.ofFields (place == .body) fields = .ok draft →
      (b.context.resolve draft.type.expression).2 = .error fault →
      Unresolved a value fault (keywordOf place)
  | response {lines : List String} {draft : ResponseDraft} :
      value.lines = .ok lines →
      ResponseDraft.ofFields lines = .ok draft →
      (a.context.resolve draft.expression).2 = .error fault →
      Unresolved a value fault Keyword.response

theorem outcome_addParameter_eq_error_iff {place : Place} {fields : List String}
    {fault : TagFault} : (addParameter place a fields).2 = .error fault ↔
      (a.context.readParameter (place == .body) (keywordOf place) fields).outcome =
        .error fault := by
  unfold addParameter
  simp only
  split <;> rename_i h <;> simp [h, change]

theorem outcome_setResponse_eq_error_iff {lines : List String} {fault : TagFault} :
    (a.setResponse lines).2 = .error fault ↔
      (a.context.readResponse lines).outcome = .error fault := by
  unfold setResponse
  simp only
  split <;> rename_i h <;> simp [h, change]

theorem outcome_eachGroup_eq_error_iff {f : Assembly → List String → Step}
    {groups : List (List String)} {fault : TagFault} :
    (eachGroup f a groups).2 = .error fault ↔ ∃ done g rest b, groups = done ++ g :: rest ∧
      eachGroup f a done = (b, .ok ()) ∧ (f b g).2 = .error fault := by
  constructor
  · intro h
    obtain ⟨done, g, rest, b, hgroups, hdone, hg⟩ := exists_of_eachGroup_error (Prod.ext rfl h)
    exact ⟨done, g, rest, b, hgroups, hdone, congrArg Prod.snd hg⟩
  · rintro ⟨done, g, rest, b, rfl, hdone, hg⟩
    rw [eachGroup_append hdone, eachGroup]
    split <;> rename_i heq <;> rw [heq] at hg
    · exact absurd hg (by simp)
    · exact hg

theorem apply_keywordOf (place : Place) (a : Assembly) (value : TagValue) :
    a.apply (keywordOf place) value = eachGroup (addParameter place) a value.toGroups := by
  cases place <;> rfl

theorem base_keywordOf (place : Place) : Keyword.base (keywordOf place) = keywordOf place := by
  cases place <;> decide

/-- The faults that a tag with this keyword can have.  Only parameters and responses have types, and
only examples have numbers of any length. -/
inductive Faults (value : TagValue) : String → TagFault → Prop
  | unknownTag (keyword : String) : Faults value keyword .unknownTag
  | fields (keyword : String) (fault : FieldFault) : Faults value keyword (.fields fault)
  | parameter (place : Place) (fault : TypeFault) : Faults value (keywordOf place) (.type fault)
  | response (fault : TypeFault) : Faults value Keyword.response (.type fault)
  | overlong {g : List String} : g ∈ value.toGroups → Example.read g = .error .overlongNumber →
      Faults value Keyword.example' .overlongNumber

theorem faults_given {α : Type} {reading : Except FieldFault α} {f : α → Step} {fault : TagFault}
    (hf : ∀ x, (f x).2 = .error fault → Faults value keyword fault)
    (h : (a.given reading f).2 = .error fault) : Faults value keyword fault := by
  unfold given at h
  split at h
  · exact hf _ h
  · obtain rfl := Except.error.inj h
    exact .fields _ _

/-- **A tag has no other faults.** -/
theorem faults_apply {fault : TagFault} (h : (a.apply keyword value).2 = .error fault) :
    Faults value keyword fault := by
  revert h
  refine apply_induct (motive := fun k f => (f a value).2 = .error fault → Faults value k fault)
    ?handler ?method ?resource ?description ?response ?parameter ?example' ?stub keyword
  case handler => exact fun h => absurd h (by simp)
  case method =>
    refine faults_given fun value h => ?_
    unfold setMethod at h
    split at h
    · exact absurd h (by simp [change])
    · exact Except.error.inj h ▸ .fields _ _
  case resource =>
    refine faults_given fun value h => ?_
    unfold setResource at h
    split at h
    · exact absurd h (by simp [change])
    · exact Except.error.inj h ▸ .fields _ _
  case description =>
    exact faults_given fun lines h => absurd h (by simp [setDescription, change])
  case response =>
    refine faults_given fun lines h => ?_
    rw [outcome_setResponse_eq_error_iff] at h
    obtain ⟨f, rfl⟩ | ⟨f, rfl⟩ := Context.fault_of_readResponse h
    · exact .fields _ f
    · exact .response f
  case parameter =>
    intro place h
    obtain ⟨_, g, _, b, -, -, hg⟩ := outcome_eachGroup_eq_error_iff.1 h
    rw [outcome_addParameter_eq_error_iff] at hg
    obtain ⟨f, rfl⟩ | ⟨f, rfl⟩ := Context.fault_of_readParameter hg
    · exact .fields _ f
    · exact .parameter place f
  case example' =>
    intro h
    obtain ⟨done, g, rest, b, hgroups, -, hg⟩ := outcome_eachGroup_eq_error_iff.1 h
    unfold addExample at hg
    simp only at hg
    split at hg
    · exact absurd hg (by simp [change])
    · rename_i fault' hread
      obtain rfl := Except.error.inj hg
      obtain ⟨f, rfl⟩ | rfl := Example.fault_of_read hread
      · exact .fields _ f
      · exact .overlong (g := g) (by simp [hgroups]) hread
  case stub =>
    intro k _ h
    unfold addStub at h
    simp only at h
    split at h
    · exact Except.error.inj h ▸ .unknownTag k
    all_goals exact absurd h (by simp [change])

theorem outcome_apply_eq_type_iff :
    (a.apply keyword value).2 = .error (.type fault) ↔ a.Unresolved value fault keyword := by
  constructor
  · intro h
    cases faults_apply h with
    | parameter place =>
      rw [apply_keywordOf, outcome_eachGroup_eq_error_iff] at h
      obtain ⟨done, fields, rest, b, hgroups, hdone, hfields⟩ := h
      rw [outcome_addParameter_eq_error_iff, Context.outcome_readParameter_eq_type_iff] at hfields
      obtain ⟨draft, hdraft, hresolve⟩ := hfields
      refine .parameter hgroups ?_ hdraft hresolve
      rw [addTag_eq_ok_iff, base_keywordOf, apply_keywordOf]
      exact hdone
    | response =>
      have hlines : (a.given value.lines a.setResponse).2 = .error (.type fault) := h
      unfold given at hlines
      split at hlines
      · rename_i lines heq
        rw [outcome_setResponse_eq_error_iff, Context.outcome_readResponse_eq_type_iff] at hlines
        obtain ⟨draft, hdraft, hresolve⟩ := hlines
        exact .response heq hdraft hresolve
      · exact absurd hlines (by simp [refuse])
  · rintro (⟨hgroups, hdone, hdraft, hresolve⟩ | ⟨hlines, hdraft, hresolve⟩)
    · rw [addTag_eq_ok_iff, base_keywordOf, apply_keywordOf] at hdone
      rw [apply_keywordOf, outcome_eachGroup_eq_error_iff]
      refine ⟨_, _, _, _, hgroups, hdone, ?_⟩
      rw [outcome_addParameter_eq_error_iff, Context.outcome_readParameter_eq_type_iff]
      exact ⟨_, hdraft, hresolve⟩
    · show (a.given value.lines a.setResponse).2 = .error (.type fault)
      rw [hlines, given, outcome_setResponse_eq_error_iff,
        Context.outcome_readResponse_eq_type_iff]
      exact ⟨_, hdraft, hresolve⟩

/-- **A tag fails with a fault of its type if and only if its type cannot be resolved.** -/
theorem outcome_addTag_eq_type_iff :
    (a.addTag keyword value).2 = .error ⟨Keyword.base keyword, .type fault⟩ ↔
      a.Unresolved value fault (Keyword.base keyword) := by
  rw [← outcome_apply_eq_type_iff, addTag_eq]
  cases (a.apply (Keyword.base keyword) value).2 <;> simp [Except.mapError]

/-! ## One tag after the other -/

/-- What a tag fails with, if it does. -/
def failure? (a : Assembly) (tag : String × TagValue) : Option TagError :=
  match (a.addTag tag.1 tag.2).2 with
  | .ok _ => none
  | .error e => some e

/-- What each of several tags fails with, if it does, when it is applied to the route that those in
front of it have made. -/
def failures (c : Context) (tags : List (String × TagValue)) : List (Option TagError) :=
  tags.mapIdx fun i tag => (tagged c (tags.take i)).failure? tag

/-- The assembly after several tags. -/
def after (a : Assembly) (tags : List (String × TagValue)) : Assembly :=
  tags.foldl (fun a tag => (a.addTag tag.1 tag.2).1) a

@[simp] theorem after_cons (a : Assembly) (tag : String × TagValue)
    (tags : List (String × TagValue)) :
    a.after (tag :: tags) = (a.addTag tag.1 tag.2).1.after tags := rfl

theorem joins_nil_refl (a : Assembly) : a.Joins [] a where
  context := ⟨⟨rfl, fun _ _ => by simp⟩, rfl⟩
  route := rfl

/-- Reports change nothing for the tags to come. -/
theorem Joins.addTag (h : a.Joins [] b) (keyword : String) (value : TagValue) :
    (a.addTag keyword value).1.Joins [] (b.addTag keyword value).1 ∧
      (b.addTag keyword value).2 = (a.addTag keyword value).2 :=
  parallel_addTag (u := (a.addTag keyword value).1.context.registry)
    (fun _ hm => absurd hm List.not_mem_nil) h keyword value (.refl _)

/-- A group of the tag is read as an example, and a code in it has more digits than are read. -/
def IsOverlong (tag : String × TagValue) : Prop :=
  Keyword.base tag.1 = Keyword.example' ∧
    ∃ g ∈ tag.2.toGroups, Example.read g = .error .overlongNumber

theorem isOverlong_of_addTag {e : TagError} (h : (a.addTag keyword value).2 = .error e)
    (he : e.fault = .overlongNumber) : IsOverlong (keyword, value) := by
  obtain ⟨fault, hfault, rfl⟩ := addTag_eq_error_iff.1 (Prod.ext rfl h)
  have hfaults := faults_apply (congrArg Prod.snd hfault)
  obtain rfl : fault = .overlongNumber := he
  generalize hbase : Keyword.base keyword = k at hfaults
  cases hfaults with
  | overlong hg hread => exact ⟨hbase, _, hg, hread⟩

/-- The assembly only ends early at a number that is too long. -/
theorem exists_isOverlong_of_addTags {source : String} {tags : List (String × TagValue)}
    {e : TagError} (h : (addTags source a tags).2 = .error e) : ∃ tag ∈ tags, IsOverlong tag := by
  induction tags generalizing a with
  | nil => exact absurd h (by simp [addTags])
  | cons tag tags ih =>
    rw [List.exists_mem_cons_iff]
    unfold addTags at h
    split at h
    · exact .inr (ih h)
    · rename_i a' e' htag
      split at h
      · rename_i he
        exact .inl (isOverlong_of_addTag (congrArg Prod.snd htag) he)
      · exact .inr (ih (map_eq_error_iff.1 h))

theorem addTags_eq_of_joins (source : String) (h : a.Joins [] b)
    {tags : List (String × TagValue)} {errors : List TagError}
    (hok : (addTags source a tags).2 = .ok errors) :
    (addTags source a tags).1.Joins [] (b.after tags) ∧
      errors = (tags.mapIdx fun i tag => (b.after (tags.take i)).failure? tag).reduceOption ∧
      ∀ e ∈ errors, e.fault ≠ .overlongNumber := by
  induction tags generalizing a b errors with
  | nil =>
    obtain rfl := Except.ok.inj hok
    exact ⟨h, rfl, by simp⟩
  | cons tag tags ih =>
    obtain ⟨keyword, value⟩ := tag
    obtain ⟨hjoins, houtcome⟩ := h.addTag keyword value
    have hfirst : (b.after (List.take 0 ((keyword, value) :: tags))).failure? (keyword, value) =
        match (a.addTag keyword value).2 with
        | .ok _ => none
        | .error e => some e := by
      rw [← houtcome]
      rfl
    rw [List.mapIdx_cons, hfirst]
    unfold addTags at hok ⊢
    generalize a.addTag keyword value = x at hjoins hok ⊢
    obtain ⟨a', e | ⟨⟩⟩ := x
    · simp only at hok ⊢
      split at hok
      · exact absurd hok (by simp)
      rename_i he
      obtain ⟨rest, hrest, rfl⟩ := map_eq_ok_iff.1 hok
      obtain ⟨hend, herrors, hfaults⟩ := ih (a := a'.advance a'.context [.tagSkipped e.message
        (a'.label source)]) ⟨hjoins.context, hjoins.route⟩ hrest
      rw [if_neg he]
      exact ⟨hend, by simpa using herrors, List.forall_mem_cons.2 ⟨he, hfaults⟩⟩
    · obtain ⟨hend, herrors, hfaults⟩ := ih hjoins hok
      exact ⟨hend, by simpa using herrors, hfaults⟩

end Assembly

/-! ## The errors of a route -/

/-- There is one tag for each field group of a block. -/
theorem Block.length_tags (comment : String) :
    (Block.tags comment).length = ((Block.parse comment).values.map List.length).sum := by
  rw [Block.tags, List.length_flatMap, Dict.values, List.map_map]
  simp only [List.length_map]
  rfl

/-- **The errors of a route are those of its tags.**  Unless a tag holds a number with more digits
than are read, the assembly goes through.  Then each tag is applied to what the tags in front of it
have made, whether those have failed or not, and its error, if any, is listed in its place.  The
error has the keyword by which the tag is applied, and is a fault of its type if and only if that
cannot be resolved. -/
theorem Route.errors_assemble (c : Context) (comment : String) (overrides : Dict String TagValue)
    (source : String) :
    let tags := overrides.entries ++ Block.tags comment
    let result := Route.assemble c comment overrides source
    ((∀ tag ∈ tags, ¬ Assembly.IsOverlong tag) → ∃ errors, result.2 = .ok errors) ∧
    (∀ errors, result.2 = .ok errors →
      errors = (Assembly.failures c tags).reduceOption ∧
      result.1.route = (Assembly.tagged c tags).route ∧
      errors.length ≤ overrides.size + ((Block.parse comment).values.map List.length).sum ∧
      ∀ e ∈ errors, e.fault ≠ .overlongNumber) ∧
    ∀ (a : Assembly) (keyword : String) (value : TagValue),
      (∀ e, (a.addTag keyword value).2 = .error e → e.keyword = Keyword.base keyword) ∧
      ∀ fault, (a.addTag keyword value).2 = .error ⟨Keyword.base keyword, .type fault⟩ ↔
        a.Unresolved value fault (Keyword.base keyword) := by
  intro tags result
  refine ⟨fun hread => ?_, fun errors hok => ?_, fun a keyword value => ⟨fun e he => ?_,
    fun fault => ?_⟩⟩
  · cases hresult : result.2 with
    | ok errors => exact ⟨errors, rfl⟩
    | error e =>
      obtain ⟨tag, htag, hoverlong⟩ := Assembly.exists_isOverlong_of_addTags hresult
      exact absurd hoverlong (hread tag htag)
  · obtain ⟨hend, herrors, hfaults⟩ :=
      Assembly.addTags_eq_of_joins source (Assembly.joins_nil_refl { context := c }) hok
    refine ⟨herrors, hend.route.symm, ?_, hfaults⟩
    have hlength : errors.length ≤ tags.length := by
      rw [herrors]
      exact le_of_le_of_eq (List.reduceOption_length_le _) (by simp [Assembly.after, tags])
    simpa only [tags, List.length_append, Block.length_tags, Dict.size] using hlength
  · obtain ⟨fault, -, rfl⟩ := Assembly.addTag_eq_error_iff.1 (Prod.ext rfl he)
    rfl
  · exact Assembly.outcome_addTag_eq_type_iff

/-- One group of the overrides is read, the next one names aliases that lead back to each other, and
the comment holds a keyword that no context knows. -/
theorem Route.errors_assemble_loop :
    let c : Context := { registry := { aliases := Dict.ofList [("A", "[]B"), ("B", "A")] } }
    let value : TagValue := .groups [["{int} id"], ["{A} shelf"]]
    let overrides : Dict String TagValue := Dict.ofList [("routes", value)]
    let e : TagError := ⟨"route", .type (.aliasCycle "A")⟩
    let tags := overrides.entries ++ Block.tags "@pages\n@resource GET /books"
    (∀ tag ∈ tags, ¬ Assembly.IsOverlong tag) ∧
    (Assembly.failures c tags).reduceOption = [e, ⟨"pages", .unknownTag⟩] ∧
    (Route.assemble c "@pages\n@resource GET /books" overrides "").2 =
      .ok [e, ⟨"pages", .unknownTag⟩] ∧
    ({ context := c } : Assembly).Unresolved value (.aliasCycle "A") "route" := by
  intro c value overrides e tags
  have hread : ∀ tag ∈ tags, ¬ Assembly.IsOverlong tag := by
    have hkeyword : ∀ tag ∈ tags, Keyword.base tag.1 ≠ Keyword.example' := by decide +kernel
    exact fun tag htag hoverlong => hkeyword tag htag hoverlong.1
  have hfailures : (Assembly.failures c tags).reduceOption = [e, ⟨"pages", .unknownTag⟩] := by
    decide +kernel
  have houtcome : (({ context := c } : Assembly).addTag "routes" value).2 = .error e := by
    decide +kernel
  obtain ⟨hok, herrors, htag⟩ :=
    Route.errors_assemble c "@pages\n@resource GET /books" overrides ""
  obtain ⟨errors, hresult⟩ := hok hread
  refine ⟨hread, hfailures, ?_, ((htag _ "routes" value).2 _).1 houtcome⟩
  rw [hresult, (herrors errors hresult).1, hfailures]

end RouteDoc
