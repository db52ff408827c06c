import RouteDoc.Proofs.Route.Invariant

/-!
# What the types of a route depend on

A parameter takes the place of an earlier one of its name, and a response that of the one before.
The list of the names that types depend on only grows, so the names of replaced types stay in it.

* `Route.Needs`: the names that the types of a route depend on.
* `Route.Gains`: a step that lists new names only for types that the route holds after it.
* `TagValue.Part`: the value of a tag, or that of a tag for several groups cut off behind some of
  them.
* `Assembly.Passes`: the routes on the way of several tags.
* `Assembly.mem_dependentTypes_tagged_iff`: **a route lists a name if and only if it has held a type
  that depends on it**, then or on the way there.
* `Assembly.dependentTypes_of_replaced_response`: the type of a replaced response is still listed.
-/

namespace RouteDoc

namespace Route

variable {r s : Route} {n : String}

/-- A type of the route depends on the name. -/
def Needs (r : Route) (n : String) : Prop := ∃ t ∈ r.types, n ∈ t.dependents

/-- New names are listed only for types that the route holds after the step. -/
def Gains (r s : Route) : Prop := ∀ n ∈ s.dependentTypes, n ∈ r.dependentTypes ∨ s.Needs n

theorem Gains.of_eq (h : s.dependentTypes = r.dependentTypes) : Gains r s :=
  fun _ hn => .inl (h ▸ hn)

theorem gains_addParameter (r : Route) (place : Place) (p : Parameter) :
    Gains r (r.addParameter place p) := by
  intro n hn
  rw [dependentTypes_addParameter, mem_mergeInto] at hn
  refine hn.imp_right fun hn => ⟨p.type, mem_types_of_mem_values place ?_, hn⟩
  rw [parameters_addParameter, if_pos rfl]
  exact Dict.mem_values_iff.2 ⟨p.name, by rw [Dict.get?_put, if_pos rfl]⟩

theorem gains_setResponse (r : Route) (x : Response) : Gains r (r.setResponse x) := by
  intro n hn
  exact (mem_mergeInto.1 hn).imp_right fun hn => ⟨x.type, mem_types_of_response rfl, hn⟩

end Route

/-- The value of a tag; or that of a tag for several groups, cut off behind some of them. -/
inductive TagValue.Part (keyword : String) (value : TagValue) : TagValue → Prop
  | whole : Part keyword value value
  | groups {done : List (List String)} : keyword ∈ Keyword.grouped → done <+: value.toGroups →
      Part keyword value (.groups done)

namespace Assembly

open Route

variable {a b : Assembly} {c : Context} {keyword : String} {value part : TagValue} {n : String}
  {tags : List (String × TagValue)}

/-! ## Names stay listed -/

theorem Change.dependentTypes_subset (h : Change a b) :
    a.route.dependentTypes ⊆ b.route.dependentTypes := by
  intro n hn
  cases h with
  | @parameter _ _ p notices place h =>
    show n ∈ (a.route.addParameter place p).dependentTypes
    rw [dependentTypes_addParameter, mem_mergeInto]
    exact .inl hn
  | response notices h => exact mem_mergeInto.2 (.inl hn)
  | _ => exact hn

theorem Changes.dependentTypes_subset (h : Changes a b) :
    a.route.dependentTypes ⊆ b.route.dependentTypes :=
  h.keep (P := fun b => a.route.dependentTypes ⊆ b.route.dependentTypes)
    (fun _ _ hbc hab => List.Subset.trans hab hbc.dependentTypes_subset) (List.Subset.refl _)

/-- A tag goes on behind those of its groups that it is cut off behind. -/
theorem changes_addTag_of_part (h : value.Part (Keyword.base keyword) part) (a : Assembly) :
    Changes (a.addTag keyword part).1 (a.addTag keyword value).1 := by
  cases h with
  | whole => exact .refl
  | @groups done hk hdone =>
    obtain ⟨f, -, hf⟩ := exists_step_of_mem hk
    have hchanges : ∀ a g, Changes a (f a g).1 := fun a g => by
      have hg := changes_apply a (Keyword.base keyword) (.groups [g])
      rwa [hf, TagValue.toGroups, eachGroup_singleton] at hg
    obtain ⟨rest, hrest⟩ := hdone
    rw [addTag_eq, addTag_eq, hf, hf, ← hrest, TagValue.toGroups]
    cases hb : eachGroup f a done with
    | mk b outcome =>
      cases outcome with
      | ok u =>
        rw [eachGroup_append hb]
        exact changes_eachGroup hchanges b rest
      | error fault =>
        rw [eachGroup_append_of_error hb]

/-! ## Names come in with types -/

theorem Does.gains {P : Route → Route → Prop} {s : Step} (h : Does P a s)
    (hgains : ∀ r r', P r r' → Gains r r') : Gains a.route s.1.route :=
  (h.mono hgains).of_refl fun _ => .of_eq rfl

/-- Steps for several groups list a new name only if one of the groups leaves a type that depends
on it.  A later group may replace this type. -/
theorem exists_needs_of_eachGroup {f : Assembly → List String → Step}
    (hf : ∀ a g, Gains a.route (f a g).1.route) {groups : List (List String)}
    (hn : n ∈ (eachGroup f a groups).1.route.dependentTypes) :
    n ∈ a.route.dependentTypes ∨
      ∃ done, done <+: groups ∧ (eachGroup f a done).1.route.Needs n := by
  induction groups generalizing a with
  | nil => exact .inl hn
  | cons g gs ih =>
    have hg := hf a g
    rw [eachGroup] at hn
    split at hn
    · rename_i a' _ hstep
      rw [hstep] at hg
      have hone : eachGroup f a [g] = (a', .ok ()) := by rw [eachGroup_singleton, hstep]
      rcases ih hn with hn | ⟨done, ⟨rest, rfl⟩, hneeds⟩
      · refine (hg n hn).imp_right fun hneeds => ⟨[g], ⟨gs, rfl⟩, ?_⟩
        rwa [hone]
      · refine .inr ⟨g :: done, ⟨rest, rfl⟩, ?_⟩
        rwa [← List.singleton_append, eachGroup_append hone]
    · rename_i a' fault hstep
      rw [hstep] at hg
      refine (hg n hn).imp_right fun hneeds => ⟨[g], ⟨gs, rfl⟩, ?_⟩
      rwa [eachGroup_singleton, hstep]

/-- A tag lists a new name only if it leaves a type that depends on it, behind some of its
groups. -/
theorem exists_needs_of_apply (hn : n ∈ (a.apply keyword value).1.route.dependentTypes) :
    n ∈ a.route.dependentTypes ∨
      ∃ part, value.Part keyword part ∧ (a.apply keyword part).1.route.Needs n := by
  revert hn
  refine apply_induct (motive := fun k f => n ∈ (f a value).1.route.dependentTypes →
    n ∈ a.route.dependentTypes ∨ ∃ part, value.Part k part ∧ (f a part).1.route.Needs n)
    ?handler ?method ?resource ?description ?response ?parameter ?example' ?stub keyword
  case handler => exact .inl
  case method =>
    have hgains : Gains a.route (a.given value.single a.setMethod).1.route :=
      (does_given a.does_setMethod).gains fun _ _ ⟨_, h⟩ => .of_eq (by rw [h])
    exact fun hn => (hgains n hn).imp_right fun h => ⟨value, .whole, h⟩
  case resource =>
    have hgains : Gains a.route (a.given value.single a.setResource).1.route :=
      (does_given a.does_setResource).gains fun _ _ ⟨_, _, h⟩ => .of_eq (by rw [h])
    exact fun hn => (hgains n hn).imp_right fun h => ⟨value, .whole, h⟩
  case description =>
    have hgains : Gains a.route (a.given value.lines a.setDescription).1.route :=
      (does_given a.does_setDescription).gains fun _ _ ⟨_, _, h⟩ => .of_eq (by rw [h])
    exact fun hn => (hgains n hn).imp_right fun h => ⟨value, .whole, h⟩
  case response =>
    have hgains : Gains a.route (a.given value.lines a.setResponse).1.route :=
      (does_given a.does_setResponse).gains fun r _ ⟨x, h⟩ => h ▸ gains_setResponse r x
    exact fun hn => (hgains n hn).imp_right fun h => ⟨value, .whole, h⟩
  case parameter =>
    intro place hn
    have hgains : ∀ a g, Gains a.route (addParameter place a g).1.route := fun a g =>
      (does_addParameter place a g).gains fun r _ ⟨p, h⟩ => h ▸ gains_addParameter r place p
    exact (exists_needs_of_eachGroup hgains hn).imp_right fun ⟨done, hdone, hneeds⟩ =>
      ⟨.groups done, .groups (by cases place <;> decide) hdone, hneeds⟩
  case example' =>
    intro hn
    have hgains : ∀ a g, Gains a.route (addExample a g).1.route := fun a g =>
      (does_addExample a g).gains fun _ _ ⟨_, _, h⟩ => .of_eq (by rw [h]; rfl)
    exact (exists_needs_of_eachGroup hgains hn).imp_right fun ⟨done, hdone, hneeds⟩ =>
      ⟨.groups done, .groups (by decide) hdone, hneeds⟩
  case stub =>
    intro k _ hn
    have hgains := (a.does_addStub k value).gains fun _ _ ⟨category, _, h⟩ => .of_eq (by
      rw [h]
      cases category <;> rfl)
    exact (hgains n hn).imp_right fun h => ⟨value, .whole, h⟩

/-! ## Whole runs -/

/-- The routes on the way of several tags: after each of them, and after each group of a tag that
takes several. -/
def Passes (c : Context) (tags : List (String × TagValue)) (r : Route) : Prop :=
  ∃ before keyword value part after, tags = before ++ (keyword, value) :: after ∧
    value.Part (Keyword.base keyword) part ∧ r = (tagged c (before ++ [(keyword, part)])).route

theorem changes_tagged_append (c : Context) (tags more : List (String × TagValue)) :
    Changes (tagged c tags) (tagged c (tags ++ more)) := by
  induction more using List.reverseRecOn with
  | nil =>
    rw [List.append_nil]
  | append_singleton more tag ih =>
    rw [← List.append_assoc, tagged_append]
    exact ih.trans (changes_addTag ..)

/-- What a route on the way lists, the last one lists too. -/
theorem Passes.dependentTypes_subset {r : Route} (h : Passes c tags r) :
    r.dependentTypes ⊆ (tagged c tags).route.dependentTypes := by
  obtain ⟨before, keyword, value, part, after, rfl, hpart, rfl⟩ := h
  have hpart := changes_addTag_of_part hpart (tagged c before)
  rw [← tagged_append c before (keyword, part), ← tagged_append c before (keyword, value)] at hpart
  rw [List.append_cons before (keyword, value) after]
  exact Changes.dependentTypes_subset (hpart.trans (changes_tagged_append ..))

/-- **A route lists a name if and only if it has held a type that depends on it**, after its tags or
on the way. -/
theorem mem_dependentTypes_tagged_iff (c : Context) (tags : List (String × TagValue)) (n : String) :
    n ∈ (tagged c tags).route.dependentTypes ↔ ∃ r, Passes c tags r ∧ r.Needs n := by
  constructor
  · intro hn
    induction tags using List.reverseRecOn with
    | nil => exact absurd hn List.not_mem_nil
    | append_singleton tags tag ih =>
      rw [tagged_append, addTag_eq] at hn
      rcases exists_needs_of_apply hn with hn | ⟨part, hpart, hneeds⟩
      · obtain ⟨r, ⟨before, k, value, part, after, rfl, hpart, rfl⟩, hneeds⟩ := ih hn
        exact ⟨_, ⟨before, k, value, part, after ++ [tag], by simp, hpart, rfl⟩, hneeds⟩
      · refine ⟨_, ⟨tags, tag.1, tag.2, part, [], rfl, hpart, rfl⟩, ?_⟩
        rwa [tagged_append, addTag_eq]
  · rintro ⟨r, hr, t, ht, hn⟩
    refine hr.dependentTypes_subset ?_
    obtain ⟨before, k, value, part, after, -, -, rfl⟩ := hr
    exact ((changes_tagged c _).orderly rfl (Route.orderly_empty c)).dependents t ht hn

/-- A response takes the place of the one before, whose type is still listed. -/
theorem dependentTypes_of_replaced_response :
    let tags := [(Keyword.response, TagValue.text "\x7bBook\x7d"),
      (Keyword.response, .text "\x7bAuthor\x7d")]
    (addTags "" { context := {} } tags).2 = .ok [] ∧
      (tagged {} tags).route.types.flatMap Descriptor.dependents = ["Author"] ∧
      (tagged {} tags).route.dependentTypes = ["Book", "Author"] := by
  decide +kernel

end Assembly

end RouteDoc
