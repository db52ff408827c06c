import RouteDoc.Proofs.Route.Closed
import RouteDoc.Proofs.Route.Step
import RouteDoc.Proofs.Text.Pieces
import Mathlib.Data.List.Induction

/-!
# What holds of every route

* `Route.Orderly`: the resource, the parameters, the types and the recorded tags of a route, as
  every tag leaves them.
* `Route.Numbered`: the examples of a route are the given ones, numbered from one.
* `Assembly.tagged`: the assembly after tags that are applied to an empty route.
* `Assembly.orderly_tagged`: **every route is orderly, holds the examples that its tags could read,
  and records its tags with registered keywords**, whether some of its tags fail or not.
-/

namespace RouteDoc

/-! ## Resources -/

namespace Endpoint

theorem suffix_of_cutWord? {w s spelling rest : List Char}
    (h : cutWord? w s = some (spelling, rest)) : rest <:+ s := by
  induction w generalizing s spelling with
  | nil =>
    rw [cutWord?] at h
    exact (Prod.mk.inj (Option.some.inj h)).2 ▸ List.suffix_refl s
  | cons x w ih =>
    cases s with
    | nil => exact absurd h (by simp [cutWord?])
    | cons c s =>
      rw [cutWord?] at h
      split at h
      · obtain ⟨⟨spelling', rest'⟩, hcut, hp⟩ := Option.map_eq_some_iff.1 h
        obtain ⟨-, rfl⟩ := Prod.mk.inj hp
        exact (ih hcut).trans (List.suffix_cons c s)
      · exact absurd h (by simp)

/-- The resource behind a method is an end of the text that does not begin with a blank. -/
theorem suffix_of_cutMethod? {s spelling resource : List Char}
    (h : cutMethod? s = some (spelling, resource)) :
    resource <:+ s ∧ ∀ c ∈ resource.head?, Chars.isBlank c = false := by
  obtain ⟨m, -, hm⟩ := List.exists_of_findSome?_eq_some h
  split at hm
  · rename_i spelling' c r hcut
    simp only at hm
    split at hm
    · obtain ⟨-, rfl⟩ := Prod.mk.inj (Option.some.inj hm)
      exact ⟨(List.dropWhile_suffix _).trans (suffix_of_cutWord? hcut),
        fun _ => Chars.eq_false_of_mem_head?_dropWhile⟩
    · exact absurd hm (by simp)
  · exact absurd hm (by simp)

theorem strip_of_readResource {value resource : String} {m : Option String}
    (h : readResource value = .ok (resource, m)) : Text.strip resource = resource := by
  unfold readResource at h
  simp only at h
  split at h
  · exact absurd h (by simp)
  split at h
  · rename_i spelling rest hcut
    simp only at h
    split at h
    · rw [← (Prod.mk.inj (Except.ok.inj h)).1, Text.strip, String.toList_ofList]
      obtain ⟨⟨front, hfront⟩, hhead⟩ := suffix_of_cutMethod? hcut
      -- the resource ends like the trimmed text around it
      refine congrArg String.ofList <| Chars.strip_eq_self hhead fun c hc =>
        Chars.isBlank_eq_false_of_mem_getLast?_strip (s := value.toList) ?_
      rw [← hfront, List.getLast?_append, Option.mem_def.1 hc, Option.some_or]
      rfl
    · exact absurd h (by simp)
  · simp only at h
    split at h
    · rw [← (Prod.mk.inj (Except.ok.inj h)).1, Text.strip, String.toList_ofList, Chars.strip_strip]
    · exact absurd h (by simp)

end Endpoint

/-! ## Parameters, types and recorded tags -/

namespace Route

variable {r : Route} {c : Context}

/-- What every tag leaves behind, in a context with the keywords of `c`. -/
structure Orderly (c : Context) (r : Route) : Prop where
  rooted : r.Rooted
  trimmed : Text.strip r.resource = r.resource
  /-- Parameters stand under their names. -/
  named : ∀ place name p, (r.parameters place).get? name = some p → p.name = name
  nodup : r.dependentTypes.Nodup
  dependents : ∀ t ∈ r.types, t.dependents ⊆ r.dependentTypes
  /-- Recorded tags stand under their keywords, in the category of the keyword. -/
  recorded : ∀ category keyword stub, (r.stubs category).get? keyword = some stub →
    stub.name = keyword ∧ c.category? keyword = some category

theorem orderly_empty (c : Context) : Orderly c {} where
  rooted := .inl rfl
  trimmed := rfl
  named place _ _ h := by cases place <;> exact nomatch h
  nodup := List.nodup_nil
  dependents _ h := nomatch h
  recorded category _ _ h := by cases category <;> exact nomatch h

theorem stubs_addParameter (r : Route) (place : Place) (p : Parameter) (category : Category) :
    (r.addParameter place p).stubs category = r.stubs category := by
  cases place <;> cases category <;> rfl

theorem Orderly.addParameter (h : r.Orderly c) (place : Place) (p : Parameter) :
    (r.addParameter place p).Orderly c where
  rooted := by cases place <;> exact h.rooted
  trimmed := by cases place <;> exact h.trimmed
  named place' name q hq := by
    rw [parameters_addParameter] at hq
    split at hq
    · rw [Dict.get?_put] at hq
      split at hq
      · rename_i hname
        rw [← Option.some.inj hq, hname]
      · exact h.named place' name q hq
    · exact h.named place' name q hq
  nodup := by
    rw [dependentTypes_addParameter]
    exact nodup_mergeInto h.nodup
  dependents := dependents_subset_merge h.dependents (fun _ => mem_types_addParameter)
    (dependentTypes_addParameter ..)
  recorded category keyword stub hs := by
    rw [stubs_addParameter] at hs
    exact h.recorded category keyword stub hs

theorem Orderly.setResponse (h : r.Orderly c) (x : Response) : (r.setResponse x).Orderly c where
  rooted := h.rooted
  trimmed := h.trimmed
  named := h.named
  nodup := nodup_mergeInto h.nodup
  dependents := dependents_subset_merge h.dependents (fun _ => mem_types_setResponse) rfl
  recorded := h.recorded

theorem Orderly.putStub (h : r.Orderly c) (category : Category) (stub : Stub)
    (hs : c.category? stub.name = some category) : (r.putStub category stub).Orderly c := by
  -- nothing but the recorded tags changes
  have hrecorded : ∀ category' keyword stub',
      ((r.putStub category stub).stubs category').get? keyword = some stub' →
        stub'.name = keyword ∧ c.category? keyword = some category' := by
    intro category' keyword stub' hget
    rw [stubs_putStub] at hget
    split at hget
    · rename_i hcategory
      rw [Dict.get?_put] at hget
      split at hget
      · rename_i hname
        rw [← Option.some.inj hget, ← hcategory, ← hname]
        exact ⟨rfl, hs⟩
      · exact h.recorded category' keyword stub' hget
    · exact h.recorded category' keyword stub' hget
  cases category <;> exact { h with recorded := hrecorded }

end Route

namespace Assembly

variable {a b : Assembly} {c : Context}

theorem Change.orderly (h : Change a b) (hk : a.context.keywords = c.keywords)
    (ha : a.route.Orderly c) : b.route.Orderly c := by
  have hcategory : ∀ keyword, c.category? keyword = a.context.category? keyword := fun keyword => by
    rw [Context.category?, Context.category?, hk]
  cases h with
  | parameter notices place h => exact ha.addParameter place _
  | response notices h => exact ha.setResponse _
  | resource h =>
    exact { ha with
      rooted := .inr (Route.head?_of_readResource h)
      trimmed := Endpoint.strip_of_readResource h }
  | trait fields h => exact ha.putStub .trait ⟨_, fields⟩ (hcategory _ ▸ h)
  | security fields h => exact ha.putStub .security ⟨_, fields⟩ (hcategory _ ▸ h)
  | remark fields h => exact ha.putStub .remark ⟨_, fields⟩ (hcategory _ ▸ h)
  | _ => exact { ha with }

/-- Recorded tags are replaced, but none is taken back. -/
theorem Change.keys_stubs (h : Change a b) (category : Category) :
    (a.route.stubs category).keys ⊆ (b.route.stubs category).keys := by
  have hput : ∀ category' stub, (a.route.stubs category).keys ⊆
      ((a.route.putStub category' stub).stubs category).keys := by
    intro category' stub k hk
    rw [Route.stubs_putStub]
    split
    · exact Dict.mem_keys_put.2 (.inr hk)
    · exact hk
  cases h with
  | @parameter _ _ p notices place h =>
    exact (Route.stubs_addParameter a.route place p category).symm ▸ List.Subset.refl _
  | trait fields h => exact hput .trait ⟨_, fields⟩
  | security fields h => exact hput .security ⟨_, fields⟩
  | remark fields h => exact hput .remark ⟨_, fields⟩
  | _ => cases category <;> exact List.Subset.refl _

theorem Changes.keys_stubs (h : Changes a b) (category : Category) :
    (a.route.stubs category).keys ⊆ (b.route.stubs category).keys :=
  h.keep (P := fun b => (a.route.stubs category).keys ⊆ (b.route.stubs category).keys)
    (fun _ _ hbc hab => List.Subset.trans hab (hbc.keys_stubs category)) (List.Subset.refl _)

theorem Changes.orderly (h : Changes a b) (hk : a.context.keywords = c.keywords)
    (ha : a.route.Orderly c) : b.route.Orderly c := by
  refine (h.keep (P := fun b => b.context.keywords = c.keywords ∧ b.route.Orderly c)
    (fun a b hab ha => ⟨hab.keywords_eq.trans ha.1, hab.orderly ha.1 ha.2⟩) ⟨hk, ha⟩).2

end Assembly

/-! ## Examples -/

/-- The examples of several groups, up to the first that cannot be read. -/
def Example.readGroups : List (List String) → List Example
  | [] => []
  | g :: gs =>
    match Example.read g with
    | .ok e => e :: readGroups gs
    | .error _ => []

/-- The examples that a tag adds. -/
def TagValue.examples (keyword : String) (value : TagValue) : List Example :=
  if Keyword.base keyword = Keyword.example' then Example.readGroups value.toGroups else []

namespace Route

variable {r : Route} {es : List Example}

/-- The examples are the given ones, numbered from one, in their order. -/
def Numbered (es : List Example) (r : Route) : Prop :=
  r.examples.entries = es.mapIdx fun i e => ("Example" ++ toString (i + 1), e)

/-- No example has the next name yet. -/
theorem Numbered.next_not_mem (h : r.Numbered es) : r.nextExampleName ∉ r.examples.keys := by
  intro hmem
  rw [Dict.keys, nextExampleName, Dict.size, h, List.length_mapIdx] at hmem
  obtain ⟨⟨name, e⟩, he, hname⟩ := List.mem_map.1 hmem
  obtain ⟨i, hi, hei⟩ := List.mem_mapIdx.1 he
  have hnumber : (i + 1).repr = (es.length + 1).repr :=
    (String.append_right_inj _).1 ((Prod.mk.inj hei).1.trans hname)
  -- the digits of different numbers are different
  have heq := congrArg (fun s => Nat.ofDigitChars 10 s.toList 0) hnumber
  simp only [Nat.toList_repr, Nat.ofDigitChars_ten_toDigits] at heq
  omega

theorem Numbered.addExample (h : r.Numbered es) (e : Example) :
    (r.addExample e).Numbered (es ++ [e]) := by
  have hentries : (r.addExample e).examples.entries =
      r.examples.entries ++ [(r.nextExampleName, e)] := Dict.entries_put_of_not_mem h.next_not_mem
  rw [Numbered, hentries, List.mapIdx_concat, ← h, nextExampleName, Dict.size, h,
    List.length_mapIdx]

end Route

namespace Assembly

variable {a b : Assembly} {es : List Example}

theorem numbered_eachGroup (h : a.route.Numbered es) (groups : List (List String)) :
    (eachGroup addExample a groups).1.route.Numbered (es ++ Example.readGroups groups) := by
  induction groups generalizing a es with
  | nil => simpa [eachGroup, Example.readGroups] using h
  | cons g gs ih =>
    cases he : Example.read g with
    | ok e =>
      have hgroup : ∃ a', eachGroup addExample a (g :: gs) = eachGroup addExample a' gs ∧
          a'.route = a.route.addExample e := by
        simp only [eachGroup, addExample, he]
        exact ⟨_, rfl, rfl⟩
      obtain ⟨a', hrest, hroute⟩ := hgroup
      rw [hrest, Example.readGroups, he, List.append_cons]
      exact ih (hroute ▸ h.addExample e)
    | error fault =>
      have hgroup : (eachGroup addExample a (g :: gs)).1.route = a.route := by
        simp only [eachGroup, addExample, he]
        rfl
      rw [hgroup, Example.readGroups, he, List.append_nil]
      exact h

/-- A tag adds its examples, and no others. -/
theorem numbered_addTag (h : a.route.Numbered es) (keyword : String) (value : TagValue) :
    (a.addTag keyword value).1.route.Numbered (es ++ value.examples keyword) := by
  rw [addTag_eq, TagValue.examples]
  split
  · rename_i hk
    rw [hk]
    exact numbered_eachGroup h value.toGroups
  · rename_i hk
    have hkeep : (a.apply (Keyword.base keyword) value).1.route.examples = a.route.examples := by
      by_cases hmem : Keyword.base keyword ∈ Keyword.grouped
      · obtain ⟨f, hdoes, hf⟩ := exists_step_of_mem hmem
        rw [hf]
        exact rel_eachGroup (P := fun r r' => r'.examples = r.examples) (fun _ => rfl)
          (fun _ _ _ h h' => h'.trans h) (fun a g => (hdoes a g).of_refl (fun _ _ => rfl) hk) a _
      · exact (does_apply hmem a value).of_refl fun _ => rfl
    rw [List.append_nil, Route.Numbered, hkeep]
    exact h

/-! ## All tags -/

/-- The assembly after tags that are applied to an empty route, whether they fail or not. -/
def tagged (c : Context) (tags : List (String × TagValue)) : Assembly :=
  tags.foldl (fun a tag => (a.addTag tag.1 tag.2).1) { context := c }

theorem tagged_append (c : Context) (tags : List (String × TagValue)) (tag : String × TagValue) :
    tagged c (tags ++ [tag]) = ((tagged c tags).addTag tag.1 tag.2).1 := by
  rw [tagged, List.foldl_append]
  rfl

theorem changes_tagged (c : Context) (tags : List (String × TagValue)) :
    Changes { context := c } (tagged c tags) := by
  induction tags using List.reverseRecOn with
  | nil => exact .refl
  | append_singleton tags tag ih =>
    rw [tagged_append]
    exact ih.trans (changes_addTag ..)

theorem numbered_tagged (c : Context) (tags : List (String × TagValue)) :
    (tagged c tags).route.Numbered (tags.flatMap fun tag => tag.2.examples tag.1) := by
  induction tags using List.reverseRecOn with
  | nil => rfl
  | append_singleton tags tag ih =>
    rw [tagged_append, List.flatMap_append, List.flatMap_singleton]
    exact numbered_addTag ih tag.1 tag.2

/-- A tag with a registered keyword is recorded in the category of the keyword. -/
theorem mem_keys_stubs_addTag {keyword : String} {category : Category}
    (hk : Keyword.base keyword ∉ Keyword.builtIn)
    (hcategory : a.context.category? keyword = some category) (value : TagValue) :
    keyword ∈ ((a.addTag keyword value).1.route.stubs category).keys := by
  rw [addTag_eq, apply_of_not_mem hk, Keyword.base_eq_self hk, addStub_eq hcategory]
  show keyword ∈ ((a.route.putStub category _).stubs category).keys
  rw [Route.stubs_putStub, if_pos rfl]
  exact Dict.mem_keys_put.2 (.inl rfl)

theorem mem_keys_stubs_tagged {c : Context} {tags : List (String × TagValue)}
    {tag : String × TagValue} {category : Category} (htag : tag ∈ tags)
    (hk : Keyword.base tag.1 ∉ Keyword.builtIn) (hcategory : c.category? tag.1 = some category) :
    tag.1 ∈ ((tagged c tags).route.stubs category).keys := by
  induction tags using List.reverseRecOn with
  | nil => exact absurd htag List.not_mem_nil
  | append_singleton tags last ih =>
    rw [tagged_append]
    rcases List.mem_append.1 htag with htag | htag
    · exact (changes_addTag ..).keys_stubs category (ih htag)
    · rw [← List.mem_singleton.1 htag]
      refine mem_keys_stubs_addTag hk ?_ _
      rwa [Context.category?, (changes_tagged c tags).keywords_eq]

/-- **Every route is orderly, holds the examples that its tags could read, and records its tags
with registered keywords**, whether some of its tags fail or not. -/
theorem orderly_tagged (c : Context) (tags : List (String × TagValue)) :
    (tagged c tags).route.Orderly c ∧
    (tagged c tags).route.Numbered (tags.flatMap fun tag => tag.2.examples tag.1) ∧
    ∀ tag ∈ tags, Keyword.base tag.1 ∉ Keyword.builtIn → ∀ category,
      c.category? tag.1 = some category →
        tag.1 ∈ ((tagged c tags).route.stubs category).keys :=
  ⟨(changes_tagged c tags).orderly rfl (Route.orderly_empty c), numbered_tagged c tags,
    fun _ htag hk _ hcategory => mem_keys_stubs_tagged htag hk hcategory⟩

end Assembly

end RouteDoc
