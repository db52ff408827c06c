import RouteDoc.Proofs.Resource.Forest
import RouteDoc.Proofs.Route.Closed
import RouteDoc.Raml.Tree

/-!
# Where a document prints types

* `Tree.At`: the tree at a path of keys.
* `Tree.MethodPlace`, `Tree.ResourcePlace`, `Tree.TypePlace`: the paths at which a method, a resource
  and a document print the type of a parameter, of a response, of a field or of the values of a map.
* `Tree.type_at_ofMethod`, `Tree.type_at_ofNode`, `Tree.type_at_ofDocument`: **what is printed there**
  is the word for objects, or the name of a type of a route or of a definition.
-/

namespace RouteDoc

namespace Tree

/-- A tree has another one at a path of keys. -/
def At : Tree → List Key → Tree → Prop
  | t, [], u => u = t
  | t, k :: p, u => ∃ es s, t = .map es ∧ (k, s) ∈ es ∧ At s p u

variable {k : Key} {p : List Key} {u : Tree} {key s n : String} {t : Tree}

theorem at_nil {t u : Tree} : t.At [] u ↔ u = t := Iff.rfl

theorem at_map {es : List (Key × Tree)} :
    (map es).At (k :: p) u ↔ ∃ s, (k, s) ∈ es ∧ s.At p u := by
  simp [At]

theorem at_object {es : List (String × Tree)} :
    (object es).At (k :: p) u ↔ ∃ s t, k = .text s ∧ (s, t) ∈ es ∧ t.At p u := by
  rw [object, at_map]
  constructor
  · rintro ⟨t, ht, hu⟩
    obtain ⟨⟨s, t'⟩, he, heq⟩ := List.mem_map.1 ht
    obtain ⟨rfl, rfl⟩ := Prod.mk.injEq .. ▸ heq
    exact ⟨s, t', rfl, he, hu⟩
  · rintro ⟨s, t, rfl, he, hu⟩
    exact ⟨t, List.mem_map.2 ⟨(s, t), he, rfl⟩, hu⟩

theorem at_object_text {es : List (String × Tree)} :
    (object es).At (.text s :: p) u ↔ ∃ t, (s, t) ∈ es ∧ t.At p u := by
  simp [at_object]

theorem at_ofDict {d : Dict String Tree} :
    (ofDict d).At (k :: p) u ↔ ∃ s t, k = .text s ∧ (s, t) ∈ d.entries ∧ t.At p u := by
  show (object d.entries).At (k :: p) u ↔ _
  exact at_object

/-- The text at a path of keys, each key taken where it comes first. -/
def textAt? : List Key → Tree → Option String
  | [], .text s => some s
  | k :: p, .map es => (es.lookup k).bind (textAt? p)
  | _, _ => none

theorem at_of_textAt? (h : textAt? p t = some n) : t.At p (.text n) := by
  induction p generalizing t with
  | nil =>
    unfold textAt? at h
    split at h
    · rename_i s _ _
      exact congrArg Tree.text (Option.some.inj h).symm
    · simp_all
    · exact absurd h (by simp)
  | cons k p ih =>
    unfold textAt? at h
    split at h
    · simp_all
    · rename_i k' p' es heq
      obtain ⟨rfl, rfl⟩ := List.cons.inj heq
      obtain ⟨u, hu, hn⟩ := Option.bind_eq_some_iff.1 h
      obtain ⟨l₁, l₂, hl, -⟩ := List.lookup_eq_some_iff.1 hu
      exact at_map.2 ⟨u, by rw [hl]; simp, ih hn⟩
    · exact absurd h (by simp)

/-! ## Entries -/

theorem mem_unless {c : Prop} [Decidable c] {x : Tree} :
    (s, t) ∈ (if c then [] else [(key, x)]) ↔ s = key ∧ ¬ c ∧ t = x := by
  by_cases hc : c
  · simp [hc]
  · simp [hc]

theorem mem_textEntry {value : String} :
    (s, t) ∈ textEntry key value ↔ s = key ∧ value ≠ "" ∧ t = .text value :=
  mem_unless

theorem mem_optionEntry {α : Type} {f : α → Tree} {value : Option α} :
    (s, t) ∈ optionEntry key f value ↔ s = key ∧ ∃ a, value = some a ∧ t = f a := by
  cases value with
  | none => simp [optionEntry]
  | some a => simp [optionEntry]

theorem mem_examplesEntry {es : List (String × Tree)} :
    (s, t) ∈ examplesEntry es ↔ s = "examples" ∧ es ≠ [] ∧ t = object es :=
  mem_unless

theorem mem_parametersEntry {ps : Dict String Parameter} : (s, t) ∈ parametersEntry key ps ↔
    s = key ∧ ¬ ps.isEmpty = true ∧ t = ofDict (ps.mapValues fun _ p => ofParameter p) :=
  mem_unless

theorem key_of_mem_examplesOf {es : List String} (h : (s, t) ∈ examplesOf es) :
    s = "example" ∨ s = "examples" := by
  unfold examplesOf at h
  split at h
  · exact absurd h List.not_mem_nil
  · exact .inl (Prod.mk.inj (List.mem_singleton.1 h)).1
  · exact .inr (Prod.mk.inj (List.mem_singleton.1 h)).1

/-- A parameter prints its type. -/
theorem type_at_ofParameter {q : Parameter} (h : (ofParameter q).At [.text "type"] (.text n)) :
    q.type.name = n := by
  obtain ⟨t, hmem, ht⟩ := at_object_text.1 h
  simp only [List.mem_append] at hmem
  rcases hmem with ((((h | h) | h) | h) | h) | h
  · obtain ⟨-, rfl⟩ := Prod.mk.inj (List.mem_singleton.1 h)
    exact (Tree.text.inj (at_nil.1 ht)).symm
  · exact absurd (mem_textEntry.1 h).1 (by decide)
  · split at h
    · exact absurd h List.not_mem_nil
    · exact absurd (Prod.mk.inj (List.mem_singleton.1 h)).1 (by decide)
  · split at h
    · exact absurd (Prod.mk.inj (List.mem_singleton.1 h)).1 (by decide)
    · exact absurd h List.not_mem_nil
  · exact absurd (mem_optionEntry.1 h).1 (by decide)
  · exact absurd (key_of_mem_examplesOf h) (by decide)

/-- Parameters print their types. -/
theorem type_at_parametersEntry {ps : Dict String Parameter} (h : (s, t) ∈ parametersEntry key ps)
    (ht : t.At [k, .text "type"] (.text n)) : ∃ q ∈ ps.values, q.type.name = n := by
  obtain ⟨-, -, rfl⟩ := mem_parametersEntry.1 h
  obtain ⟨name, u, -, hu, hn⟩ := at_ofDict.1 ht
  obtain ⟨⟨name, q⟩, hq, heq⟩ := List.mem_map.1 hu
  obtain ⟨rfl, rfl⟩ := Prod.mk.inj heq
  exact ⟨q, List.mem_map_of_mem hq, type_at_ofParameter hn⟩

/-! ## Bodies and responses -/

theorem mem_values_ofProperties {ps : Dict String Parameter} (h : t ∈ (ofProperties ps).values) :
    ∃ q ∈ ps.values, t = ofParameter q := by
  have ht := Dict.mem_values_ofList h
  rw [List.map_map] at ht
  obtain ⟨e, he, rfl⟩ := List.mem_map.1 ht
  exact ⟨e.2, List.mem_map_of_mem he, rfl⟩

/-- The body prints the type of a single parameter, or that it is an object. -/
theorem type_at_ofBody {ps : Dict String Parameter} {es : List (String × Tree)}
    (h : (ofBody ps es).At [.text "type"] (.text n)) :
    n = "object" ∨ ∃ q ∈ ps.values, q.type.name = n := by
  obtain ⟨t, hmem, ht⟩ := at_object_text.1 h
  rcases List.mem_append.1 hmem with h | h
  · split at h
    · exact absurd h List.not_mem_nil
    · rename_i q hq
      rcases List.mem_append.1 h with h | h
      · obtain ⟨-, rfl⟩ := Prod.mk.inj (List.mem_singleton.1 h)
        exact .inr ⟨q, by rw [hq]; exact List.mem_singleton.2 rfl,
          (Tree.text.inj (at_nil.1 ht)).symm⟩
      · exact absurd (mem_textEntry.1 h).1 (by decide)
    · rcases List.mem_cons.1 h with h | h
      · obtain ⟨-, rfl⟩ := Prod.mk.inj h
        exact .inl (Tree.text.inj (at_nil.1 ht))
      · exact absurd (Prod.mk.inj (List.mem_singleton.1 h)).1 (by decide)
  · exact absurd (mem_examplesEntry.1 h).1 (by decide)

/-- The properties of the body print the types of the parameters. -/
theorem type_at_properties_ofBody {ps : Dict String Parameter} {es : List (String × Tree)}
    (h : (ofBody ps es).At [.text "properties", k, .text "type"] (.text n)) :
    ∃ q ∈ ps.values, q.type.name = n := by
  obtain ⟨t, hmem, ht⟩ := at_object_text.1 h
  rcases List.mem_append.1 hmem with h | h
  · split at h
    · exact absurd h List.not_mem_nil
    · rcases List.mem_append.1 h with h | h
      · exact absurd (Prod.mk.inj (List.mem_singleton.1 h)).1 (by decide)
      · exact absurd (mem_textEntry.1 h).1 (by decide)
    · rcases List.mem_cons.1 h with h | h
      · exact absurd (Prod.mk.inj h).1 (by decide)
      · obtain ⟨-, rfl⟩ := Prod.mk.inj (List.mem_singleton.1 h)
        obtain ⟨name, u, -, hu, hn⟩ := at_ofDict.1 ht
        obtain ⟨q, hq, rfl⟩ := mem_values_ofProperties (List.mem_map_of_mem hu)
        exact ⟨q, hq, type_at_ofParameter hn⟩
  · exact absurd (mem_examplesEntry.1 h).1 (by decide)

/-- Examples give no type to a response. -/
theorem type_addExample (part : ResponsePart) (name : String) (e : Example) :
    (part.addExample name e).type = part.type := by
  unfold ResponsePart.addExample
  split <;> rfl

/-- Only the declared response has a type. -/
theorem exists_of_type_responseParts {r : Route} {code : Nat} {part : ResponsePart}
    (h : (responseParts r).get? code = some part) (hn : part.type = some n) :
    ∃ x, r.response = some x ∧ x.type.name = n := by
  refine List.foldlRecOn r.examples.entries _ (motive := fun (d : Dict Nat ResponsePart) =>
    ∀ code part, d.get? code = some part → part.type = some n →
      ∃ x, r.response = some x ∧ x.type.name = n) ?declared (fun d hd e _ => ?step) code part h hn
  case declared =>
    intro code part h hn
    split at h
    · rename_i x hx
      rw [Dict.get?_put] at h
      split at h
      · obtain rfl := Option.some.inj h
        refine ⟨x, hx, ?_⟩
        simp only [ResponsePart.ofResponse] at hn
        split at hn
        · exact absurd hn (by simp)
        · exact Option.some.inj hn
      · exact absurd h (by simp [Dict.get?, Dict.findIn])
    · exact absurd h (by simp [Dict.get?, Dict.findIn])
  case step =>
    intro code part h hn
    split at h
    · rename_i c _
      rw [Dict.get?_put] at h
      split at h
      · obtain rfl := Option.some.inj h
        rw [type_addExample] at hn
        cases hold : d.get? c with
        | none => exact absurd hn (by simp [hold])
        | some old => exact hd c old hold (by simpa [hold] using hn)
      · exact hd code part h hn
    · exact hd code part h hn

/-- A response prints its type. -/
theorem type_at_toTree {part : ResponsePart} {media : String}
    (h : (part.toTree media).At [.text "body", k, .text "type"] (.text n)) :
    part.type = some n := by
  obtain ⟨t, hmem, ht⟩ := at_object_text.1 h
  rcases List.mem_append.1 hmem with h | h
  · exact absurd (mem_textEntry.1 h).1 (by decide)
  split at h
  · exact absurd h List.not_mem_nil
  obtain ⟨-, rfl⟩ := Prod.mk.inj (List.mem_singleton.1 h)
  obtain ⟨m, u, -, hu, hn⟩ := at_object.1 ht
  obtain ⟨-, rfl⟩ := Prod.mk.inj (List.mem_singleton.1 hu)
  obtain ⟨t, hmem, ht⟩ := at_object_text.1 hn
  rcases List.mem_append.1 hmem with h | h
  · obtain ⟨-, name, hname, rfl⟩ := mem_optionEntry.1 h
    rw [hname, Tree.text.inj (at_nil.1 ht)]
  · exact absurd (mem_examplesEntry.1 h).1 (by decide)

/-! ## Methods -/

/-- The paths in a method that lead to a type. -/
inductive MethodPlace : List Key → Prop
  | queryParameter (name : Key) : MethodPlace [.text "queryParameters", name, .text "type"]
  | body (media : Key) : MethodPlace [.text "body", media, .text "type"]
  | bodyParameter (media name : Key) :
      MethodPlace [.text "body", media, .text "properties", name, .text "type"]
  | response (code media : Key) :
      MethodPlace [.text "responses", code, .text "body", media, .text "type"]

/-- The entries of a method, by key. -/
theorem at_ofMethod {r : Route} {media : String} (h : (ofMethod r media).At (.text s :: p) u) :
    s ∈ ["displayName", "description"] ∨
    (s = "queryParameters" ∧ ∃ t, (s, t) ∈ parametersEntry s r.queryParameters ∧ t.At p u) ∨
    (s = "body" ∧ (object [(media, ofBody r.bodyParameters (requestExamples r))]).At p u) ∨
    (s = "responses" ∧ (map ((responseParts r).entries.map fun e =>
      (.int (Int.ofNat e.1), e.2.toTree media))).At p u) := by
  obtain ⟨t, hmem, ht⟩ := at_object_text.1 h
  simp only [List.mem_append] at hmem
  rcases hmem with (((h | h) | h) | h) | h
  · rw [(mem_textEntry.1 h).1]
    exact .inl (by simp)
  · rw [(mem_textEntry.1 h).1]
    exact .inl (by simp)
  · obtain rfl := (mem_parametersEntry.1 h).1
    exact .inr (.inl ⟨rfl, t, h, ht⟩)
  · split at h
    · exact absurd h List.not_mem_nil
    · obtain ⟨rfl, rfl⟩ := Prod.mk.inj (List.mem_singleton.1 h)
      exact .inr (.inr (.inl ⟨rfl, ht⟩))
  · split at h
    · exact absurd h List.not_mem_nil
    · obtain ⟨rfl, rfl⟩ := Prod.mk.inj (List.mem_singleton.1 h)
      exact .inr (.inr (.inr ⟨rfl, ht⟩))

/-- **A method prints types of its route**, or the word for objects. -/
theorem type_at_ofMethod {r : Route} {media : String} (hp : MethodPlace p)
    (h : (ofMethod r media).At p (.text n)) : n = "object" ∨ ∃ t ∈ r.types, t.name = n := by
  cases hp with
  | queryParameter name =>
    rcases at_ofMethod h with h | ⟨-, t, ht, hn⟩ | ⟨h, -⟩ | ⟨h, -⟩
    · exact absurd h (by decide)
    · obtain ⟨q, hq, rfl⟩ := type_at_parametersEntry ht hn
      exact .inr ⟨_, Route.mem_types_of_mem_values .query hq, rfl⟩
    · exact absurd h (by decide)
    · exact absurd h (by decide)
  | body media' =>
    rcases at_ofMethod h with h | ⟨h, -⟩ | ⟨-, h⟩ | ⟨h, -⟩
    · exact absurd h (by decide)
    · exact absurd h (by decide)
    · obtain ⟨m, t, -, hmem, ht⟩ := at_object.1 h
      obtain ⟨-, rfl⟩ := Prod.mk.inj (List.mem_singleton.1 hmem)
      refine (type_at_ofBody ht).imp_right ?_
      rintro ⟨q, hq, rfl⟩
      exact ⟨_, Route.mem_types_of_mem_values .body hq, rfl⟩
    · exact absurd h (by decide)
  | bodyParameter media' name =>
    rcases at_ofMethod h with h | ⟨h, -⟩ | ⟨-, h⟩ | ⟨h, -⟩
    · exact absurd h (by decide)
    · exact absurd h (by decide)
    · obtain ⟨m, t, -, hmem, ht⟩ := at_object.1 h
      obtain ⟨-, rfl⟩ := Prod.mk.inj (List.mem_singleton.1 hmem)
      obtain ⟨q, hq, rfl⟩ := type_at_properties_ofBody ht
      exact .inr ⟨_, Route.mem_types_of_mem_values .body hq, rfl⟩
    · exact absurd h (by decide)
  | response code media' =>
    rcases at_ofMethod h with h | ⟨h, -⟩ | ⟨h, -⟩ | ⟨-, h⟩
    · exact absurd h (by decide)
    · exact absurd h (by decide)
    · exact absurd h (by decide)
    · obtain ⟨t, hmem, ht⟩ := at_map.1 h
      obtain ⟨⟨c, part⟩, he, heq⟩ := List.mem_map.1 hmem
      obtain ⟨-, rfl⟩ := Prod.mk.inj heq
      obtain ⟨x, hx, rfl⟩ :=
        exists_of_type_responseParts (Dict.get?_eq_some_iff.2 he) (type_at_toTree ht)
      exact .inr ⟨_, Route.mem_types_of_response hx, rfl⟩

/-! ## Resources -/

def methodKey (method : String) : String := String.ofList (method.toList.map Chars.asciiLower)

/-- A key that begins with a slash, as those of resources do. -/
def Key.IsPath : Key → Prop
  | .text s => s.toList.head? = some '/'
  | .int _ => False

/-- The paths in a resource that lead to a type. -/
inductive ResourcePlace : List Key → Prop
  | uriParameter (name : Key) : ResourcePlace [.text "uriParameters", name, .text "type"]
  | method {m : String} {p : List Key} : m ∈ Endpoint.methods → MethodPlace p →
      ResourcePlace (.text (methodKey m) :: p)
  | child {k : Key} {p : List Key} : k.IsPath → ResourcePlace p → ResourcePlace (k :: p)

end Tree

/-! ## Types of resources -/

namespace ResourceNode

def types (node : ResourceNode) : List Descriptor :=
  node.uriParameters.values.map Parameter.type ++ node.methods.values.flatMap Route.types

/-- The types of the nodes of a forest are types of the routes. -/
theorem exists_of_mem_types {routes : List Route} {node : ResourceNode} {t : Descriptor}
    (h : node ∈ walkAll (forest routes)) (ht : t ∈ node.types) : ∃ r ∈ routes, t ∈ r.types := by
  obtain ⟨uri, entry, children, hentry, rfl⟩ := exists_of_mem_forest h
  obtain ⟨-, hfrom⟩ := ResourceEntry.fromRoutes_index hentry
  rcases List.mem_append.1 ht with ht | ht
  · obtain ⟨p, hp, rfl⟩ := List.mem_map.1 ht
    obtain ⟨r, hr, -, hp⟩ := hfrom.uriParameters p (mem_uriParameters_ofEntry hp)
    exact ⟨r, hr, Route.mem_types_of_mem_values .uri hp⟩
  · obtain ⟨r, hr, ht⟩ := List.mem_flatMap.1 ht
    exact ⟨r, (hfrom.methods r hr).1, ht⟩

/-- The paths of the nodes of a forest begin with a slash, if the resources do. -/
theorem head?_key_of_mem_forest {routes : List Route} {node : ResourceNode}
    (hroutes : ∀ r ∈ routes, r.resource.toList.head? = some '/')
    (h : node ∈ walkAll (forest routes)) : node.key.toList.head? = some '/' := by
  obtain ⟨uri, entry, children, hentry, rfl⟩ := exists_of_mem_forest h
  obtain ⟨⟨r, hr, rfl⟩, -⟩ := ResourceEntry.fromRoutes_index hentry
  exact head?_key_ofEntry (hroutes r hr)

end ResourceNode

namespace Tree

variable {k : Key} {p : List Key} {u : Tree} {s n : String} {t : Tree}

theorem mem_ofNodes {media : String} {nodes : List ResourceNode} :
    (s, t) ∈ ofNodes media nodes ↔ ∃ node ∈ nodes, node.key = s ∧ ofNode media node = t := by
  induction nodes with
  | nil => simp [ofNodes]
  | cons node nodes ih => simp [ofNodes, ih, eq_comm]

theorem mem_methodEntries {methods : Dict String Route} {media : String}
    (h : (s, t) ∈ methodEntries methods media) :
    ∃ m ∈ Endpoint.methods, ∃ r ∈ methods.values, s = methodKey m ∧ t = ofMethod r media := by
  obtain ⟨m, hm, hr⟩ := List.mem_filterMap.1 h
  obtain ⟨r, hget, heq⟩ := Option.map_eq_some_iff.1 hr
  obtain ⟨rfl, rfl⟩ := Prod.mk.inj heq
  exact ⟨m, hm, r, Dict.mem_values_iff.2 ⟨m, hget⟩, rfl, rfl⟩

/-- No key of a method is that of the parameters, or begins with a slash. -/
theorem methodKey_closed : ∀ m ∈ Endpoint.methods,
    methodKey m ≠ "uriParameters" ∧ (methodKey m).toList.head? ≠ some '/' := by
  decide

/-- The entries of a resource, by key. -/
theorem at_ofNode {media : String} {node : ResourceNode}
    (h : (ofNode media node).At (.text s :: p) u) :
    (s = "uriParameters" ∧ ∃ t, (s, t) ∈ parametersEntry s node.uriParameters ∧ t.At p u) ∨
    (∃ m ∈ Endpoint.methods, ∃ r ∈ node.methods.values,
      s = methodKey m ∧ (ofMethod r media).At p u) ∨
    ∃ c ∈ node.children, c.key = s ∧ (ofNode media c).At p u := by
  obtain ⟨uri, key, methods, ps, children⟩ := node
  obtain ⟨t, hmem, ht⟩ := at_object_text.1 h
  simp only [List.mem_append] at hmem
  rcases hmem with (h | h) | h
  · obtain rfl := (mem_parametersEntry.1 h).1
    exact .inl ⟨rfl, t, h, ht⟩
  · obtain ⟨m, hm, r, hr, rfl, rfl⟩ := mem_methodEntries h
    exact .inr (.inl ⟨m, hm, r, hr, rfl, ht⟩)
  · rw [sortEntries, List.mem_mergeSort, mem_ofNodes] at h
    obtain ⟨c, hc, rfl, rfl⟩ := h
    exact .inr (.inr ⟨c, hc, rfl, ht⟩)

/-- **A resource prints types of its nodes**, or the word for objects.  The induction is on the way
down to the resource that prints the type. -/
theorem type_at_ofNode {media : String} {node : ResourceNode} (hp : ResourcePlace p)
    (hpaths : ∀ m ∈ ResourceNode.walkAll node.children, m.key.toList.head? = some '/')
    (h : (ofNode media node).At p (.text n)) :
    n = "object" ∨ ∃ m ∈ node.walk, ∃ t ∈ m.types, t.name = n := by
  induction hp generalizing node with
  | uriParameter name =>
    rcases at_ofNode h with ⟨-, t, ht, hn⟩ | ⟨m, hm, r, -, hs, -⟩ | ⟨c, hc, hs, -⟩
    · obtain ⟨q, hq, rfl⟩ := type_at_parametersEntry ht hn
      exact .inr ⟨node, node.mem_walk_self, q.type,
        List.mem_append_left _ (List.mem_map_of_mem hq), rfl⟩
    · exact absurd hs.symm (methodKey_closed m hm).1
    · have hslash := hpaths c (ResourceNode.mem_walkAll_of_mem hc)
      rw [hs] at hslash
      exact absurd hslash (by decide)
  | @method m p hm hp =>
    rcases at_ofNode h with ⟨hs, -⟩ | ⟨m', -, r, hr, -, hn⟩ | ⟨c, hc, hs, -⟩
    · exact absurd hs (methodKey_closed m hm).1
    · refine (type_at_ofMethod hp hn).imp_right ?_
      rintro ⟨t, ht, rfl⟩
      exact ⟨node, node.mem_walk_self, t,
        List.mem_append_right _ (List.mem_flatMap.2 ⟨r, hr, ht⟩), rfl⟩
    · have hslash := hpaths c (ResourceNode.mem_walkAll_of_mem hc)
      rw [hs] at hslash
      exact absurd hslash (methodKey_closed m hm).2
  | @child k p hk hp ih =>
    obtain s | i := k
    · rcases at_ofNode h with ⟨rfl, -⟩ | ⟨m, hm, r, -, rfl, -⟩ | ⟨c, hc, rfl, hn⟩
      · exact absurd hk (by simp [Key.IsPath])
      · exact absurd hk (methodKey_closed m hm).2
      · refine (ih (fun m hm => hpaths m (ResourceNode.mem_walkAll_children hc hm)) hn).imp_right ?_
        rintro ⟨m, hm, ht⟩
        exact ⟨m, ResourceNode.mem_walk_of_mem_children hc hm, ht⟩
    · exact absurd hk id

/-! ## Documents -/

/-- The paths in a document that lead to a type. -/
inductive TypePlace : List Key → Prop
  | property (name field : Key) : TypePlace [.text "types", name, .text "properties", field]
  | resource {k : Key} {p : List Key} : k.IsPath → ResourcePlace p → TypePlace (k :: p)

theorem mem_values_ofFields {fields : List StructField} (h : t ∈ (ofFields fields).values) :
    ∃ f ∈ fields, t = .text f.type.name := by
  have ht := Dict.mem_values_ofList h
  rw [List.map_map] at ht
  obtain ⟨f, hf, rfl⟩ := List.mem_map.1 ht
  exact ⟨f, hf, rfl⟩

/-- The properties of a type print the types of its definition. -/
theorem type_at_ofDefinition {d : Definition}
    (h : (ofDefinition d).At [.text "properties", k] (.text n)) : ∃ t ∈ d.types, t.name = n := by
  cases d with
  | primitive q =>
    obtain ⟨t, hmem, -⟩ := at_object_text.1 h
    simp only [List.mem_append] at hmem
    rcases hmem with (((h | h) | h) | h) | h
    · exact absurd (Prod.mk.inj (List.mem_singleton.1 h)).1 (by decide)
    · exact absurd (mem_textEntry.1 h).1 (by decide)
    · exact absurd (mem_textEntry.1 h).1 (by decide)
    · exact absurd (mem_optionEntry.1 h).1 (by decide)
    · exact absurd (mem_optionEntry.1 h).1 (by decide)
  | map m =>
    obtain ⟨t, hmem, ht⟩ := at_object_text.1 h
    simp only [List.mem_cons, List.not_mem_nil, or_false, Prod.mk.injEq] at hmem
    obtain ⟨h, -⟩ | ⟨-, rfl⟩ | ⟨h, -⟩ := hmem
    · exact absurd h (by decide)
    · obtain ⟨pattern, u, -, hu, hn⟩ := at_object.1 ht
      obtain ⟨-, rfl⟩ := Prod.mk.inj (List.mem_singleton.1 hu)
      exact ⟨m.value, List.mem_singleton.2 rfl, (Tree.text.inj (at_nil.1 hn)).symm⟩
    · exact absurd h (by decide)
  | struct q =>
    obtain ⟨t, hmem, ht⟩ := at_object_text.1 h
    simp only [List.mem_cons, List.not_mem_nil, or_false, Prod.mk.injEq] at hmem
    obtain ⟨h, -⟩ | ⟨-, rfl⟩ := hmem
    · exact absurd h (by decide)
    · obtain ⟨field, u, -, hu, hn⟩ := at_ofDict.1 ht
      obtain ⟨f, hf, rfl⟩ := mem_values_ofFields (List.mem_map_of_mem hu)
      exact ⟨f.type, List.mem_map_of_mem hf, (Tree.text.inj (at_nil.1 hn)).symm⟩

def headKeys : List String := ["title", "description", "version", "baseUri", "mediaType"]

/-- The entries of a document, by key. -/
theorem at_ofDocument {d : Document} (h : (ofDocument d).At (.text s :: p) u) :
    s ∈ headKeys ∨
    (s = "types" ∧
      (object (sortEntries (d.types.entries.map fun e => (e.1, ofDefinition e.2)))).At p u) ∨
    ∃ node ∈ d.resources, node.key = s ∧ (ofNode d.settings.mediaType node).At p u := by
  obtain ⟨t, hmem, ht⟩ := at_object_text.1 h
  simp only [List.mem_append, List.mem_cons, List.not_mem_nil, or_false, Prod.mk.injEq] at hmem
  rcases hmem with (((⟨rfl, -⟩ | h) | ⟨rfl, -⟩ | ⟨rfl, -⟩ | ⟨rfl, -⟩) | h) | h
  · exact .inl (by decide)
  · obtain ⟨rfl, -⟩ := mem_textEntry.1 h
    exact .inl (by decide)
  · exact .inl (by decide)
  · exact .inl (by decide)
  · exact .inl (by decide)
  · unfold typesEntry at h
    split at h
    · exact absurd h List.not_mem_nil
    · obtain ⟨rfl, rfl⟩ := Prod.mk.inj (List.mem_singleton.1 h)
      exact .inr (.inl ⟨rfl, ht⟩)
  · obtain ⟨node, hnode, rfl, rfl⟩ := mem_ofNodes.1 h
    exact .inr (.inr ⟨node, hnode, rfl, ht⟩)

/-- No key of the head begins with a slash. -/
theorem head?_of_headKeys : ∀ s ∈ headKeys, s.toList.head? ≠ some '/' := by
  decide

/-- **A document prints types of its definitions and of its resources**, or the word for objects. -/
theorem type_at_ofDocument {d : Document} (hp : TypePlace p)
    (hpaths : ∀ m ∈ ResourceNode.walkAll d.resources, m.key.toList.head? = some '/')
    (h : (ofDocument d).At p (.text n)) : n = "object" ∨
      (∃ e ∈ d.types.values, ∃ t ∈ e.types, t.name = n) ∨
      ∃ m ∈ ResourceNode.walkAll d.resources, ∃ t ∈ m.types, t.name = n := by
  cases hp with
  | property name field =>
    rcases at_ofDocument h with h | ⟨-, h⟩ | ⟨node, hnode, hs, -⟩
    · exact absurd h (by decide)
    · obtain ⟨s, t, -, hmem, ht⟩ := at_object.1 h
      rw [sortEntries, List.mem_mergeSort] at hmem
      obtain ⟨⟨s, e⟩, he, heq⟩ := List.mem_map.1 hmem
      obtain ⟨rfl, rfl⟩ := Prod.mk.inj heq
      exact .inr (.inl ⟨e, List.mem_map_of_mem he, type_at_ofDefinition ht⟩)
    · have hslash := hpaths node (ResourceNode.mem_walkAll_of_mem hnode)
      rw [hs] at hslash
      exact absurd hslash (by decide)
  | @resource k p hk hp =>
    obtain s | i := k
    · rcases at_ofDocument h with hs | ⟨rfl, -⟩ | ⟨node, hnode, rfl, hn⟩
      · exact absurd hk (head?_of_headKeys s hs)
      · exact absurd hk (by simp [Key.IsPath])
      · have hbelow := type_at_ofNode hp
          (fun m hm => hpaths m (ResourceNode.mem_walkAll_children hnode hm)) hn
        refine hbelow.imp_right ?_
        rintro ⟨m, hm, ht⟩
        exact .inr ⟨m, ResourceNode.mem_walkAll_iff.2 ⟨node, hnode, hm⟩, ht⟩
    · exact absurd hk id

end Tree

end RouteDoc
