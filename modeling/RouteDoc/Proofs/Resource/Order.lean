import RouteDoc.Proofs.Resource.Nesting
import Mathlib.Data.List.Forall2

/-!
# The order of the routes

The resources are put in their own order before they are nested, so the order in which the routes
come does not matter, as long as no two of them have the same method and resource.

* `Resource.sort_eq_of_perm`: resources have one order.
* `ResourceEntry.Alike`: two entries have the same route for each method, and parameters of the same
  names.  `ResourceEntry.alike_index`: so have those of the same routes in another order.
* `ResourceNode.Alike`: two nodes are the roots of the same tree, with such entries in it.
* `ResourceNode.forest_perm`: **routes in another order are nested in the same way.**
-/

namespace RouteDoc

/-! ## The order of resources -/

namespace Resource

variable {us vs : List String}

theorem before_antisymm {a b : String} (hab : before a b = true) (hba : before b a = true) :
    a = b := by
  simp only [before, Bool.or_eq_true, Bool.and_eq_true, decide_eq_true_eq, beq_iff_eq] at hab hba
  rcases hab with hab | ⟨heq, hle⟩
  · rcases hba with hba | ⟨heq, -⟩ <;> omega
  · exact String.le_antisymm hle (hba.resolve_left (by omega)).2

theorem sorted_sort (us : List String) : (sort us).Pairwise fun u v => before u v = true :=
  List.pairwise_mergeSort before_trans before_total us

theorem sort_eq_of_pairwise (h : us.Perm vs) (hvs : vs.Pairwise fun u v => before u v = true) :
    sort us = vs :=
  ((List.mergeSort_perm us _).trans h).eq_of_pairwise (fun _ _ _ _ => before_antisymm)
    (sorted_sort us) hvs

/-- Resources have one order. -/
theorem sort_eq_of_perm (h : us.Perm vs) : sort us = sort vs :=
  sort_eq_of_pairwise (h.trans (List.mergeSort_perm vs _).symm) (sorted_sort vs)

end Resource

/-! ## Entries -/

namespace ResourceEntry

variable {routes routes' : List Route} {uri : String}

/-- Two entries have the same route for each method, and parameters of the same names. -/
structure Alike (e e' : ResourceEntry) : Prop where
  methods : ∀ m, e.methods.get? m = e'.methods.get? m
  uriParameters : ∀ p, p ∈ e.uriParameters.keys ↔ p ∈ e'.uriParameters.keys

/-- The names of the parameters are those of the routes of the resource. -/
theorem mem_uriParameters_index (routes : List Route) (uri p : String) :
    p ∈ (((index routes).get? uri).getD {}).uriParameters.keys ↔
      ∃ r ∈ routes, r.resource = uri ∧ p ∈ r.uriParameters.keys := by
  induction routes using List.reverseRecOn with
  | nil => simp [index, Dict.get?, Dict.findIn]
  | append_singleton routes r ih =>
    rw [index_append_singleton, Dict.get?_put]
    by_cases huri : r.resource = uri
    · subst huri
      rw [if_pos rfl, Option.getD_some, add, Dict.mem_keys_union, ih]
      simp only [List.mem_append, List.mem_singleton]
      constructor
      · rintro (⟨s, hs, hres, hp⟩ | hp)
        · exact ⟨s, .inl hs, hres, hp⟩
        · exact ⟨r, .inr rfl, rfl, hp⟩
      · rintro ⟨s, hs | rfl, hres, hp⟩
        · exact .inl ⟨s, hs, hres, hp⟩
        · exact .inr hp
    · rw [if_neg huri, ih]
      simp only [List.mem_append, List.mem_singleton]
      constructor
      · rintro ⟨s, hs, hres, hp⟩
        exact ⟨s, .inl hs, hres, hp⟩
      · rintro ⟨s, hs | rfl, hres, hp⟩
        · exact ⟨s, hs, hres, hp⟩
        · exact absurd hres huri

/-- Of routes with different methods or resources, one at most has a given resource and method. -/
theorem getLast?_filter_of_perm (h : routes.Perm routes')
    (hnodup : (routes.map fun r => (r.method, r.resource)).Nodup) (m : String) :
    (routes.filter fun r => r.resource = uri ∧ r.method = m).getLast? =
      (routes'.filter fun r => r.resource = uri ∧ r.method = m).getLast? := by
  have hperm := h.filter fun r => r.resource = uri ∧ r.method = m
  have hsame : ∀ r ∈ routes.filter fun r => r.resource = uri ∧ r.method = m,
      r.resource = uri ∧ r.method = m := fun r hr => by
    simpa using (List.mem_filter.1 hr).2
  have hdiff := (List.pairwise_map.1 hnodup).filter fun r => r.resource = uri ∧ r.method = m
  generalize routes.filter (fun r => r.resource = uri ∧ r.method = m) = found at *
  match found with
  | [] => rw [hperm.nil_eq]
  | [r] => rw [List.singleton_perm.1 hperm]
  | r :: s :: rest =>
    have hr := hsame r (by simp)
    have hs := hsame s (by simp)
    have hpair : (r.method, r.resource) = (s.method, s.resource) := by
      rw [hr.1, hr.2, hs.1, hs.2]
    exact absurd hpair (List.rel_of_pairwise_cons hdiff List.mem_cons_self)

/-- The same routes in another order give the same entries. -/
theorem alike_index (h : routes.Perm routes')
    (hnodup : (routes.map fun r => (r.method, r.resource)).Nodup) (uri : String) :
    Alike (((index routes).get? uri).getD {}) (((index routes').get? uri).getD {}) where
  methods m := by
    have hget : ∀ o : Option ResourceEntry, (o.getD {}).methods.get? m = o.bind (·.methods.get? m) := by
      rintro (_ | e) <;> rfl
    rw [hget, hget, methods_index, methods_index, getLast?_filter_of_perm h hnodup]
  uriParameters p := by
    simp only [mem_uriParameters_index, h.mem_iff]

end ResourceEntry

/-! ## Nodes -/

namespace ResourceNode

variable {uris uris' us : List String} {index index' : Dict String ResourceEntry}
  {routes routes' : List Route}

/-- Two nodes are the roots of the same tree: they have the same resource and key, the same route
for each method, parameters of the same names, and below them stand such nodes in the same order. -/
inductive Alike : ResourceNode → ResourceNode → Prop
  | node {uri key : String} {ms ms' : Dict String Route} {ps ps' : Dict String Parameter}
      {cs cs' : List ResourceNode} (methods : ∀ m, ms.get? m = ms'.get? m)
      (uriParameters : ∀ p, p ∈ ps.keys ↔ p ∈ ps'.keys) (children : List.Forall₂ Alike cs cs') :
      Alike (.node uri key ms ps cs) (.node uri key ms' ps' cs')

theorem Alike.uri_eq {n n' : ResourceNode} (h : Alike n n') : n.uri = n'.uri := by
  cases h
  rfl

theorem Alike.children {n n' : ResourceNode} (h : Alike n n') :
    List.Forall₂ Alike n.children n'.children := by
  cases h
  assumption

theorem alike_ofEntry {uri : String} {e e' : ResourceEntry} {cs cs' : List ResourceNode}
    (huris : ∀ u, u ∈ uris ↔ u ∈ uris') (he : e.Alike e') (hcs : List.Forall₂ Alike cs cs') :
    Alike (ofEntry uris uri e cs) (ofEntry uris' uri e' cs') := by
  simp only [ofEntry, Resource.parent?_congr huris]
  refine .node he.methods (fun p => ?_) hcs
  rw [Dict.mem_keys_filter, Dict.mem_keys_filter, he.uriParameters]

/-- Alike entries are attached to alike nodes. -/
theorem alike_attached (huris : ∀ u, u ∈ uris ↔ u ∈ uris')
    (hindex : ∀ u, ((index.get? u).getD {}).Alike ((index'.get? u).getD {})) (us : List String) :
    List.Forall₂ Alike (attached uris index us) (attached uris' index' us) := by
  induction us with
  | nil => exact .nil
  | cons u us ih =>
    have hbelow : ∀ n n', Alike n n' → IsBelow uris u n = IsBelow uris' u n' := fun n n' h => by
      rw [IsBelow, IsBelow, Resource.above, Resource.above, h.uri_eq, Resource.parent?_congr huris]
    rw [attached, List.foldr_cons, attach_eq, attached, List.foldr_cons, attach_eq]
    refine .cons (alike_ofEntry huris (hindex u) ?_) ?_
    · exact List.rel_filter (fun n n' h => by simp [hbelow n n' h]) ih
    · exact List.rel_filter (fun n n' h => by simp [hbelow n n' h]) ih

theorem exists_of_mem_of_forall₂ {n : ResourceNode} {ns ns' : List ResourceNode}
    (h : List.Forall₂ Alike ns ns') (hn : n ∈ ns) : ∃ n' ∈ ns', Alike n n' := by
  obtain ⟨i, hi, rfl⟩ := List.mem_iff_getElem.1 hn
  exact ⟨_, List.getElem_mem _, h.get hi (h.length_eq ▸ hi)⟩

/-- In alike trees, the way down to a node leads through alike nodes. -/
theorem exists_leads_of_alike {roots roots' path : List ResourceNode} {n : ResourceNode}
    (h : List.Forall₂ Alike roots roots') (hn : Leads roots path n) :
    ∃ path' n', Leads roots' path' n' ∧ Alike n n' ∧ List.Forall₂ Alike path path' := by
  induction hn with
  | root hn =>
    obtain ⟨n', hn', halike⟩ := exists_of_mem_of_forall₂ h hn
    exact ⟨[n'], n', .root hn', halike, .cons halike .nil⟩
  | child _ hm ih =>
    obtain ⟨path', n', hlead, hn', hpath⟩ := ih
    obtain ⟨m', hm', halike⟩ := exists_of_mem_of_forall₂ hn'.children hm
    exact ⟨path' ++ [m'], m', hlead.child hm', halike, List.rel_append hpath (.cons halike .nil)⟩

/-- **Routes in another order are nested in the same way**, if no two of them have the same method
and resource: the trees are the same, and so is the way down to each node. -/
theorem forest_perm (h : routes.Perm routes')
    (hnodup : (routes.map fun r => (r.method, r.resource)).Nodup) :
    List.Forall₂ Alike (forest routes) (forest routes') ∧
      ∀ path n, Leads (forest routes) path n → ∃ path' n', Leads (forest routes') path' n' ∧
        Alike n n' ∧ List.Forall₂ Alike path path' := by
  have hkeys : ∀ u, u ∈ (ResourceEntry.index routes).keys ↔
      u ∈ (ResourceEntry.index routes').keys := fun u => by
    rw [ResourceEntry.mem_keys_index, ResourceEntry.mem_keys_index, (h.map _).mem_iff]
  have hsort : Resource.sort (ResourceEntry.index routes).keys =
      Resource.sort (ResourceEntry.index routes').keys :=
    Resource.sort_eq_of_perm
      ((List.perm_ext_iff_of_nodup (Dict.keys_nodup _) (Dict.keys_nodup _)).2 hkeys)
  have hforest : List.Forall₂ Alike (forest routes) (forest routes') := by
    rw [forest_eq, forest_eq, hsort]
    exact alike_attached hkeys (ResourceEntry.alike_index h hnodup) _
  exact ⟨hforest, fun path n hn => exists_leads_of_alike hforest hn⟩

/-- A resource with two methods that describe its parameter differently, and routes of the resources
around it: in the reverse order, the parameter is described otherwise, and all else is the same. -/
theorem forest_perm_books : ∃ routes : List Route,
    (routes.map fun r => (r.method, r.resource)).Nodup ∧
    List.Forall₂ Alike (forest routes) (forest routes.reverse) ∧
    (walkAll (forest routes)).map key = ["/authors", "/books", "/{id}", "/pages"] ∧
    (walkAll (forest routes)).map uriParameters ≠
      (walkAll (forest routes.reverse)).map uriParameters := by
  let id (description : String) : Dict String Parameter :=
    Dict.ofList [("id", { name := "id", type := { kind := .scalar, name := "integer" }, description })]
  let routes : List Route :=
    [{ method := "GET", resource := "/books/{id}/pages" },
      { method := "GET", resource := "/books/{id}", uriParameters := id "The book" },
      { method := "GET", resource := "/authors" },
      { method := "DELETE", resource := "/books/{id}", uriParameters := id "Any book" },
      { method := "GET", resource := "/books" }]
  have hnodup : (routes.map fun r => (r.method, r.resource)).Nodup := by decide
  have hperm : routes.Perm routes.reverse := (List.reverse_perm routes).symm
  have hsorted : ["/authors", "/books", "/books/{id}", "/books/{id}/pages"].Pairwise
      fun u v => Resource.before u v = true := by
    decide +kernel
  have hsort : Resource.sort (ResourceEntry.index routes).keys =
      ["/authors", "/books", "/books/{id}", "/books/{id}/pages"] :=
    Resource.sort_eq_of_pairwise (by decide +kernel) hsorted
  have hsort' : Resource.sort (ResourceEntry.index routes.reverse).keys =
      ["/authors", "/books", "/books/{id}", "/books/{id}/pages"] :=
    Resource.sort_eq_of_pairwise (by decide +kernel) hsorted
  refine ⟨routes, hnodup, (forest_perm hperm hnodup).1, ?_, ?_⟩
  · rw [forest_eq, hsort]
    decide +kernel
  · rw [forest_eq, forest_eq, hsort, hsort']
    decide +kernel

end ResourceNode

end RouteDoc
