import RouteDoc.Proofs.Documentation.Submission
import RouteDoc.Proofs.Raml.Endpoint

/-!
# Rendering of the routes that are held

* `ResourceNode.perm_flatMap_endpoints_forest`: the nodes of a forest have each of its routes once,
  when no two of them have the same signature.
* `Tree.Shows`: a tree shows each route once, under its signature, and no key stands twice.
* `Documentation.shows_build_after`: **the document shows each route that is held, and no other.**
-/

namespace RouteDoc

/-! ## Forests -/

namespace ResourceNode

variable {routes : List Route} {n : ResourceNode} {r : Route} {media : String}

/-- The routes of a node, in the order of the methods. -/
def endpoints (n : ResourceNode) : List Route := Endpoint.methods.filterMap n.methods.get?

theorem mem_endpoints : r ∈ n.endpoints ↔ ∃ m ∈ Endpoint.methods, n.methods.get? m = some r :=
  List.mem_filterMap

/-- A node of a forest has routes of the forest, of its resource, under their methods. -/
theorem of_methods_get? {m : String} (hn : n ∈ walkAll (forest routes))
    (h : n.methods.get? m = some r) : r ∈ routes ∧ r.resource = n.uri ∧ r.method = m := by
  rw [methods_eq hn] at h
  simpa using List.mem_of_getLast? h

theorem of_mem_endpoints (hn : n ∈ walkAll (forest routes)) (h : r ∈ n.endpoints) :
    r ∈ routes ∧ r.resource = n.uri := by
  obtain ⟨m, -, hm⟩ := mem_endpoints.1 h
  obtain ⟨hr, huri, -⟩ := of_methods_get? hn hm
  exact ⟨hr, huri⟩

theorem nodup_endpoints (hn : n ∈ walkAll (forest routes)) : n.endpoints.Nodup := by
  refine List.Nodup.filterMap (fun m m' r hm hm' => ?_) (by decide)
  rw [← (of_methods_get? hn hm).2.2, (of_methods_get? hn hm').2.2]

/-- A route whose signature no other has is the one of its method at its resource. -/
theorem exists_mem_endpoints (hsignatures : (routes.map Route.signature).Nodup)
    (hmethod : r.method ∈ Endpoint.methods) (hr : r ∈ routes) :
    ∃ n ∈ walkAll (forest routes), r ∈ n.endpoints := by
  obtain ⟨n, hn, huri⟩ := List.mem_map.1 (mem_uris_forest.2 (List.mem_map_of_mem hr))
  refine ⟨n, hn, mem_endpoints.2 ⟨r.method, hmethod, ?_⟩⟩
  have hsome : (n.methods.get? r.method).isSome := by
    rw [methods_eq hn, List.getLast?_isSome]
    exact List.ne_nil_of_mem (List.mem_filter.2 ⟨hr, by simp [huri]⟩)
  obtain ⟨s, hs⟩ := Option.isSome_iff_exists.1 hsome
  obtain ⟨hmem, hresource, hsame⟩ := of_methods_get? hn hs
  have hsignature : s.signature = r.signature := by
    rw [Route.signature, Route.signature, hsame, hresource, huri]
  obtain rfl := List.inj_on_of_nodup_map hsignatures hmem hr hsignature
  exact hs

/-- **The nodes of a forest have each route once**, when no two have the same signature. -/
theorem perm_flatMap_endpoints_forest (hsignatures : (routes.map Route.signature).Nodup)
    (hmethods : ∀ r ∈ routes, r.method ∈ Endpoint.methods) :
    ((walkAll (forest routes)).flatMap endpoints).Perm routes := by
  refine (List.perm_ext_iff_of_nodup ?_ (.of_map _ hsignatures)).2 fun r => ?_
  · refine List.nodup_flatMap.2 ⟨fun n hn => nodup_endpoints hn, ?_⟩
    -- a route stands at one resource only
    refine (List.pairwise_map.1 (nodup_uris_forest routes)).imp_of_mem fun hn hm hne r hr hr' => ?_
    exact hne ((of_mem_endpoints hn hr).2.symm.trans (of_mem_endpoints hm hr').2)
  · rw [List.mem_flatMap]
    constructor
    · rintro ⟨n, hn, hr⟩
      exact (of_mem_endpoints hn hr).1
    · exact fun hr => exists_mem_endpoints hsignatures (hmethods r hr) hr

theorem rooted_of_mem_forest (hslash : ∀ r ∈ routes, r.resource.toList.head? = some '/')
    (hn : n ∈ forest routes) : n.Rooted := by
  intro m hm c hc
  have hm := mem_walkAll_iff.2 ⟨n, hn, hm⟩
  have hc' := mem_walkAll_of_mem_children hm hc
  exact ⟨uri_eq_append_key hm hc, head?_key_of_mem_forest hslash hc'⟩

/-- The methods of a node are shown under the signatures of its routes. -/
theorem methodsOf_eq (hn : n ∈ walkAll (forest routes)) :
    Tree.methodsOf media n = n.endpoints.map fun r => (r.signature, Tree.ofMethod r media) := by
  rw [Tree.methodsOf, endpoints, List.map_filterMap]
  refine List.filterMap_congr fun m _ => Option.map_congr fun r hr => ?_
  obtain ⟨-, huri, rfl⟩ := of_methods_get? hn hr
  rw [Route.signature, huri]

end ResourceNode

/-! ## Documents -/

/-- The tree shows each route once, under its signature, and nothing else; and no key stands twice
at its top or below the keys of resources. -/
structure Tree.Shows (t : Tree) (routes : Dict String Route) (media : String) : Prop where
  endpoints : (t.endpoints "").Perm (routes.entries.map fun e => (e.1, ofMethod e.2 media))
  keys : ∀ path es, (∀ k ∈ path, k.IsPath) → t.At path (.map es) → (es.map Prod.fst).Nodup

namespace Documentation

variable {d : Documentation}

/-- The routes that are held have different signatures. -/
theorem Held.nodup_signatures (hd : d.Held) : (d.routes.values.map Route.signature).Nodup := by
  have hkeys : d.routes.values.map Route.signature = d.routes.keys := by
    rw [Dict.values, Dict.keys, List.map_map]
    exact List.map_congr_left hd.signature
  rw [hkeys]
  exact Dict.keys_nodup _

theorem Held.rooted_values (hd : d.Held) :
    ∀ r ∈ d.routes.values, r.resource.toList.head? = some '/' := by
  intro r hr
  obtain ⟨e, he, rfl⟩ := List.mem_map.1 hr
  exact hd.rooted e he

theorem Held.map_values (hd : d.Held) (media : String) :
    d.routes.values.map (fun r => (r.signature, Tree.ofMethod r media)) =
      d.routes.entries.map fun e => (e.1, Tree.ofMethod e.2 media) := by
  rw [Dict.values, List.map_map]
  exact List.map_congr_left fun e he => by rw [Function.comp_apply, hd.signature e he]

theorem Held.shows_build (hd : d.Held) (hmethods : ∀ r ∈ d.routes.values,
    r.method ∈ Endpoint.methods) :
    (Tree.ofDocument d.build).Shows d.routes d.settings.mediaType where
  endpoints := by
    refine (Tree.perm_endpoints_ofDocument fun n hn => ?_).trans ?_
    · exact ⟨ResourceNode.key_eq_uri hn, ResourceNode.head?_key_of_mem_forest hd.rooted_values
        (ResourceNode.mem_walkAll_of_mem hn), ResourceNode.rooted_of_mem_forest hd.rooted_values hn⟩
    · rw [build, List.flatMap_congr fun n hn => ResourceNode.methodsOf_eq hn, ← List.map_flatMap,
        ← hd.map_values]
      exact (ResourceNode.perm_flatMap_endpoints_forest hd.nodup_signatures hmethods).map _
  keys path es hpath h :=
    Tree.nodup_keys_of_at (ResourceNode.nodup_keys_forest _)
      (fun n hn => ResourceNode.nodup_keys_children hn)
      (fun n hn => ResourceNode.head?_key_of_mem_forest hd.rooted_values hn) hpath h

/-- **The document shows each route that is held, and no other**, whatever routes are added.  A
signature stands for the last route that was accepted under it. -/
theorem shows_build_after (c : Context) (settings : Settings) (ss : List Submission)
    (hmethods : ∀ r ∈ ((fresh c settings).after ss).routes.values, r.method ∈ Endpoint.methods) :
    (Tree.ofDocument ((fresh c settings).after ss).build).Shows
        ((fresh c settings).after ss).routes settings.mediaType ∧
      ∀ signature, ((fresh c settings).after ss).routes.get? signature =
        (((fresh c settings).accepted ss).filter (·.signature = signature)).getLast? := by
  refine ⟨?_, routes_after _ rfl ss⟩
  have hshows := (held_after c settings ss).shows_build hmethods
  rwa [settings_after] at hshows

/-- Two routes of one resource, one of them replaced, and a resource two levels below. -/
theorem shows_build_after_books : ∃ ss : List Submission,
    (∀ r ∈ ((fresh {} {}).after ss).routes.values, r.method ∈ Endpoint.methods) ∧
    (Tree.ofDocument ((fresh {} {}).after ss).build).Shows
      ((fresh {} {}).after ss).routes "application/json" ∧
    ((fresh {} {}).after ss).routes.keys =
      ["GET /books", "POST /books", "GET /books/latest/pages"] ∧
    (((fresh {} {}).after ss).routes.get? "GET /books").map Route.name = some "All books" := by
  have hmethods : ∀ r ∈ ((fresh {} {}).after
      [{ comment := "@resource GET /books" },
        { comment := "@resource POST /books" },
        { comment := "@resource GET /books/latest/pages" },
        { comment := "All books\n\nIn any order.\n\n@resource GET /books" }]).routes.values,
      r.method ∈ Endpoint.methods := by
    decide +kernel
  refine ⟨_, hmethods, (shows_build_after {} {} _ hmethods).1, ?_, ?_⟩
  · decide +kernel
  · decide +kernel

end Documentation

end RouteDoc
