import RouteDoc.Proofs.Resource.Forest
import RouteDoc.Proofs.Resource.Parent
import Mathlib.Data.List.Induction

/-!
# Nesting of resources

The resources are attached from the greatest to the least, so that all resources below one are
there when it is.  The lemmas are about any list in which each resource comes before those attached
to it; the forest of routes is the case of all resources in their order.

* `ResourceNode.perm_uris_attached`: one node is made for each resource.
* `ResourceNode.uris_attached`, `ResourceNode.uris_children`: the resources that stand alone, and
  those below a node.
* `ResourceNode.Leads`: the way down to a node.  `ResourceNode.join_keys_of_leads`: the keys on it
  make up the resource.
* `ResourceEntry.methods_index`: the last route of a method is kept.
* `ResourceNode.Nests`: what nested resources are, for given routes.
* `ResourceNode.nests_forest`: **the forest of routes nests their resources.**
-/

namespace RouteDoc

/-! ## Entries -/

namespace ResourceEntry

theorem index_append_singleton (routes : List Route) (r : Route) :
    index (routes ++ [r]) =
      (index routes).put r.resource ((((index routes).get? r.resource).getD {}).add r) := by
  simp [index, List.foldl_append]

theorem mem_keys_index {routes : List Route} {uri : String} :
    uri ∈ (index routes).keys ↔ uri ∈ routes.map Route.resource := by
  induction routes using List.reverseRecOn with
  | nil => simp [index]
  | append_singleton routes r ih =>
    rw [index_append_singleton, Dict.mem_keys_put, ih, List.map_append, List.mem_append,
      List.map_singleton, List.mem_singleton, or_comm]

/-- The route of a method is the last one that is given for it. -/
theorem methods_index (routes : List Route) (uri m : String) :
    ((index routes).get? uri).bind (·.methods.get? m) =
      (routes.filter fun r => r.resource = uri ∧ r.method = m).getLast? := by
  induction routes using List.reverseRecOn with
  | nil => rfl
  | append_singleton routes r ih =>
    rw [index_append_singleton, Dict.get?_put, List.filter_append, List.getLast?_append, ← ih]
    by_cases huri : r.resource = uri
    · subst huri
      rw [if_pos rfl, Option.bind_some, add, Dict.get?_put]
      by_cases hm : r.method = m
      · simp [hm]
      · cases h : (index routes).get? r.resource <;> simp [hm, Dict.get?, Dict.findIn]
    · simp [huri]

end ResourceEntry

namespace ResourceNode

variable {uris : List String} {index : Dict String ResourceEntry} {us : List String}
  {uri : String} {n m : ResourceNode} {ns : List ResourceNode}

/-! ## Attaching -/

theorem walkAll_eq_flatMap (ns : List ResourceNode) : walkAll ns = ns.flatMap walk := by
  induction ns with
  | nil => rfl
  | cons n ns ih => rw [walkAll, ih, List.flatMap_cons]

/-- The nodes of some resources, attached from the last to the first. -/
def attached (uris : List String) (index : Dict String ResourceEntry) (us : List String) :
    List ResourceNode :=
  us.foldr (attach uris index) []

def IsBelow (uris : List String) (uri : String) (n : ResourceNode) : Bool :=
  Resource.above uris n.uri == some uri

theorem attach_eq (uris : List String) (index : Dict String ResourceEntry) (uri : String)
    (ns : List ResourceNode) :
    attach uris index uri ns =
      ofEntry uris uri ((index.get? uri).getD {}) (ns.filter (IsBelow uris uri)) ::
        ns.filter (!IsBelow uris uri ·) := by
  simp only [attach, List.partition_eq_filter_filter]
  rfl

theorem map_uri_filter_isBelow (ns : List ResourceNode) :
    (ns.filter (IsBelow uris uri)).map ResourceNode.uri =
      (ns.map ResourceNode.uri).filter fun u => Resource.above uris u == some uri := by
  rw [List.filter_map]
  rfl

theorem map_uri_filter_not_isBelow (ns : List ResourceNode) :
    (ns.filter (!IsBelow uris uri ·)).map ResourceNode.uri =
      (ns.map ResourceNode.uri).filter fun u => !(Resource.above uris u == some uri) := by
  rw [List.filter_map]
  rfl

/-- Attaching a resource makes one node, and keeps all others. -/
theorem perm_walkAll_attach (uris : List String) (index : Dict String ResourceEntry) (uri : String)
    (ns : List ResourceNode) :
    (walkAll (attach uris index uri ns)).Perm (ofEntry uris uri ((index.get? uri).getD {})
      (ns.filter (IsBelow uris uri)) :: walkAll ns) := by
  have hparts := (List.filter_append_perm (IsBelow uris uri) ns).flatMap_right walk
  rw [List.flatMap_append, ← walkAll_eq_flatMap, ← walkAll_eq_flatMap, ← walkAll_eq_flatMap]
    at hparts
  rw [attach_eq, walkAll, walk_eq, List.cons_append]
  exact hparts.cons _

/-- One node is made for each resource. -/
theorem perm_uris_attached (uris : List String) (index : Dict String ResourceEntry)
    (us : List String) : ((walkAll (attached uris index us)).map ResourceNode.uri).Perm us := by
  induction us with
  | nil => exact .refl _
  | cons u us ih => exact ((perm_walkAll_attach uris index u _).map _).trans (ih.cons u)

/-- The resources that stand alone are those that are attached to none of the others. -/
theorem uris_attached (hus : us.Pairwise fun u v => Resource.above uris u ≠ some v) :
    (attached uris index us).map ResourceNode.uri =
      us.filter fun u => ∀ v ∈ us, Resource.above uris u ≠ some v := by
  induction us with
  | nil => rfl
  | cons u us ih =>
    obtain ⟨hu, hus⟩ := List.pairwise_cons.1 hus
    have hself := Resource.above_ne_self uris u
    rw [attached, List.foldr_cons, attach_eq, List.map_cons, map_uri_filter_not_isBelow]
    rw [← attached, ih hus, List.filter_filter,
      List.filter_cons_of_pos (by simpa using ⟨hself, hu⟩)]
    congr 1
    refine List.filter_congr fun v _ => ?_
    rw [Bool.eq_iff_iff]
    simp

/-- The resources below a node are those that are attached to its resource. -/
theorem uris_children (hus : us.Pairwise fun u v => Resource.above uris u ≠ some v)
    (hnodup : us.Nodup) (hn : n ∈ walkAll (attached uris index us)) :
    n.children.map ResourceNode.uri =
      us.filter fun u => Resource.above uris u = some n.uri := by
  induction us generalizing n with
  | nil => exact absurd hn List.not_mem_nil
  | cons u us ih =>
    obtain ⟨hu, hus⟩ := List.pairwise_cons.1 hus
    obtain ⟨hnot, hnodup⟩ := List.nodup_cons.1 hnodup
    have hmem := (perm_walkAll_attach uris index u _).mem_iff.1 hn
    rcases List.mem_cons.1 hmem with rfl | hold
    · -- the new node: what is attached to it stands alone among the others
      have hself := Resource.above_ne_self uris u
      show ((attached uris index us).filter (IsBelow uris u)).map ResourceNode.uri =
        (u :: us).filter fun v => Resource.above uris v = some u
      rw [map_uri_filter_isBelow, uris_attached hus, List.filter_filter,
        List.filter_cons_of_neg (by simpa using hself)]
      refine List.filter_congr fun v _ => ?_
      by_cases hv : Resource.above uris v = some u
      · have hother : ∀ w ∈ us, u ≠ w := fun w hw h => hnot (h ▸ hw)
        simpa [hv] using hother
      · simp [hv]
    · have huri : n.uri ∈ us :=
        (perm_uris_attached uris index us).mem_iff.1 (List.mem_map_of_mem hold)
      rw [ih hus hnodup hold, List.filter_cons_of_neg (by simpa using hu n.uri huri)]

/-! ## Ways down -/

/-- The nodes on the way from a root down to a node, each a child of the one before. -/
inductive Leads (roots : List ResourceNode) : List ResourceNode → ResourceNode → Prop
  | root {n : ResourceNode} : n ∈ roots → Leads roots [n] n
  | child {path : List ResourceNode} {n m : ResourceNode} : Leads roots path n → m ∈ n.children →
      Leads roots (path ++ [m]) m

/-- What holds of a node when it holds of its children, holds of all nodes. -/
theorem induct_children {P : ResourceNode → Prop}
    (node : ∀ n : ResourceNode, (∀ c ∈ n.children, P c) → P n) (n : ResourceNode) : P n :=
  n.rec (motive_2 := fun ns => ∀ c ∈ ns, P c) (fun _ _ _ _ _ ih => node _ ih)
    (fun _ h => absurd h List.not_mem_nil) fun _ _ hn hns => List.forall_mem_cons.2 ⟨hn, hns⟩

theorem exists_leads_of_mem_walk {roots path : List ResourceNode} (h : Leads roots path n)
    (hm : m ∈ n.walk) : ∃ path, Leads roots path m := by
  induction n using induct_children generalizing path with
  | node n ih =>
    rw [walk_eq] at hm
    rcases List.mem_cons.1 hm with rfl | hm
    · exact ⟨path, h⟩
    · obtain ⟨c, hc, hm⟩ := mem_walkAll_iff.1 hm
      exact ih c hc (h.child hc) hm

/-- There is a way down to each node. -/
theorem exists_leads {roots : List ResourceNode} (h : n ∈ walkAll roots) :
    ∃ path, Leads roots path n := by
  obtain ⟨r, hr, hn⟩ := mem_walkAll_iff.1 h
  exact exists_leads_of_mem_walk (.root hr) hn

theorem mem_walk_of_mem_children_of_mem_walk {c : ResourceNode} (hn : n ∈ m.walk)
    (hc : c ∈ n.children) : c ∈ m.walk := by
  induction m using induct_children with
  | node m ih =>
    rw [walk_eq] at hn
    rcases List.mem_cons.1 hn with rfl | hn
    · exact mem_walk_of_mem_children hc c.mem_walk_self
    · obtain ⟨k, hk, hn⟩ := mem_walkAll_iff.1 hn
      exact mem_walk_of_mem_children hk (ih k hk hn)

/-- The children of the nodes of a forest are nodes of the forest. -/
theorem mem_walkAll_of_mem_children (hn : n ∈ walkAll ns) (hm : m ∈ n.children) :
    m ∈ walkAll ns := by
  obtain ⟨r, hr, hn⟩ := mem_walkAll_iff.1 hn
  exact mem_walkAll_iff.2 ⟨r, hr, mem_walk_of_mem_children_of_mem_walk hn hm⟩

theorem Leads.mem_walkAll {roots path : List ResourceNode} (h : Leads roots path n) :
    n ∈ walkAll roots := by
  induction h with
  | root h => exact mem_walkAll_of_mem h
  | child _ hm ih => exact mem_walkAll_of_mem_children ih hm

/-- The children of a resource by their keys, when each is put under its key after the other. -/
def childrenByKey (n : ResourceNode) : Dict String ResourceNode :=
  Dict.ofList (n.children.map fun c => (c.key, c))

/-! ## The forest of routes -/

section Forest

variable {routes : List Route}

theorem forest_eq (routes : List Route) : forest routes =
    attached (ResourceEntry.index routes).keys (ResourceEntry.index routes)
      (Resource.sort (ResourceEntry.index routes).keys) :=
  rfl

theorem nodup_sort (d : Dict String ResourceEntry) : (Resource.sort d.keys).Nodup :=
  (List.mergeSort_perm _ _).nodup_iff.2 d.keys_nodup

theorem mem_sort {u : String} : u ∈ Resource.sort us ↔ u ∈ us := List.mem_mergeSort

theorem nodup_uris_forest (routes : List Route) :
    ((walkAll (forest routes)).map ResourceNode.uri).Nodup :=
  (perm_uris_attached _ _ _).nodup_iff.2 (nodup_sort _)

theorem mem_uris_forest {u : String} :
    u ∈ (walkAll (forest routes)).map ResourceNode.uri ↔ u ∈ routes.map Route.resource := by
  rw [forest_eq, (perm_uris_attached _ _ _).mem_iff, mem_sort, ResourceEntry.mem_keys_index]

/-- Nodes of the same resource are the same. -/
theorem eq_of_uri_eq (hn : n ∈ walkAll (forest routes)) (hm : m ∈ walkAll (forest routes))
    (h : n.uri = m.uri) : n = m :=
  List.inj_on_of_nodup_map (nodup_uris_forest routes) hn hm h

theorem parent?_keys_index (routes : List Route) (uri : String) :
    Resource.parent? (ResourceEntry.index routes).keys uri =
      Resource.parent? (routes.map Route.resource) uri :=
  Resource.parent?_congr (fun _ => ResourceEntry.mem_keys_index) uri

theorem above_keys_index (routes : List Route) (uri : String) :
    Resource.above (ResourceEntry.index routes).keys uri =
      Resource.above (routes.map Route.resource) uri := by
  rw [Resource.above, parent?_keys_index, Resource.above]

/-- The children of a node are the nodes whose longest base it is. -/
theorem mem_children_iff (hn : n ∈ walkAll (forest routes)) (hm : m ∈ walkAll (forest routes)) :
    m ∈ n.children ↔ Resource.IsLongestBase (routes.map Route.resource) n.uri m.uri := by
  have hmem : m.uri ∈ n.children.map ResourceNode.uri ↔
      Resource.IsLongestBase (routes.map Route.resource) n.uri m.uri := by
    rw [uris_children (Resource.pairwise_sort _ _) (nodup_sort _) hn, List.mem_filter, mem_sort,
      ResourceEntry.mem_keys_index, decide_eq_true_eq, above_keys_index, Resource.above_eq_some_iff]
    exact and_iff_right (mem_uris_forest.1 (List.mem_map_of_mem hm))
  rw [← hmem]
  refine ⟨List.mem_map_of_mem, fun h => ?_⟩
  obtain ⟨c, hc, huri⟩ := List.mem_map.1 h
  rwa [← eq_of_uri_eq (mem_walkAll_of_mem_children hn hc) hm huri]

/-- The roots are the nodes whose resource has no base. -/
theorem mem_forest_iff (hn : n ∈ walkAll (forest routes)) :
    n ∈ forest routes ↔ ∀ b ∈ routes.map Route.resource, ¬ Resource.IsBase b n.uri := by
  have hmem : n.uri ∈ (forest routes).map ResourceNode.uri ↔
      Resource.above (routes.map Route.resource) n.uri = none := by
    rw [forest_eq, uris_attached (Resource.pairwise_sort _ _), List.mem_filter, mem_sort,
      ResourceEntry.mem_keys_index, decide_eq_true_eq, above_keys_index,
      Option.eq_none_iff_forall_ne_some]
    refine (and_iff_right (mem_uris_forest.1 (List.mem_map_of_mem hn))).trans
      ⟨fun h v hv => ?_, fun h v _ => h v⟩
    exact h v (mem_sort.2 (ResourceEntry.mem_keys_index.2 (Resource.above_eq_some_iff.1 hv).mem)) hv
  rw [← Resource.above_eq_none_iff, ← hmem]
  refine ⟨List.mem_map_of_mem, fun h => ?_⟩
  obtain ⟨r, hr, huri⟩ := List.mem_map.1 h
  rwa [← eq_of_uri_eq (mem_walkAll_of_mem hr) hn huri]

/-- The key of a node is its path below the resource above it, or its resource. -/
theorem key_eq (hn : n ∈ walkAll (forest routes)) :
    n.key = ((Resource.parent? (routes.map Route.resource) n.uri).map Prod.snd).getD n.uri := by
  obtain ⟨uri, entry, children, -, rfl⟩ := exists_of_mem_forest hn
  rw [← parent?_keys_index]
  rfl

theorem key_eq_uri (h : n ∈ forest routes) : n.key = n.uri := by
  have hn := mem_walkAll_of_mem h
  rw [key_eq hn, Resource.parent?_eq_none_iff.2 ((mem_forest_iff hn).1 h)]
  rfl

/-- The resource of a child is that of the node, with the key behind it. -/
theorem uri_eq_append_key (hn : n ∈ walkAll (forest routes)) (hm : m ∈ n.children) :
    m.uri = n.uri ++ m.key := by
  have hm' := mem_walkAll_of_mem_children hn hm
  have hbase := (mem_children_iff hn hm').1 hm
  obtain ⟨rest, hrest⟩ := hbase.isBase.2
  rw [String.append_assoc] at hrest
  rw [key_eq hm', Resource.parent?_eq_some_iff.2 ⟨hbase, hrest⟩]
  exact hrest

/-- The keys on the way down to a node make up its resource. -/
theorem join_keys_of_leads {path : List ResourceNode} (h : Leads (forest routes) path n) :
    String.join (path.map key) = n.uri := by
  induction h with
  | root h => simp [key_eq_uri h]
  | child h hm ih =>
    rw [uri_eq_append_key h.mem_walkAll hm, List.map_append, String.join_append, ih]
    simp

theorem nodup_uris_children (hn : n ∈ walkAll (forest routes)) :
    (n.children.map ResourceNode.uri).Nodup := by
  rw [uris_children (Resource.pairwise_sort _ _) (nodup_sort _) hn]
  exact (nodup_sort _).filter _

/-- The children of a node have different keys. -/
theorem nodup_keys_children (hn : n ∈ walkAll (forest routes)) : (n.children.map key).Nodup := by
  refine List.Nodup.of_map (n.uri ++ ·) ?_
  rw [List.map_map]
  refine (List.map_congr_left fun m hm => ?_) ▸ nodup_uris_children hn
  exact uri_eq_append_key hn hm

theorem nodup_keys_forest (routes : List Route) : ((forest routes).map key).Nodup := by
  rw [List.map_congr_left fun n hn => key_eq_uri hn, forest_eq,
    uris_attached (Resource.pairwise_sort _ _)]
  exact (nodup_sort _).filter _

/-- Each child stands under its key, and none takes the place of another. -/
theorem entries_childrenByKey (hn : n ∈ walkAll (forest routes)) :
    n.childrenByKey.entries = n.children.map fun c => (c.key, c) :=
  Dict.entries_ofList (by simpa [List.map_map, Function.comp_def] using nodup_keys_children hn)

theorem methods_eq (hn : n ∈ walkAll (forest routes)) (m : String) :
    n.methods.get? m = (routes.filter fun r => r.resource = n.uri ∧ r.method = m).getLast? := by
  obtain ⟨uri, entry, children, hentry, rfl⟩ := exists_of_mem_forest hn
  rw [← ResourceEntry.methods_index, show (ofEntry _ uri entry children).uri = uri from rfl, hentry]
  rfl

end Forest

/-- The given resources, nested. -/
structure Nests (routes : List Route) (roots : List ResourceNode) : Prop where
  /-- The walk comes to no resource twice. -/
  uris_nodup : ((walkAll roots).map ResourceNode.uri).Nodup
  /-- It comes to the resources of the routes, and to no others. -/
  mem_uris_iff : ∀ u, u ∈ (walkAll roots).map ResourceNode.uri ↔ u ∈ routes.map Route.resource
  /-- A resource stands below the longest one that is a base of it. -/
  mem_children_iff : ∀ n ∈ walkAll roots, ∀ m ∈ walkAll roots,
    m ∈ n.children ↔ Resource.IsLongestBase (routes.map Route.resource) n.uri m.uri
  /-- It is a root if there is none. -/
  mem_roots_iff : ∀ n ∈ walkAll roots,
    n ∈ roots ↔ ∀ b ∈ routes.map Route.resource, ¬ Resource.IsBase b n.uri
  /-- There is a way down to each resource. -/
  leads : ∀ n ∈ walkAll roots, ∃ path, Leads roots path n
  /-- The keys on it make up the resource. -/
  join_keys : ∀ path n, Leads roots path n → String.join (path.map key) = n.uri
  /-- Each child stands under its key, and none takes the place of another. -/
  entries_childrenByKey : ∀ n ∈ walkAll roots,
    n.childrenByKey.entries = n.children.map fun c => (c.key, c)
  /-- The route of a method is the last one with the resource and the method. -/
  methods : ∀ n ∈ walkAll roots, ∀ m, n.methods.get? m =
    (routes.filter fun r => r.resource = n.uri ∧ r.method = m).getLast?

/-- **The forest of routes nests their resources.** -/
theorem nests_forest (routes : List Route) : Nests routes (forest routes) where
  uris_nodup := nodup_uris_forest routes
  mem_uris_iff _ := mem_uris_forest
  mem_children_iff _ hn _ hm := mem_children_iff hn hm
  mem_roots_iff _ hn := mem_forest_iff hn
  leads _ hn := exists_leads hn
  join_keys _ _ h := join_keys_of_leads h
  entries_childrenByKey _ hn := entries_childrenByKey hn
  methods _ hn := methods_eq hn

end ResourceNode

end RouteDoc
