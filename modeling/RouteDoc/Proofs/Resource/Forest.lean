import RouteDoc.Proofs.Dict
import RouteDoc.Resource

/-!
# Nodes of the forest of routes

* `ResourceNode.mem_walkAll_iff`: the nodes of several trees are those of each of them.
* `ResourceEntry.FromRoutes`: the routes and the parameters of an entry come from routes of its
  resource.  `fromRoutes_index`: so do those of every entry of the index.
* `ResourceNode.exists_of_mem_forest`: **each node of a forest is made from the entry of a resource**.
-/

namespace RouteDoc

/-! ## Entries -/

namespace ResourceEntry

variable {routes : List Route} {uri : String} {e : ResourceEntry} {r : Route}

/-- The routes and the parameters come from routes of a resource. -/
structure FromRoutes (routes : List Route) (uri : String) (e : ResourceEntry) : Prop where
  methods : ∀ r ∈ e.methods.values, r ∈ routes ∧ r.resource = uri
  uriParameters : ∀ p ∈ e.uriParameters.values,
    ∃ r ∈ routes, r.resource = uri ∧ p ∈ r.uriParameters.values

theorem fromRoutes_empty (routes : List Route) (uri : String) : FromRoutes routes uri {} where
  methods _ h := absurd h List.not_mem_nil
  uriParameters _ h := absurd h List.not_mem_nil

theorem FromRoutes.add (h : FromRoutes routes r.resource e) (hr : r ∈ routes) :
    FromRoutes routes r.resource (e.add r) where
  methods s hs := by
    rcases Dict.mem_values_put hs with rfl | hs
    · exact ⟨hr, rfl⟩
    · exact h.methods s hs
  uriParameters p hp := by
    rcases Dict.mem_values_union hp with hp | hp
    · exact h.uriParameters p hp
    · exact ⟨r, hr, rfl, hp⟩

/-- Every entry of the index is of the resource of a route, and comes from the routes of this
resource. -/
theorem fromRoutes_index (h : (index routes).get? uri = some e) :
    (∃ r ∈ routes, r.resource = uri) ∧ FromRoutes routes uri e := by
  refine List.foldlRecOn routes _ (motive := fun (d : Dict String ResourceEntry) =>
    ∀ uri e, d.get? uri = some e → (∃ r ∈ routes, r.resource = uri) ∧ FromRoutes routes uri e)
    (fun uri e h => absurd h (by simp [Dict.get?, Dict.findIn])) (fun d hd r hr uri e h => ?_) uri e h
  rw [Dict.get?_put] at h
  split at h
  · rename_i huri
    subst huri
    obtain rfl := Option.some.inj h
    refine ⟨⟨r, hr, rfl⟩, FromRoutes.add ?_ hr⟩
    cases hold : d.get? r.resource with
    | none => exact fromRoutes_empty routes r.resource
    | some old => exact (hd r.resource old hold).2
  · exact hd uri e h

end ResourceEntry

/-! ## Nodes -/

namespace ResourceNode

variable {n k : ResourceNode} {ns : List ResourceNode} {routes : List Route}

theorem mem_walkAll_iff : n ∈ walkAll ns ↔ ∃ m ∈ ns, n ∈ m.walk := by
  induction ns with
  | nil => simp [walkAll]
  | cons m ns ih => simp [walkAll, ih]

theorem walk_eq (n : ResourceNode) : n.walk = n :: walkAll n.children := by
  cases n
  rw [walk]
  rfl

theorem mem_walk_self (n : ResourceNode) : n ∈ n.walk := by
  rw [walk_eq]
  exact List.mem_cons_self

theorem mem_walkAll_of_mem (h : n ∈ ns) : n ∈ walkAll ns :=
  mem_walkAll_iff.2 ⟨n, h, n.mem_walk_self⟩

theorem mem_walk_of_mem_children {m : ResourceNode} (hm : m ∈ n.children) (h : k ∈ m.walk) :
    k ∈ n.walk := by
  rw [walk_eq]
  exact List.mem_cons_of_mem n (mem_walkAll_iff.2 ⟨m, hm, h⟩)

/-- The nodes below a node are those below its children. -/
theorem mem_walkAll_children {m : ResourceNode} (hm : m ∈ ns) (h : n ∈ walkAll m.children) :
    n ∈ walkAll ns :=
  mem_walkAll_iff.2 ⟨m, hm, by rw [walk_eq]; exact List.mem_cons_of_mem m h⟩

/-- Attaching a resource makes one node, and all others stay. -/
theorem mem_walkAll_attach {uris : List String} {index : Dict String ResourceEntry} {uri : String}
    (h : n ∈ walkAll (attach uris index uri ns)) :
    (∃ children, n = ofEntry uris uri ((index.get? uri).getD {}) children) ∨ n ∈ walkAll ns := by
  obtain ⟨m, hm, hn⟩ := mem_walkAll_iff.1 h
  simp only [attach, List.partition_eq_filter_filter, List.mem_cons] at hm
  rcases hm with rfl | hm
  · rw [walk_eq] at hn
    rcases List.mem_cons.1 hn with rfl | hn
    · exact .inl ⟨_, rfl⟩
    · obtain ⟨k, hk, hn⟩ := mem_walkAll_iff.1 hn
      exact .inr (mem_walkAll_iff.2 ⟨k, (List.mem_filter.1 hk).1, hn⟩)
  · exact .inr (mem_walkAll_iff.2 ⟨m, (List.mem_filter.1 hm).1, hn⟩)

/-- **Each node of a forest is made from the entry of a resource.** -/
theorem exists_of_mem_forest (h : n ∈ walkAll (forest routes)) :
    ∃ uri entry children, (ResourceEntry.index routes).get? uri = some entry ∧
      n = ofEntry (ResourceEntry.index routes).keys uri entry children := by
  have key : ∀ uris : List String, n ∈ walkAll (uris.foldr
      (attach (ResourceEntry.index routes).keys (ResourceEntry.index routes)) []) →
      ∃ uri ∈ uris, ∃ children, n = ofEntry (ResourceEntry.index routes).keys uri
        (((ResourceEntry.index routes).get? uri).getD {}) children := by
    intro uris hn
    induction uris with
    | nil => exact absurd hn (by simp [walkAll])
    | cons uri uris ih =>
      rcases mem_walkAll_attach hn with ⟨children, rfl⟩ | hn
      · exact ⟨uri, List.mem_cons_self, children, rfl⟩
      · obtain ⟨uri', huri', hex⟩ := ih hn
        exact ⟨uri', List.mem_cons_of_mem uri huri', hex⟩
  obtain ⟨uri, huri, children, hn⟩ := key _ h
  have hkey : uri ∈ (ResourceEntry.index routes).keys :=
    (List.mergeSort_perm _ _).mem_iff.1 huri
  obtain ⟨entry, hentry⟩ := Dict.exists_get?_of_mem_keys hkey
  rw [hentry, Option.getD_some] at hn
  exact ⟨uri, entry, children, hentry, hn⟩

theorem mem_uriParameters_ofEntry {uris : List String} {uri : String} {entry : ResourceEntry}
    {children : List ResourceNode} {p : Parameter}
    (h : p ∈ (ofEntry uris uri entry children).uriParameters.values) :
    p ∈ entry.uriParameters.values := by
  simp only [ofEntry, uriParameters] at h
  exact Dict.mem_values_filter h

/-- The path of a node below the one above it begins with a slash, if the resource does. -/
theorem head?_key_ofEntry {uris : List String} {uri : String} {entry : ResourceEntry}
    {children : List ResourceNode} (h : uri.toList.head? = some '/') :
    (ofEntry uris uri entry children).key.toList.head? = some '/' := by
  simp only [ofEntry, key]
  cases hp : Resource.parent? uris uri with
  | none => exact h
  | some p =>
    unfold Resource.parent? at hp
    obtain ⟨⟨base, suffix⟩, -, hp⟩ := List.exists_of_findSome?_eq_some hp
    simp only at hp
    split at hp
    · obtain rfl := Option.some.inj hp
      simp
    · exact absurd hp (by simp)

end ResourceNode

end RouteDoc
