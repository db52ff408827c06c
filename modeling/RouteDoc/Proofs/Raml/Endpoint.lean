import RouteDoc.Proofs.Raml.Place
import RouteDoc.Proofs.Resource.Nesting
import Mathlib.Data.List.Perm.Basic

/-!
# The methods that a document shows

A document shows a method of a resource under the key of the method, below the keys of resources
that make up the resource.

* `Tree.endpoints`: the methods in a tree, by signature.
* `ResourceNode.Rooted`: the keys of the nodes below begin with a slash, and make up the resources.
* `Tree.perm_endpoints_ofNode`, `Tree.perm_endpoints_ofDocument`: **each node shows its methods, and
  nothing else is shown**.
* `Tree.nodup_keys_of_at`: **no key of a document or a resource stands twice**.
-/

namespace RouteDoc

namespace Tree

variable {media resource s : String} {t : Tree} {n : ResourceNode} {ns : List ResourceNode}

/-- The method that a key of a resource stands for. -/
def methodOfKey? (s : String) : Option String := Endpoint.methods.find? fun m => methodKey m = s

mutual

/-- The methods in a tree, by signature: the method that a key stands for, and the resource that
the keys of resources on the way down to it make up. -/
def endpoints (resource : String) : Tree → List (String × Tree)
  | .map es => endpointsOf resource es
  | _ => []

def endpointsOf (resource : String) : List (Key × Tree) → List (String × Tree)
  | [] => []
  | (.int _, _) :: es => endpointsOf resource es
  | (.text s, t) :: es =>
    (if s.toList.head? = some '/' then endpoints (resource ++ s) t
      else (methodOfKey? s).toList.map fun m => (m ++ " " ++ resource, t)) ++
      endpointsOf resource es

end

def endpointsAt (resource : String) (e : String × Tree) : List (String × Tree) :=
  if e.1.toList.head? = some '/' then endpoints (resource ++ e.1) e.2
  else (methodOfKey? e.1).toList.map fun m => (m ++ " " ++ resource, e.2)

theorem endpoints_object (resource : String) (es : List (String × Tree)) :
    endpoints resource (object es) = es.flatMap (endpointsAt resource) := by
  rw [object, endpoints]
  induction es with
  | nil => rfl
  | cons e es ih => rw [List.map_cons, endpointsOf, ih]; rfl

theorem endpointsAt_of_head? (h : s.toList.head? = some '/') :
    endpointsAt resource (s, t) = endpoints (resource ++ s) t :=
  if_pos h

/-- Only resources and methods matter. -/
theorem endpointsAt_eq_nil (hs : s.toList.head? ≠ some '/') (hm : methodOfKey? s = none) :
    endpointsAt resource (s, t) = [] := by
  rw [endpointsAt, if_neg hs, hm]
  rfl

theorem methodOfKey?_methodKey : ∀ m ∈ Endpoint.methods, methodOfKey? (methodKey m) = some m := by
  decide

theorem endpointsAt_methodKey {m : String} (hm : m ∈ Endpoint.methods) :
    endpointsAt resource (methodKey m, t) = [(m ++ " " ++ resource, t)] := by
  rw [endpointsAt, if_neg (methodKey_closed m hm).2, methodOfKey?_methodKey m hm]
  rfl

/-! ## Resources -/

def methodsOf (media : String) (n : ResourceNode) : List (String × Tree) :=
  Endpoint.methods.filterMap fun m =>
    (n.methods.get? m).map fun r => (m ++ " " ++ n.uri, ofMethod r media)

theorem flatMap_methodEntries (methods : Dict String Route) (media resource : String) :
    (methodEntries methods media).flatMap (endpointsAt resource) =
      Endpoint.methods.filterMap fun m =>
        (methods.get? m).map fun r => (m ++ " " ++ resource, ofMethod r media) := by
  rw [methodEntries, List.filterMap_eq_flatMap_toList, List.filterMap_eq_flatMap_toList,
    List.flatMap_assoc]
  refine List.flatMap_congr fun m hm => ?_
  cases methods.get? m with
  | none => rfl
  | some r => exact (List.flatMap_singleton ..).trans (endpointsAt_methodKey hm)

theorem flatMap_ofNodes (hns : ∀ n ∈ ns, n.key.toList.head? = some '/') :
    (ofNodes media ns).flatMap (endpointsAt resource) =
      ns.flatMap fun n => endpoints (resource ++ n.key) (ofNode media n) := by
  induction ns with
  | nil => rfl
  | cons n ns ih =>
    rw [ofNodes, List.flatMap_cons, List.flatMap_cons,
      endpointsAt_of_head? (hns n List.mem_cons_self),
      ih fun m hm => hns m (List.mem_cons_of_mem n hm)]

theorem flatMap_parametersEntry {ps : Dict String Parameter} :
    (parametersEntry "uriParameters" ps).flatMap (endpointsAt resource) = [] := by
  refine List.flatMap_eq_nil_iff.2 fun ⟨s, t⟩ he => ?_
  obtain rfl := (mem_parametersEntry.1 he).1
  exact endpointsAt_eq_nil (by decide) (by decide)

/-- A resource shows its methods, and those of the resources below it. -/
theorem perm_endpoints_ofNode_children (hslash : ∀ c ∈ n.children, c.key.toList.head? = some '/') :
    (endpoints n.uri (ofNode media n)).Perm (methodsOf media n ++
      n.children.flatMap fun c => endpoints (n.uri ++ c.key) (ofNode media c)) := by
  obtain ⟨uri, key, methods, ps, children⟩ := n
  rw [ofNode, endpoints_object, List.flatMap_append, List.flatMap_append, flatMap_parametersEntry,
    flatMap_methodEntries, List.nil_append]
  refine List.Perm.append_left _ ?_
  exact ((List.mergeSort_perm _ _).flatMap_right _).trans (.of_eq (flatMap_ofNodes hslash))

end Tree

namespace ResourceNode

/-- The keys of the nodes below begin with a slash, and make up the resources. -/
def Rooted (n : ResourceNode) : Prop :=
  ∀ m ∈ n.walk, ∀ c ∈ m.children, c.uri = m.uri ++ c.key ∧ c.key.toList.head? = some '/'

theorem Rooted.child {n c : ResourceNode} (h : n.Rooted) (hc : c ∈ n.children) : c.Rooted :=
  fun m hm => h m (mem_walk_of_mem_children hc hm)

end ResourceNode

namespace Tree

variable {media s : String} {t : Tree} {n : ResourceNode} {ns : List ResourceNode}

/-- **A resource shows the methods of its nodes**, and nothing else. -/
theorem perm_endpoints_ofNode (h : n.Rooted) :
    (endpoints n.uri (ofNode media n)).Perm (n.walk.flatMap (methodsOf media)) := by
  induction n using ResourceNode.induct_children with
  | node n ih =>
    have hchildren := h n n.mem_walk_self
    refine (perm_endpoints_ofNode_children fun c hc => (hchildren c hc).2).trans ?_
    rw [ResourceNode.walk_eq, List.flatMap_cons, ResourceNode.walkAll_eq_flatMap,
      List.flatMap_assoc]
    refine List.Perm.append_left _ (List.Perm.flatMap_left _ fun c hc => ?_)
    rw [← (hchildren c hc).1]
    exact ih c hc (h.child hc)

/-! ## Keys -/

theorem keys_textEntry (key value : String) :
    ((textEntry key value).map Prod.fst).Sublist [key] := by
  unfold textEntry
  split
  · exact List.nil_sublist _
  · exact .refl _

theorem keys_parametersEntry (key : String) (ps : Dict String Parameter) :
    ((parametersEntry key ps).map Prod.fst).Sublist [key] := by
  unfold parametersEntry
  split
  · exact List.nil_sublist _
  · exact .refl _

theorem keys_typesEntry (types : Dict String Definition) :
    ((typesEntry types).map Prod.fst).Sublist ["types"] := by
  unfold typesEntry
  split
  · exact List.nil_sublist _
  · exact .refl _

theorem keys_methodEntries (methods : Dict String Route) (media : String) :
    ((methodEntries methods media).map Prod.fst).Sublist (Endpoint.methods.map methodKey) := by
  rw [methodEntries]
  induction Endpoint.methods with
  | nil => exact .refl _
  | cons m ms ih =>
    rw [List.filterMap_cons]
    cases methods.get? m with
    | none => exact ih.cons _
    | some r => exact ih.cons_cons _

theorem keys_ofNodes (media : String) (ns : List ResourceNode) :
    (ofNodes media ns).map Prod.fst = ns.map ResourceNode.key := by
  induction ns with
  | nil => rfl
  | cons n ns ih => rw [ofNodes, List.map_cons, List.map_cons, ih]

/-- What a document says before its resources. -/
def headOf (d : Document) : List (String × Tree) :=
  [("title", .text d.settings.title)] ++ textEntry "description" d.settings.description ++
    [("version", .text d.settings.version), ("baseUri", .text d.settings.baseUri),
     ("mediaType", .text d.settings.mediaType)] ++ typesEntry d.types

theorem ofDocument_eq (d : Document) :
    ofDocument d = object (headOf d ++ ofNodes d.settings.mediaType d.resources) :=
  rfl

theorem keys_headOf (d : Document) : ((headOf d).map Prod.fst).Sublist (headKeys ++ ["types"]) := by
  simp only [headOf, List.map_append]
  exact (((List.Sublist.refl ["title"]).append (keys_textEntry _ _)).append (.refl _)).append
    (keys_typesEntry _)

/-- Keys of resources are different from all others. -/
theorem nodup_keys_append {es cs : List (String × Tree)} {ks : List String}
    (hes : (es.map Prod.fst).Sublist ks) (hks : ks.Nodup)
    (hslash : ∀ k ∈ ks, k.toList.head? ≠ some '/') (hcs : (cs.map Prod.fst).Nodup)
    (hcslash : ∀ k ∈ cs.map Prod.fst, k.toList.head? = some '/') :
    (((es ++ cs).map fun e => (Key.text e.1, e.2)).map Prod.fst).Nodup := by
  rw [List.map_map, show Prod.fst ∘ (fun e : String × Tree => (Key.text e.1, e.2)) =
    Key.text ∘ Prod.fst from rfl, ← List.map_map, List.map_append]
  refine List.Nodup.map (fun _ _ => Key.text.inj) (List.nodup_append.2 ⟨hes.nodup hks, hcs, ?_⟩)
  rintro k hk _ hc rfl
  exact hslash k (hes.subset hk) (hcslash k hc)

/-- No key of a resource stands twice. -/
theorem nodup_keys_ofNode {es : List (Key × Tree)} (hkeys : (n.children.map ResourceNode.key).Nodup)
    (hslash : ∀ c ∈ n.children, c.key.toList.head? = some '/') (h : map es = ofNode media n) :
    (es.map Prod.fst).Nodup := by
  obtain ⟨uri, key, methods, ps, children⟩ := n
  rw [ofNode, object] at h
  obtain rfl := Tree.map.inj h
  have hperm : ((sortEntries (ofNodes media children)).map Prod.fst).Perm
      (children.map ResourceNode.key) :=
    ((List.mergeSort_perm _ _).map _).trans (.of_eq (keys_ofNodes media children))
  have hhead : ((parametersEntry "uriParameters" ps ++ methodEntries methods media).map
      Prod.fst).Sublist (["uriParameters"] ++ Endpoint.methods.map methodKey) := by
    rw [List.map_append]
    exact (keys_parametersEntry _ ps).append (keys_methodEntries methods media)
  refine nodup_keys_append hhead (by decide) (by decide) (hperm.nodup_iff.2 hkeys) fun k hk => ?_
  obtain ⟨c, hc, rfl⟩ := List.mem_map.1 (hperm.mem_iff.1 hk)
  exact hslash c hc

/-- No key of a document stands twice. -/
theorem nodup_keys_ofDocument {d : Document} {es : List (Key × Tree)}
    (hkeys : (d.resources.map ResourceNode.key).Nodup)
    (hslash : ∀ n ∈ d.resources, n.key.toList.head? = some '/') (h : map es = ofDocument d) :
    (es.map Prod.fst).Nodup := by
  rw [ofDocument_eq, object] at h
  obtain rfl := Tree.map.inj h
  refine nodup_keys_append (keys_headOf d) (by decide) (by decide) ?_ fun k hk => ?_
  · rwa [keys_ofNodes]
  · rw [keys_ofNodes] at hk
    obtain ⟨n, hn, rfl⟩ := List.mem_map.1 hk
    exact hslash n hn

/-- The keys of resources lead to resources. -/
theorem exists_of_at_ofNode {path : List Key} {u : Tree} (hpath : ∀ k ∈ path, k.IsPath)
    (h : (ofNode media n).At path u) : ∃ m ∈ n.walk, u = ofNode media m := by
  induction path generalizing n with
  | nil => exact ⟨n, n.mem_walk_self, h⟩
  | cons k path ih =>
    obtain ⟨hk, hrest⟩ := List.forall_mem_cons.1 hpath
    obtain s | i := k
    · rcases at_ofNode h with ⟨rfl, -⟩ | ⟨m, hm, r, -, rfl, -⟩ | ⟨c, hc, rfl, hu⟩
      · exact absurd hk (by simp [Key.IsPath])
      · exact absurd hk (methodKey_closed m hm).2
      · obtain ⟨m, hm, hu⟩ := ih hrest hu
        exact ⟨m, ResourceNode.mem_walk_of_mem_children hc hm, hu⟩
    · exact absurd hk id

/-- **No key of a document or of a resource in it stands twice**: that of a resource is different
from those of the other resources, of the methods, of the parameters and of the head. -/
theorem nodup_keys_of_at {d : Document} (hroots : (d.resources.map ResourceNode.key).Nodup)
    (hchildren : ∀ n ∈ ResourceNode.walkAll d.resources, (n.children.map ResourceNode.key).Nodup)
    (hslash : ∀ n ∈ ResourceNode.walkAll d.resources, n.key.toList.head? = some '/')
    {path : List Key} (hpath : ∀ k ∈ path, k.IsPath) {es : List (Key × Tree)}
    (h : (ofDocument d).At path (.map es)) : (es.map Prod.fst).Nodup := by
  cases path with
  | nil =>
    exact nodup_keys_ofDocument hroots
      (fun n hn => hslash n (ResourceNode.mem_walkAll_of_mem hn)) h
  | cons k path =>
    obtain ⟨hk, hrest⟩ := List.forall_mem_cons.1 hpath
    obtain s | i := k
    · rcases at_ofDocument h with hs | ⟨rfl, -⟩ | ⟨n, hn, rfl, hu⟩
      · exact absurd hk (head?_of_headKeys s hs)
      · exact absurd hk (by simp [Key.IsPath])
      · obtain ⟨m, hm, hu⟩ := exists_of_at_ofNode hrest hu
        have hm' := ResourceNode.mem_walkAll_iff.2 ⟨n, hn, hm⟩
        exact nodup_keys_ofNode (hchildren m hm')
          (fun c hc => hslash c (ResourceNode.mem_walkAll_of_mem_children hm' hc)) hu
    · exact absurd hk id

/-! ## Documents -/

/-- **A document shows the methods of its resources**, and nothing else. -/
theorem perm_endpoints_ofDocument {d : Document}
    (hroots : ∀ n ∈ d.resources, n.key = n.uri ∧ n.key.toList.head? = some '/' ∧ n.Rooted) :
    (endpoints "" (ofDocument d)).Perm
      ((ResourceNode.walkAll d.resources).flatMap (methodsOf d.settings.mediaType)) := by
  have hhead : (headOf d).flatMap (endpointsAt "") = [] := by
    refine List.flatMap_eq_nil_iff.2 fun e he => ?_
    have hclosed : ∀ s ∈ headKeys ++ ["types"],
        s.toList.head? ≠ some '/' ∧ methodOfKey? s = none := by decide
    obtain ⟨hs, hm⟩ := hclosed e.1 ((keys_headOf d).subset (List.mem_map_of_mem he))
    exact endpointsAt_eq_nil hs hm
  rw [ofDocument_eq, endpoints_object, List.flatMap_append, hhead, List.nil_append,
    flatMap_ofNodes fun n hn => (hroots n hn).2.1, ResourceNode.walkAll_eq_flatMap,
    List.flatMap_assoc]
  refine List.Perm.flatMap_left _ fun n hn => ?_
  obtain ⟨hkey, -, hrooted⟩ := hroots n hn
  rw [hkey, String.empty_append]
  exact perm_endpoints_ofNode hrooted

end Tree

end RouteDoc
