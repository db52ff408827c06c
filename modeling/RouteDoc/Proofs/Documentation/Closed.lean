import RouteDoc.Proofs.Configuration.Closed
import RouteDoc.Proofs.Documentation.Collection
import RouteDoc.Proofs.Documentation.Submission
import RouteDoc.Proofs.Raml.Place

/-!
# Closed documents

* `Documentation.Closed`: the registry and the routes are closed, and the collection covers all that
  the routes depend on.  `Closed.addRoute`, `Closed.addType`: each call keeps this.
* `Document.Closed`: all types that a document prints are made of built-in names, names of its types
  and names that are noted as missing.
* `Documentation.closed_build`: **documents are closed**, after every run in a configured context.
-/

namespace RouteDoc

namespace Documentation

variable {d : Documentation} {r : Route} {names : List String}

/-- The registry and the routes are closed, and the collection covers all that the routes depend
on. -/
structure Closed (d : Documentation) : Prop where
  registry : d.context.registry.Closed
  routes : ∀ r ∈ d.routes.values, r.Closed
  rooted : ∀ r ∈ d.routes.values, r.resource.toList.head? = some '/'
  covers : d.collection.Covers d.definitions []
  has : ∀ r ∈ d.routes.values, ∀ n ∈ r.dependentTypes, d.collection.Has n

/-! ## Single steps -/

/-- The collection has all names when they are collected. -/
theorem Closed.collect (hregistry : d.context.registry.Closed)
    (hroutes : ∀ r ∈ d.routes.values, r.Closed)
    (hrooted : ∀ r ∈ d.routes.values, r.resource.toList.head? = some '/')
    (hcovers : d.collection.Covers d.definitions [])
    (hhas : ∀ r ∈ d.routes.values, ∀ n ∈ r.dependentTypes, d.collection.Has n ∨ n ∈ names) :
    (d.collect names).1.Closed where
  registry := hregistry
  routes := hroutes
  rooted := hrooted
  covers := (hcovers.mono_todo (List.nil_subset names)).collect
  has r hr n hn := TypeCollection.has_collect (hhas r hr n hn)

/-- A documentation stays closed when a closed route takes its place. -/
theorem Closed.accept (hd : d.Closed) (hr : r.Closed)
    (hslash : r.resource.toList.head? = some '/') : (d.accept r).1.Closed := by
  have hput : ∀ s ∈ (d.routes.put r.signature r).values, s = r ∨ s ∈ d.routes.values :=
    fun s hs => Dict.mem_values_put hs
  have hroutes : ∀ s ∈ (d.routes.put r.signature r).values, s.Closed := fun s hs =>
    (hput s hs).elim (fun h => h ▸ hr) (hd.routes s)
  have hrooted : ∀ s ∈ (d.routes.put r.signature r).values,
      s.resource.toList.head? = some '/' := fun s hs =>
    (hput s hs).elim (fun h => h ▸ hslash) (hd.rooted s)
  unfold Documentation.accept
  simp only
  split
  · -- a route is replaced, and all types are collected anew
    exact collect hd.registry hroutes hrooted (TypeCollection.covers_empty _ _)
      fun s hs n hn => .inr (List.mem_flatMap.2 ⟨s, hs, hn⟩)
  · refine collect hd.registry hroutes hrooted hd.covers fun s hs n hn => ?_
    rcases hput s hs with rfl | hs
    · exact .inr hn
    · exact .inl (hd.has s hs n hn)

theorem Closed.addType (hd : d.Closed) (name : String) : (d.addType name).1.Closed :=
  collect hd.registry hd.routes hd.rooted hd.covers fun r hr n hn => .inl (hd.has r hr n hn)

/-- A route that cannot be part of the document leaves map types behind at most. -/
theorem Closed.addRouteOf (hd : d.Closed) (comment : String) (overrides : Dict String TagValue)
    (source : String) : (d.addRouteOf comment overrides source).documentation.Closed := by
  have hchanges := Assembly.changes_assemble d.context comment overrides source
  obtain ⟨hcontext, hroute⟩ := Route.closed_assemble hd.registry comment overrides source
  have hrooted := Route.rooted_assemble d.context comment overrides source
  unfold Documentation.addRouteOf
  generalize Route.assemble d.context comment overrides source = assembled at *
  obtain ⟨assembly, assembled⟩ := assembled
  have hd' : ({ d with context := assembly.context } : Documentation).Closed :=
    { hd with
      registry := hcontext
      covers := hd.covers.mono fun n e he => hchanges.grows.definition?_eq_some he }
  cases assembled with
  | error fault => exact hd'
  | ok errors =>
  simp only
  split
  · exact hd'
  · rename_i hviable
    have hresource := resource_ne_of_checkViability hviable
    exact hd'.accept hroute (hrooted.resolve_left hresource)

theorem Closed.addRoute (hd : d.Closed) (comment : String) (overrides : Dict String Supplied)
    (source : String) : (d.addRoute comment overrides source).documentation.Closed := by
  unfold Documentation.addRoute
  split
  · exact hd.addRouteOf comment _ source
  · exact hd

/-! ## Whole runs -/

/-- A run in a closed context stays closed. -/
theorem closed_run {c : Context} (hc : c.registry.Closed) (settings : Settings)
    (calls : List Call) : (run c settings calls).Closed := by
  refine run_induct ?_ fun d k hd => ?_
  · exact {
      registry := hc
      routes := fun r hr => absurd hr List.not_mem_nil
      rooted := fun r hr => absurd hr List.not_mem_nil
      covers := TypeCollection.covers_empty _ _
      has := fun r hr => absurd hr List.not_mem_nil }
  · cases k with
    | addRoute comment overrides source => exact hd.addRoute comment overrides source
    | addType name => exact hd.addType name

end Documentation

/-- All types that the document prints are made of built-in names, names of its types and names that
are noted as missing. -/
def Document.Closed (d : Document) : Prop :=
  ∀ p n, Tree.TypePlace p → (Tree.ofDocument d).At p (.text n) →
    ∀ part ∈ typeParts n, part ∈ builtinNames ∨ part ∈ d.types.keys ∨ part ∈ d.missingTypes

namespace Documentation

variable {d : Documentation}

theorem Closed.build (hd : d.Closed) : d.build.Closed := by
  intro p n hp h part hpart
  -- the parts of a closed type whose dependents are all there
  have hclosed : ∀ t : Descriptor, t.Closed → (∀ m ∈ t.dependents, d.collection.Has m) →
      t.name = n → part ∈ builtinNames ∨ part ∈ d.build.types.keys ∨ part ∈ d.build.missingTypes := by
    rintro t ht hdep rfl
    exact (ht part hpart).imp_right (hdep part)
  have hpaths : ∀ m ∈ ResourceNode.walkAll d.build.resources, m.key.toList.head? = some '/' :=
    fun m hm => ResourceNode.head?_key_of_mem_forest hd.rooted hm
  rcases Tree.type_at_ofDocument hp hpaths h with rfl | ⟨e, he, t, ht, hn⟩ | ⟨m, hm, t, ht, hn⟩
  · have hobject : typeParts "object" = ["object"] := by decide
    rw [hobject, List.mem_singleton] at hpart
    exact .inl (hpart ▸ by decide)
  · obtain ⟨k, hk⟩ := Dict.mem_values_iff.1 he
    have hdef := hd.covers.definition k e hk
    refine hclosed t (hd.registry.types k e hdef t ht) (fun m hm => ?_) hn
    have hdep := hd.covers.dependents k e hk m (Definition.dependents_subset_of_mem_types ht hm)
    exact hdep.resolve_right List.not_mem_nil
  · obtain ⟨r, hr, ht⟩ := ResourceNode.exists_of_mem_types hm ht
    refine hclosed t ((hd.routes r hr).types t ht) (fun m hm => ?_) hn
    exact hd.has r hr m ((hd.routes r hr).dependents t ht hm)

/-- **Documents are closed**, after every run in a context that is configured with identifiers as
names of its narrowed built-in types. -/
theorem closed_build {t : ClassTable} {configuration : List Context.Call}
    (hnames : ∀ name base facets, .definePrimitive name base facets ∈ configuration →
      Form.isIdentifier name.toList = true) (settings : Settings) (calls : List Call) :
    (run (Context.configured t configuration) settings calls).build.Closed :=
  (closed_run (Context.closed_configured hnames) settings calls).build

/-- A type that refers to itself, an alias for a union with a map type in it, and a name that is
never defined: the array of the union is printed, and all its parts are there. -/
theorem closed_build_shelves : ∃ (configuration : List Context.Call) (calls : List Call),
    (∀ name base facets, .definePrimitive name base facets ∈ configuration →
      Form.isIdentifier name.toList = true) ∧
    (run (Context.configured {} configuration) {} calls).build.Closed ∧
    (run (Context.configured {} configuration) {} calls).build.types.keys =
      ["map_Isbn_Book", "Isbn", "Book"] ∧
    (run (Context.configured {} configuration) {} calls).build.missingTypes = ["Author"] ∧
    (Tree.ofDocument (run (Context.configured {} configuration) {} calls).build).At
      [.text "/shelves", .text "get", .text "responses", .int 200, .text "body",
        .text "application/json", .text "type"] (.text "map_Isbn_Book | Isbn[]") := by
  have hnames : ∀ name base facets, .definePrimitive name base facets ∈
      [.definePrimitive "Isbn" "string" {},
        .defineType "Book" (.fields (Dict.ofList [("isbn", "Isbn"), ("sequels?", "[]Book")])),
        Context.Call.defineAlias "Shelf" "map[Isbn]Book | *Isbn"] →
      Form.isIdentifier name.toList = true := by
    intro name base facets h
    simp only [List.mem_cons, Context.Call.definePrimitive.injEq, reduceCtorEq, List.not_mem_nil,
      or_false] at h
    obtain ⟨rfl, -⟩ := h
    decide
  have hclosed := closed_build (t := {}) hnames {}
    [.addRoute "@resource GET /shelves\n@query {[]Author} by\n@response {[]Shelf}" ∅ ""]
  refine ⟨_, _, hnames, hclosed, ?_, ?_, Tree.at_of_textAt? ?_⟩
  · decide +kernel
  · decide +kernel
  · decide +kernel

end Documentation

end RouteDoc
