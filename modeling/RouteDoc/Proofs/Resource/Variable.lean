import RouteDoc.Proofs.Resource.Order

/-!
# Variables of nested resources

A route documents the variables of its resource when `Route.uriProblems` finds nothing.  Its
parameters are then handed out to the resources on the way down to its own, each of which keeps the
variables of its key.

* `uriVariables_append`: a resource whose variables hold no slash has the variables of its two
  parts, wherever it is cut at a slash.
* `Route.uriProblems_eq_nil_iff`: the parameters of a route are the variables of its resource.
* `ResourceNode.mem_uriParameters_iff`: a node has the parameters that are variables of its key.
* `ResourceNode.uriParameters_forest`: **the parameters on the way down to a node are the variables
  of its resource**, and each node has those of its key.
-/

namespace RouteDoc

/-! ## Variables of a text in two parts -/

section Variables

variable {name : Option (List Char)} {l s t : List Char} {c : Char}

theorem variablesFrom_open (name : Option (List Char)) (s : List Char) :
    variablesFrom name ('{' :: s) = variablesFrom (some []) s := by
  rw [variablesFrom]

/-- A closing brace ends the name that is open, unless that is empty. -/
theorem variablesFrom_close (name : Option (List Char)) (s : List Char) :
    variablesFrom name ('}' :: s) =
      ((name.filter (· ≠ [])).map List.reverse).toList ++ variablesFrom none s := by
  match name with
  | none => simp [variablesFrom]
  | some [] => simp [variablesFrom]
  | some (c :: l) =>
    rw [variablesFrom, Option.filter_some_pos (by simp)]
    rfl

theorem variablesFrom_cons (hopen : c ≠ '{') (hclose : c ≠ '}') (name : Option (List Char))
    (s : List Char) : variablesFrom name (c :: s) = variablesFrom (name.map (c :: ·)) s := by
  rw [variablesFrom]
  · exact hopen
  · exact hclose

/-- An open name with a character that no variable has is not closed. -/
theorem variablesFrom_some (hc : c ∈ l) (h : ∀ v ∈ variablesFrom (some l) s, c ∉ v) :
    variablesFrom (some l) s = variablesFrom none s := by
  induction s generalizing l with
  | nil => rfl
  | cons d s ih =>
    by_cases hopen : d = '{'
    · rw [hopen, variablesFrom_open, variablesFrom_open]
    · by_cases hclose : d = '}'
      · -- the name would be a variable
        have hl : l ≠ [] := List.ne_nil_of_mem hc
        rw [hclose, variablesFrom_close, Option.filter_some_pos (by simpa using hl)] at h
        exact absurd (List.mem_reverse.2 hc) (h _ List.mem_cons_self)
      · rw [variablesFrom_cons hopen hclose] at h ⊢
        rw [variablesFrom_cons hopen hclose]
        exact ih (List.mem_cons_of_mem d hc) h

/-- A text has the variables of its two parts, if no variable has the character at the cut. -/
theorem variablesFrom_append (hopen : c ≠ '{') (hclose : c ≠ '}')
    (h : ∀ v ∈ variablesFrom name (s ++ c :: t), c ∉ v) :
    variablesFrom name (s ++ c :: t) = variablesFrom name s ++ variablesFrom none (c :: t) := by
  induction s generalizing name with
  | nil =>
    rw [List.nil_append, variablesFrom_cons hopen hclose] at h ⊢
    rw [variablesFrom_cons hopen hclose]
    cases name with
    | none => rfl
    | some l => exact variablesFrom_some List.mem_cons_self h
  | cons d s ih =>
    rw [List.cons_append] at h ⊢
    by_cases hd : d = '{'
    · subst hd
      rw [variablesFrom_open] at h ⊢
      rw [variablesFrom_open]
      exact ih h
    · by_cases hd' : d = '}'
      · subst hd'
        rw [variablesFrom_close] at h ⊢
        rw [variablesFrom_close, List.append_assoc]
        congr 1
        exact ih fun v hv => h v (List.mem_append_right _ hv)
      · rw [variablesFrom_cons hd hd'] at h ⊢
        rw [variablesFrom_cons hd hd']
        exact ih h

end Variables

/-- A resource whose variables hold no slash has the variables of its two parts, wherever it is cut
at a slash. -/
theorem uriVariables_append {base rest : String}
    (h : ∀ v ∈ uriVariables (base ++ ("/" ++ rest)), '/' ∉ v.toList) :
    uriVariables (base ++ ("/" ++ rest)) = uriVariables base ++ uriVariables ("/" ++ rest) := by
  have hwhole : (base ++ ("/" ++ rest)).toList = base.toList ++ '/' :: rest.toList := by simp
  have hrest : ("/" ++ rest).toList = '/' :: rest.toList := by simp
  simp only [uriVariables, hwhole, hrest] at h ⊢
  rw [← List.map_append, variablesFrom_append (by decide) (by decide)]
  intro v hv
  simpa using h _ (List.mem_map_of_mem hv)

/-! ## Documented variables -/

namespace Route

/-- No problem is found when the parameters are the variables of the resource. -/
theorem uriProblems_eq_nil_iff {r : Route} :
    r.uriProblems = [] ↔ ∀ v, v ∈ r.uriParameters.keys ↔ v ∈ uriVariables r.resource := by
  simp only [uriProblems, List.append_eq_nil_iff, List.map_eq_nil_iff, List.filter_eq_nil_iff,
    decide_eq_true_eq, not_not]
  constructor
  · rintro ⟨hdocumented, hused⟩ v
    exact ⟨hused v, hdocumented v⟩
  · intro h
    exact ⟨fun v hv => (h v).2 hv, fun v hv => (h v).1 hv⟩

end Route

/-! ## Parameters of the nodes -/

namespace ResourceNode

variable {routes : List Route} {n m : ResourceNode} {path : List ResourceNode}

/-- A node keeps those parameters of the routes of its resource that are variables of its key. -/
theorem mem_uriParameters_iff (hn : n ∈ walkAll (forest routes)) (v : String) :
    v ∈ n.uriParameters.keys ↔
      v ∈ uriVariables n.key ∧ ∃ r ∈ routes, r.resource = n.uri ∧ v ∈ r.uriParameters.keys := by
  obtain ⟨uri, entry, children, hentry, rfl⟩ := exists_of_mem_forest hn
  have hnames := ResourceEntry.mem_uriParameters_index routes uri v
  rw [hentry, Option.getD_some] at hnames
  rw [show (ofEntry _ uri entry children).uri = uri from rfl, ← hnames]
  show v ∈ (entry.uriParameters.filter fun name _ =>
    (uriVariables (ofEntry _ uri entry children).key).contains name).keys ↔ _
  rw [Dict.mem_keys_filter, List.contains_iff_mem]

/-- The key of a child begins with a slash. -/
theorem exists_key_eq (hn : n ∈ walkAll (forest routes)) (hm : m ∈ n.children) :
    ∃ rest, m.key = "/" ++ rest := by
  have hm' := mem_walkAll_of_mem_children hn hm
  obtain ⟨rest, hrest⟩ := ((mem_children_iff hn hm').1 hm).isBase.2
  rw [uri_eq_append_key hn hm, String.append_assoc] at hrest
  exact ⟨rest, (String.append_right_inj n.uri).1 hrest⟩

section Documented

variable (hslash : ∀ r ∈ routes, ∀ v ∈ uriVariables r.resource, '/' ∉ v.toList)

include hslash

/-- A child adds the variables of its key to those of the resource above. -/
theorem uriVariables_uri_child (hn : n ∈ walkAll (forest routes)) (hm : m ∈ n.children) :
    uriVariables m.uri = uriVariables n.uri ++ uriVariables m.key := by
  have hm' := mem_walkAll_of_mem_children hn hm
  obtain ⟨r, hr, huri⟩ := List.mem_map.1 (mem_uris_forest.1 (List.mem_map_of_mem hm'))
  have hfree := hslash r hr
  obtain ⟨rest, hrest⟩ := exists_key_eq hn hm
  rw [huri, uri_eq_append_key hn hm, hrest] at hfree
  rw [uri_eq_append_key hn hm, hrest]
  exact uriVariables_append hfree

/-- The variables of a key are variables of the resource. -/
theorem mem_uriVariables_uri_of_leads (h : Leads (forest routes) path n) {v : String}
    (hv : v ∈ uriVariables n.key) : v ∈ uriVariables n.uri := by
  cases h with
  | root h => rwa [← key_eq_uri h]
  | child h hm =>
    rw [uriVariables_uri_child hslash h.mem_walkAll hm]
    exact List.mem_append_right _ hv

variable (hdocumented : ∀ r ∈ routes, r.uriProblems = [])

include hdocumented

/-- The parameters of a node are the variables of its key. -/
theorem mem_uriParameters_iff_mem_uriVariables (hn : n ∈ walkAll (forest routes)) (v : String) :
    v ∈ n.uriParameters.keys ↔ v ∈ uriVariables n.key := by
  rw [mem_uriParameters_iff hn]
  constructor
  · intro h
    exact h.1
  · intro hv
    obtain ⟨path, hpath⟩ := exists_leads hn
    obtain ⟨r, hr, huri⟩ := List.mem_map.1 (mem_uris_forest.1 (List.mem_map_of_mem hn))
    refine ⟨hv, r, hr, huri, (Route.uriProblems_eq_nil_iff.1 (hdocumented r hr) v).2 ?_⟩
    rw [huri]
    exact mem_uriVariables_uri_of_leads hslash hpath hv

/-- The parameters on the way down to a node are the variables of its resource. -/
theorem exists_mem_path_iff (h : Leads (forest routes) path n) (v : String) :
    (∃ m ∈ path, v ∈ m.uriParameters.keys) ↔ v ∈ uriVariables n.uri := by
  induction h with
  | @root n h =>
    have hkeys := mem_uriParameters_iff_mem_uriVariables hslash hdocumented (mem_walkAll_of_mem h) v
    rw [key_eq_uri h] at hkeys
    simpa using hkeys
  | @child path n m h hm ih =>
    have hn := h.mem_walkAll
    have hkeys := mem_uriParameters_iff_mem_uriVariables hslash hdocumented
      (mem_walkAll_of_mem_children hn hm) v
    rw [uriVariables_uri_child hslash hn hm, List.mem_append, ← hkeys, ← ih]
    simp only [List.mem_append, List.mem_singleton, or_and_right, exists_or, exists_eq_left]

end Documented

/-- **The parameters on the way down to a node are the variables of its resource**, and each node
has those of its key, if every route documents the variables of its resource and none of them holds
a slash. -/
theorem uriParameters_forest (hdocumented : ∀ r ∈ routes, r.uriProblems = [])
    (hslash : ∀ r ∈ routes, ∀ v ∈ uriVariables r.resource, '/' ∉ v.toList) :
    ∀ n ∈ walkAll (forest routes),
      (∀ v, v ∈ n.uriParameters.keys ↔ v ∈ uriVariables n.key) ∧
      (∃ path, Leads (forest routes) path n) ∧
      ∀ path, Leads (forest routes) path n →
        ∀ v, (∃ m ∈ path, v ∈ m.uriParameters.keys) ↔ v ∈ uriVariables n.uri := by
  intro n hn
  refine ⟨mem_uriParameters_iff_mem_uriVariables hslash hdocumented hn, exists_leads hn, ?_⟩
  intro path hpath
  exact exists_mem_path_iff hslash hdocumented hpath

/-- A resource that names a variable twice, and two in one segment.  The book is a parameter of two
nodes. -/
theorem uriParameters_forest_pages : ∃ routes : List Route,
    (∀ r ∈ routes, r.uriProblems = []) ∧
    (∀ r ∈ routes, ∀ v ∈ uriVariables r.resource, '/' ∉ v.toList) ∧
    (walkAll (forest routes)).map (fun n => (n.key, n.uriParameters.keys)) =
      [("/books", []), ("/{id}", ["id"]), ("/pages/{start}-{stop}/{id}", ["id", "start", "stop"])] ∧
    ∀ n ∈ walkAll (forest routes), ∀ path, Leads (forest routes) path n →
      ∀ v, (∃ m ∈ path, v ∈ m.uriParameters.keys) ↔ v ∈ uriVariables n.uri := by
  let named (names : List String) : Dict String Parameter :=
    Dict.ofList (names.map fun n =>
      (n, { name := n, type := { kind := .scalar, name := "integer" } }))
  let routes : List Route :=
    [{ resource := "/books/{id}/pages/{start}-{stop}/{id}",
       uriParameters := named ["id", "start", "stop"] },
      { resource := "/books" },
      { resource := "/books/{id}", uriParameters := named ["id"] }]
  have hdocumented : ∀ r ∈ routes, r.uriProblems = [] := by decide +kernel
  have hslash : ∀ r ∈ routes, ∀ v ∈ uriVariables r.resource, '/' ∉ v.toList := by decide +kernel
  have hsort : Resource.sort (ResourceEntry.index routes).keys =
      ["/books", "/books/{id}", "/books/{id}/pages/{start}-{stop}/{id}"] :=
    Resource.sort_eq_of_pairwise (by decide +kernel) (by decide +kernel)
  refine ⟨routes, hdocumented, hslash, ?_, ?_⟩
  · rw [forest_eq, hsort]
    decide +kernel
  · intro n hn
    exact (uriParameters_forest hdocumented hslash n hn).2.2

end ResourceNode

end RouteDoc
