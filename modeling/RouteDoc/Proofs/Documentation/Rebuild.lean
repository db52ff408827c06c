import RouteDoc.Proofs.Documentation.Collection
import RouteDoc.Proofs.Documentation.Submission

/-!
# Types that are collected route by route

* `TypeCollection.Needed`: the names that some names depend on, through any number of definitions.
* `TypeCollection.Exact`: a collection has the needed names, each where it belongs.
  `exact_iff`: what keeps a collection from this are names that were noted as missing before they
  were defined.
* `Documentation.Collected`: the collection has what the routes need, and nothing else.
* `Documentation.agrees_recollect_iff`: **the types agree with those collected anew, if and only if
  no name that is noted as missing is defined.**
-/

namespace RouteDoc

namespace TypeCollection

variable {defs defs' : Dict String Definition} {roots roots' : List String} {c c' : TypeCollection}
  {n : String}

/-- The names that `roots` depend on, through any number of definitions. -/
inductive Needed (defs : Dict String Definition) (roots : List String) : String → Prop
  | root {n : String} : n ∈ roots → Needed defs roots n
  | dependent {n m : String} {d : Definition} : Needed defs roots n → defs.get? n = some d →
      m ∈ d.dependents → Needed defs roots m

theorem Needed.mono (h : Needed defs roots n) (hroots : roots ⊆ roots')
    (hdefs : ∀ n d, defs.get? n = some d → defs'.get? n = some d) : Needed defs' roots' n := by
  induction h with
  | root h => exact .root (hroots h)
  | dependent _ hd hm ih => exact .dependent ih (hdefs _ _ hd) hm

/-- The collection has the needed names: those with a definition among the types, the others as
missing. -/
structure Exact (defs : Dict String Definition) (roots : List String) (c : TypeCollection) :
    Prop where
  types : ∀ n d, c.types.get? n = some d ↔ Needed defs roots n ∧ defs.get? n = some d
  missing : ∀ n, n ∈ c.missing ↔ Needed defs roots n ∧ defs.get? n = none

/-- Two collections have the same types, and the same names without a definition. -/
structure Agrees (c c' : TypeCollection) : Prop where
  types : ∀ n, c.types.get? n = c'.types.get? n
  missing : ∀ n, n ∈ c.missing ↔ n ∈ c'.missing

theorem Exact.agrees (h : Exact defs roots c) (h' : Exact defs roots c') : c.Agrees c' where
  types n := Option.ext fun d => (h.types n d).trans (h'.types n d).symm
  missing n := (h.missing n).trans (h'.missing n).symm

theorem Exact.of_agrees (h' : Exact defs roots c') (h : c.Agrees c') : Exact defs roots c where
  types n d := h.types n ▸ h'.types n d
  missing n := (h.missing n).trans (h'.missing n)

/-! ## Collecting -/

theorem not_has_empty : ¬ ({} : TypeCollection).Has n := fun h =>
  h.elim List.not_mem_nil List.not_mem_nil

theorem has_of_miss {k : String} (h : (c.miss k).Has n) : n = k ∨ c.Has n := by
  rcases h with h | h
  · exact .inr (.inl (types_miss c k ▸ h))
  · exact (mem_missing_miss_iff.1 h).imp_right .inr

theorem has_of_put {k : String} {d : Definition}
    (h : ({ c with types := c.types.put k d } : TypeCollection).Has n) : n = k ∨ c.Has n := by
  rcases h with h | h
  · exact (Dict.mem_keys_put.1 h).imp_right .inl
  · exact .inr (.inr h)

/-- Collecting needed names only adds needed names. -/
theorem needed_of_has_collect {todo : List String} (htodo : ∀ n ∈ todo, Needed defs roots n)
    (hc : ∀ n, c.Has n → Needed defs roots n) (h : (c.collect defs todo).Has n) :
    Needed defs roots n := by
  have hend : (∀ n ∈ [], Needed defs roots n) ∧
      ∀ n, (c.collect defs todo).Has n → Needed defs roots n :=
    collect_induct (P := fun todo c =>
      (∀ n ∈ todo, Needed defs roots n) ∧ ∀ n, c.Has n → Needed defs roots n)
      ?collected ?undefined ?defined ⟨htodo, hc⟩
  · exact hend.2 n h
  case collected =>
    rintro k rest c - ⟨htodo, hc⟩
    exact ⟨fun n hn => htodo n (List.mem_cons_of_mem k hn), hc⟩
  case undefined =>
    rintro k rest c - - ⟨htodo, hc⟩
    refine ⟨fun n hn => htodo n (List.mem_cons_of_mem k hn), fun n hn => ?_⟩
    rcases has_of_miss hn with rfl | hn
    · exact htodo n List.mem_cons_self
    · exact hc n hn
  case defined =>
    rintro k rest c d - hd ⟨htodo, hc⟩
    have hk := htodo k List.mem_cons_self
    constructor
    · intro n hn
      rcases List.mem_append.1 hn with hn | hn
      · exact .dependent hk hd hn
      · exact htodo n (List.mem_cons_of_mem k hn)
    · intro n hn
      rcases has_of_put hn with rfl | hn
      · exact hk
      · exact hc n hn

/-- Collecting notes no name as missing that is defined. -/
theorem mem_missing_collect {todo : List String} (h : n ∈ (c.collect defs todo).missing) :
    n ∈ c.missing ∨ defs.get? n = none :=
  collect_induct (P := fun _ c' => ∀ n ∈ c'.missing, n ∈ c.missing ∨ defs.get? n = none)
    (fun _ _ _ _ hc => hc)
    (fun _ _ _ _ hk hc n hn => (mem_missing_miss_iff.1 hn).elim (fun h => .inr (h ▸ hk)) (hc n))
    (fun _ _ _ _ _ _ hc => hc) (fun _ hn => .inl hn) n h

/-- What is collected is collected with its definition. -/
theorem Covers.exists_get? (h : Covers defs [] c) (hn : n ∈ c.types.keys) :
    ∃ d, c.types.get? n = some d ∧ defs.get? n = some d := by
  obtain ⟨d, hd⟩ := Dict.exists_get?_of_mem_keys hn
  exact ⟨d, hd, h.definition n d hd⟩

/-- All that is needed is there, if no name that is noted as missing is defined: its definition
would be left out. -/
theorem Covers.has_of_needed (h : Covers defs [] c) (hroots : ∀ n ∈ roots, c.Has n)
    (hmissing : ∀ n ∈ c.missing, defs.get? n = none) (hn : Needed defs roots n) : c.Has n := by
  induction hn with
  | root hn => exact hroots _ hn
  | @dependent n m d _ hd hm ih =>
    rcases ih with hn | hn
    · obtain ⟨d', hd', hdef⟩ := h.exists_get? hn
      obtain rfl := Option.some.inj (hd.symm.trans hdef)
      exact (h.dependents n d hd' m hm).resolve_right List.not_mem_nil
    · exact absurd (hmissing n hn) (by simp [hd])

/-- A collection that covers the needed names and has no others is exact, if and only if no name
that it notes as missing is defined. -/
theorem exact_iff (hcovers : Covers defs [] c) (hroots : ∀ n ∈ roots, c.Has n)
    (hneeded : ∀ n, c.Has n → Needed defs roots n) :
    Exact defs roots c ↔ ∀ n ∈ c.missing, defs.get? n = none := by
  refine ⟨fun h n hn => ((h.missing n).1 hn).2, fun hmissing => ⟨fun n d => ?_, fun n => ?_⟩⟩
  · constructor
    · exact fun h => ⟨hneeded n (.inl (Dict.mem_keys_of_get?_eq_some h)), hcovers.definition n d h⟩
    · rintro ⟨hn, hd⟩
      rcases hcovers.has_of_needed hroots hmissing hn with hn | hn
      · obtain ⟨d', hd', hdef⟩ := hcovers.exists_get? hn
        rwa [Option.some.inj (hd.symm.trans hdef)]
      · exact absurd (hmissing n hn) (by simp [hd])
  · constructor
    · exact fun h => ⟨hneeded n (.inr h), hmissing n h⟩
    · rintro ⟨hn, hnone⟩
      refine (hcovers.has_of_needed hroots hmissing hn).resolve_left fun hn => ?_
      obtain ⟨d, -, hd⟩ := hcovers.exists_get? hn
      exact absurd hnone (by simp [hd])

/-- Collected from the beginning, a collection is exact. -/
theorem exact_collect (defs : Dict String Definition) (roots : List String) :
    Exact defs roots (({} : TypeCollection).collect defs roots) := by
  refine (exact_iff (covers_empty defs roots).collect (fun n hn => has_collect (.inr hn))
    fun n => needed_of_has_collect (fun n hn => .root hn) fun n hn => absurd hn not_has_empty).2 ?_
  exact fun n hn => (mem_missing_collect hn).resolve_left List.not_mem_nil

end TypeCollection

namespace Documentation

variable {d : Documentation} {r : Route}

/-- The names that the routes depend on. -/
def roots (d : Documentation) : List String := d.routes.values.flatMap Route.dependentTypes

/-- The collection has what the routes need, and nothing else. -/
structure Collected (d : Documentation) : Prop where
  covers : d.collection.Covers d.definitions []
  has : ∀ n ∈ d.roots, d.collection.Has n
  needed : ∀ n, d.collection.Has n → TypeCollection.Needed d.definitions d.roots n

/-- More definitions do not matter. -/
theorem Collected.grow (hd : d.Collected) {c : Context}
    (h : Registry.Grows d.context.registry c.registry) :
    ({ d with context := c } : Documentation).Collected where
  covers := hd.covers.mono fun _ _ => h.definition?_eq_some
  has := hd.has
  needed n hn := (hd.needed n hn).mono (List.Subset.refl _) fun _ _ => h.definition?_eq_some

theorem recollect_eq (d : Documentation) :
    d.recollect.1.collection = ({} : TypeCollection).collect d.definitions d.roots :=
  rfl

/-- The routes that are there stay if the new one has another signature. -/
theorem roots_put (h : r.signature ∉ d.routes.keys) :
    ({ d with routes := d.routes.put r.signature r } : Documentation).roots =
      d.roots ++ r.dependentTypes := by
  simp only [roots, Dict.values, Dict.entries_put_of_not_mem h, List.map_append,
    List.flatMap_append, List.map_singleton, List.flatMap_singleton]

theorem Collected.collect {names : List String} (hcovers : d.collection.Covers d.definitions [])
    (hhas : ∀ n ∈ d.roots, d.collection.Has n ∨ n ∈ names)
    (hneeded : ∀ n, d.collection.Has n → TypeCollection.Needed d.definitions d.roots n)
    (hnames : ∀ n ∈ names, TypeCollection.Needed d.definitions d.roots n) :
    (d.collect names).1.Collected where
  covers := (hcovers.mono_todo (List.nil_subset names)).collect
  has n hn := TypeCollection.has_collect (hhas n hn)
  needed _ := TypeCollection.needed_of_has_collect hnames hneeded

theorem Collected.accept (hd : d.Collected) (r : Route) : (d.accept r).1.Collected := by
  unfold Documentation.accept
  simp only [Dict.contains_iff]
  split
  · -- a route is replaced, and all types are collected anew
    exact collect (TypeCollection.covers_empty _ _) (fun n hn => .inr hn)
      (fun n hn => absurd hn TypeCollection.not_has_empty)
      fun n hn => .root hn
  · rename_i hnew
    have hroots := roots_put hnew
    refine collect hd.covers (fun n hn => ?_) (fun n hn => ?_) fun n hn => .root ?_
    · rw [hroots] at hn
      exact (List.mem_append.1 hn).imp_left (hd.has n)
    · rw [hroots]
      exact (hd.needed n hn).mono (List.subset_append_left _ _) fun _ _ h => h
    · rw [hroots]
      exact List.mem_append_right _ hn

theorem collected_after (c : Context) (settings : Settings) (ss : List Submission) :
    ((fresh c settings).after ss).Collected := by
  refine after_induct ⟨?_, ?_, ?_⟩ fun d d' outcome h hd => ?_
  · exact TypeCollection.covers_empty _ _
  · exact fun n hn => absurd hn List.not_mem_nil
  · exact fun n hn => absurd hn TypeCollection.not_has_empty
  · cases h with
    | unsupported => exact hd
    | rejected _ hgrows _ => exact hd.grow hgrows
    | accepted hgrows _ _ => exact (hd.grow hgrows).accept _

/-- The types agree with those collected anew, if and only if no name that is noted as missing is
defined. -/
theorem Collected.agrees_iff (hd : d.Collected) :
    d.collection.Agrees d.recollect.1.collection ↔
      ∀ n ∈ d.collection.missing, d.definitions.get? n = none := by
  rw [recollect_eq, ← TypeCollection.exact_iff hd.covers hd.has hd.needed]
  have hexact := TypeCollection.exact_collect d.definitions d.roots
  exact ⟨hexact.of_agrees, fun h => h.agrees hexact⟩

theorem Collected.not_mem_types (hd : d.Collected)
    (h : d.collection.Agrees d.recollect.1.collection) :
    ∀ n ∈ d.collection.missing, n ∉ d.collection.types.keys := by
  intro n hn hkey
  obtain ⟨e, -, he⟩ := hd.covers.exists_get? hkey
  exact absurd ((hd.agrees_iff.1 h n hn).symm.trans he) (by simp)

/-- A name is noted as missing only if the context does not define it. -/
theorem definition?_of_mem_missing_after {c : Context} {settings : Settings}
    {ss : List Submission} {n : String}
    (h : n ∈ ((fresh c settings).after ss).collection.missing) :
    c.registry.definition? n = none := by
  refine (after_induct (P := fun d => Registry.Grows c.registry d.context.registry ∧
    ∀ n ∈ d.collection.missing, c.registry.definition? n = none)
    ⟨.refl _, fun n hn => absurd hn List.not_mem_nil⟩ fun d d' outcome hs hd => ?_).2 n h
  cases hs with
  | unsupported => exact hd
  | rejected _ hgrows _ => exact ⟨hd.1.trans hgrows, hd.2⟩
  | @accepted c' r hgrows _ _ =>
    have hgrown := hd.1.trans hgrows
    refine ⟨by rwa [context_accept], fun n hn => ?_⟩
    have hundefined : n ∈ d.collection.missing ∨ c'.registry.definition? n = none := by
      rw [collection_accept] at hn
      split at hn
      · exact .inr ((TypeCollection.mem_missing_collect hn).resolve_left List.not_mem_nil)
      · exact TypeCollection.mem_missing_collect hn
    rcases hundefined with hn | hn
    · exact hd.2 n hn
    · exact Option.eq_none_iff_forall_ne_some.2 fun e he =>
        absurd (hgrown.definition?_eq_some he) (by simp [hn])

/-- **The types agree with those collected anew, if and only if no name that is noted as missing is
defined**, whatever routes are added.  No name is both collected and missing then.  Otherwise the
name stands for a map type that came in after it was noted. -/
theorem agrees_recollect_iff (c : Context) (settings : Settings) (ss : List Submission) :
    (((fresh c settings).after ss).collection.Agrees
        ((fresh c settings).after ss).recollect.1.collection ↔
      ∀ n ∈ ((fresh c settings).after ss).collection.missing,
        ((fresh c settings).after ss).definitions.get? n = none) ∧
    (((fresh c settings).after ss).collection.Agrees
        ((fresh c settings).after ss).recollect.1.collection →
      ∀ n ∈ ((fresh c settings).after ss).collection.missing,
        n ∉ ((fresh c settings).after ss).collection.types.keys) ∧
    ∀ n ∈ ((fresh c settings).after ss).collection.missing,
      ∀ e, ((fresh c settings).after ss).definitions.get? n = some e →
        ∃ m : MapType, m.name = n ∧ e = .map m := by
  have hcollected := collected_after c settings ss
  refine ⟨hcollected.agrees_iff, hcollected.not_mem_types, fun n hn e he => ?_⟩
  have hinitial : (fresh c settings).context.registry.definition? n = none :=
    definition?_of_mem_missing_after hn
  exact ((grows_after (fresh c settings) ss).definition?_or he).resolve_left (by simp [hinitial])

/-- A name that is noted as missing comes to stand for a map type with the next route: it is
collected then, and stays noted. -/
theorem missing_map_type : ∃ ss : List Submission,
    ¬ ((fresh {} {}).after ss).collection.Agrees ((fresh {} {}).after ss).recollect.1.collection ∧
    "map_string_integer" ∈ ((fresh {} {}).after ss).collection.types.keys ∧
    "map_string_integer" ∈ ((fresh {} {}).after ss).collection.missing := by
  let ss : List Submission :=
    [{ comment := "@resource GET /books\n@response {map_string_integer}" },
      { comment := "@resource GET /pages\n@response {map[string]int}" }]
  have hmissing : "map_string_integer" ∈ ((fresh {} {}).after ss).collection.missing := by
    decide +kernel
  have hanew : "map_string_integer" ∉ ((fresh {} {}).after ss).recollect.1.collection.missing := by
    decide +kernel
  exact ⟨ss, fun h => hanew ((h.missing _).1 hmissing), by decide +kernel, hmissing⟩

end Documentation

end RouteDoc
