import RouteDoc.Proofs.Documentation.Collection
import RouteDoc.Proofs.Documentation.Submission
import RouteDoc.Proofs.Route.Joined

/-!
# Routes that are rejected

A route that is rejected leaves map types in the registry.  They stay there next to all that is
registered later.

* `TypeCollection.collect_congr`: further definitions do not change a collection, if none of the
  missing names is among them.
* `Documentation.Joins`: the second documentation has some map types on the side; all else is the
  same, the collection as long as none of them is missing from the first.  `Joins.after`: this stays
  so, whatever routes are added.
* `Documentation.after_rejected`: **a route that is rejected changes nothing else**, if its map
  types take no name that is registered otherwise, or missing without it.
-/

namespace RouteDoc

namespace TypeCollection

variable {defs defs' : Dict String Definition} {c : TypeCollection} {todo : List String}

theorem missing_subset_collect : c.missing ⊆ (c.collect defs todo).missing :=
  collect_induct (P := fun _ c' => c.missing ⊆ c'.missing) (fun _ _ _ _ h => h)
    (fun _ _ _ _ _ h _ hm => mem_missing_miss_iff.2 (.inr (h hm))) (fun _ _ _ _ _ _ h => h)
    (List.Subset.refl _)

/-- Further definitions do not change a collection, if none of the missing names is among them. -/
theorem collect_congr (hdefs : ∀ n d, defs.get? n = some d → defs'.get? n = some d)
    (hmissing : ∀ n ∈ (c.collect defs todo).missing, defs.get? n = none → defs'.get? n = none) :
    c.collect defs' todo = c.collect defs todo := by
  induction todo, c using collect.induct defs with
  | case1 c => rw [collect, collect]
  | case2 n rest c hc ih =>
    rw [collect_of_contains hc] at hmissing ⊢
    rw [collect_of_contains hc, ih hmissing]
  | case3 n rest c hc hd ih =>
    rw [collect_of_eq_none hc hd] at hmissing ⊢
    have hn := hmissing n (missing_subset_collect (mem_missing_miss_iff.2 (.inl rfl))) hd
    rw [collect_of_eq_none hc hn, ih hmissing]
  | case4 n rest c hc d hd _ ih =>
    rw [collect_of_eq_some hc hd] at hmissing ⊢
    rw [collect_of_eq_some hc (hdefs n d hd), ih hmissing]

end TypeCollection

namespace Documentation

variable {ms : List MapType} {u : Registry} {d d' : Documentation} {n : String}

/-- The second documentation has some map types on the side.  All else is the same, the collection
as long as none of them is missing from the first. -/
structure Joins (ms : List MapType) (d d' : Documentation) : Prop where
  context : Context.Joins ms d.context d'.context
  settings : d'.settings = d.settings
  routes : d'.routes = d.routes
  collection : (∀ m ∈ ms, m.name ∉ d.collection.missing) → d'.collection = d.collection

theorem Joins.collect_eq (h : d.Joins ms d') {c : TypeCollection} {names : List String}
    (hmissing : ∀ m ∈ ms, m.name ∉ (c.collect d.definitions names).missing) :
    c.collect d'.definitions names = c.collect d.definitions names := by
  refine TypeCollection.collect_congr
    (fun n e he => (h.context.registry.definition?_iff n e).2 (.inl he)) fun n hn hd => ?_
  refine Option.eq_none_iff_forall_ne_some.2 fun e he => ?_
  rcases (h.context.registry.definition?_iff n e).1 he with he | ⟨m, hm, rfl, -⟩
  · exact absurd (hd.symm.trans he) (by simp)
  · exact hmissing m hm hn

theorem Joins.accept (h : d.Joins ms d') (r : Route) : (d.accept r).1.Joins ms (d'.accept r).1 where
  context := by
    rw [context_accept, context_accept]
    exact h.context
  settings := by rw [settings_accept, settings_accept, h.settings]
  routes := by rw [routes_accept, routes_accept, h.routes]
  collection hmissing := by
    rw [collection_accept] at hmissing
    rw [collection_accept, collection_accept, h.routes]
    split at hmissing
    · rw [if_pos ‹_›, if_pos ‹_›, h.collect_eq hmissing]
    · -- what is missing before is missing afterwards
      have hbefore : ∀ m ∈ ms, m.name ∉ d.collection.missing := fun m hm hn =>
        hmissing m hm (TypeCollection.missing_subset_collect hn)
      rw [if_neg ‹_›, if_neg ‹_›, h.collection hbefore, h.collect_eq hmissing]

/-- A route is accepted on both sides, or rejected on both, if the map types agree with what is
registered in the end. -/
theorem Joins.submit (h : d.Joins ms d') (hu : u.AgreesWith ms) (s : Submission)
    (hgrows : Registry.Grows (d.submit s).documentation.context.registry u) :
    (d.submit s).documentation.Joins ms (d'.submit s).documentation ∧
      (d'.submit s).outcome = (d.submit s).outcome := by
  unfold Documentation.submit addRoute at hgrows ⊢
  generalize Supplied.tagValues? s.overrides = supplied at hgrows ⊢
  obtain _ | values := supplied
  · exact ⟨h, rfl⟩
  have hassemble := Route.parallel_assemble hu h.context s.comment values s.source
  simp only [addRouteOf] at hgrows ⊢
  generalize Route.assemble d.context s.comment values s.source = x at *
  generalize Route.assemble d'.context s.comment values s.source = y at *
  obtain ⟨⟨c, r, notices⟩, _⟩ := x
  obtain ⟨⟨c', _, notices'⟩, assembled⟩ := y
  have hcontext : Registry.Grows c.registry u := by
    simp only at hgrows
    split at hgrows
    · exact hgrows
    split at hgrows
    · exact hgrows
    · rwa [context_accept] at hgrows
  obtain ⟨⟨hjoins, rfl⟩, rfl⟩ := hassemble hcontext
  have hbetween : ({ d with context := c } : Documentation).Joins ms { d' with context := c' } :=
    ⟨hjoins, h.settings, h.routes, h.collection⟩
  cases assembled with
  | error fault => exact ⟨hbetween, rfl⟩
  | ok errors =>
  simp only
  split
  · exact ⟨hbetween, rfl⟩
  · exact ⟨hbetween.accept _, rfl⟩

/-- All routes are accepted or rejected on both sides, if the map types agree with what is
registered in the end. -/
theorem Joins.after {ss : List Submission} (h : d.Joins ms d')
    (hu : (d.after ss).context.registry.AgreesWith ms) :
    (d.after ss).Joins ms (d'.after ss) ∧ d'.outcomes ss = d.outcomes ss := by
  induction ss generalizing d d' with
  | nil => exact ⟨h, rfl⟩
  | cons s ss ih =>
    rw [after_cons] at hu
    obtain ⟨hjoins, houtcome⟩ := h.submit hu s (grows_after _ ss)
    obtain ⟨hafter, houtcomes⟩ := ih hjoins hu
    exact ⟨hafter, by rw [outcomes, outcomes, houtcome, houtcomes]⟩

def Adds (d : Documentation) (s : Submission) (n : String) (e : Definition) : Prop :=
  d.definitions.get? n = none ∧ (d.submit s).documentation.definitions.get? n = some e

/-- A route that is rejected leaves map types on the side. -/
theorem exists_joins_of_rejected {x : Submission} {fault : ViabilityFault}
    (hx : (d.submit x).outcome = .error (.unusable fault)) :
    ∃ ms, d.Joins ms (d.submit x).documentation ∧ ∀ m ∈ ms, d.Adds x m.name (.map m) := by
  have hsubmitted := submitted_submit d x
  simp only [Adds]
  rw [hx] at hsubmitted
  generalize (d.submit x).documentation = d' at hsubmitted
  cases hsubmitted with
  | rejected _ hgrows hkeywords =>
    obtain ⟨ms, hjoins, hnew⟩ := hgrows.exists_joins
    refine ⟨ms, ⟨⟨hjoins, hkeywords⟩, rfl, rfl, fun _ => rfl⟩, fun m hm => ⟨hnew m hm, ?_⟩⟩
    exact (hjoins.definition?_iff m.name _).2 (.inr ⟨m, hm, rfl, rfl⟩)

theorem Joins.build_eq (h : d.Joins ms d') (hmissing : ∀ m ∈ ms, m.name ∉ d.collection.missing) :
    d'.build = d.build := by
  rw [build, build, h.settings, h.routes, h.collection hmissing]

/-- **A route that is rejected changes nothing else.**  Without it, the others are accepted or
rejected as before and the same routes are held, if the names that it brings in stand for nothing
else in the end; and the document is the same, if none of them is missing from it. -/
theorem after_rejected (c : Context) (settings : Settings) (pre post : List Submission)
    (x : Submission) (fault : ViabilityFault)
    (hx : (((fresh c settings).after pre).submit x).outcome = .error (.unusable fault))
    (hagree : ∀ n e, ((fresh c settings).after pre).Adds x n e →
      ∀ e', ((fresh c settings).after (pre ++ post)).definitions.get? n = some e' → e' = e) :
    ((fresh c settings).outcomes (pre ++ x :: post)).eraseIdx pre.length =
        (fresh c settings).outcomes (pre ++ post) ∧
      ((fresh c settings).after (pre ++ x :: post)).routes =
        ((fresh c settings).after (pre ++ post)).routes ∧
      ((∀ n e, ((fresh c settings).after pre).Adds x n e →
          n ∉ ((fresh c settings).after (pre ++ post)).build.missingTypes) →
        ((fresh c settings).after (pre ++ x :: post)).build =
          ((fresh c settings).after (pre ++ post)).build) := by
  obtain ⟨ms, hjoins, hadds⟩ := exists_joins_of_rejected hx
  rw [after_append] at hagree
  have hu : (((fresh c settings).after pre).after post).context.registry.AgreesWith ms :=
    fun m hm e he => hagree m.name (.map m) (hadds m hm) e he
  obtain ⟨hafter, houtcomes⟩ := hjoins.after hu
  rw [after_append, after_append, after_cons]
  refine ⟨?_, hafter.routes, fun hmissing => hafter.build_eq fun m hm => hmissing _ _ (hadds m hm)⟩
  have hlength : pre.length = ((fresh c settings).outcomes pre).length :=
    (length_outcomes _ pre).symm
  rw [outcomes_append, outcomes_append, outcomes, houtcomes, hlength,
    List.eraseIdx_append_of_length_le (Nat.le_refl _), Nat.sub_self, List.eraseIdx_zero,
    List.tail_cons]

/-- A route without a method brings in the map type that a later route needs as well. -/
theorem after_rejected_query : ∃ pre post : List Submission, ∃ x : Submission,
    (((fresh {} {}).after pre).submit x).outcome = .error (.unusable .noMethod) ∧
    ((fresh {} {}).after pre).Adds x "map_string_integer"
      (.map (.ofParts ⟨.scalar, "string", []⟩ ⟨.scalar, "integer", []⟩)) ∧
    ((fresh {} {}).after (pre ++ x :: post)).build = ((fresh {} {}).after (pre ++ post)).build ∧
    ((fresh {} {}).after (pre ++ post)).build.types.keys = ["map_string_integer"] ∧
    ((fresh {} {}).after (pre ++ post)).build.missingTypes = ["Book"] := by
  let pre : List Submission := [{ comment := "@resource GET /books\n@response {[]Book}" }]
  let post : List Submission := [{ comment := "@resource GET /pages\n@response {map[string]int}" }]
  let x : Submission := { comment := "@query {map[string]int} pages" }
  have hx : (((fresh {} {}).after pre).submit x).outcome = .error (.unusable .noMethod) := by
    decide +kernel
  have hbefore : ((fresh {} {}).after pre).definitions.keys = [] := by decide +kernel
  have hadded : (((fresh {} {}).after pre).submit x).documentation.definitions.entries =
      [("map_string_integer",
        .map (.ofParts ⟨.scalar, "string", []⟩ ⟨.scalar, "integer", []⟩))] := by
    decide +kernel
  have hend : ((fresh {} {}).after (pre ++ post)).build.types.keys = ["map_string_integer"] ∧
      ((fresh {} {}).after (pre ++ post)).build.missingTypes = ["Book"] ∧
      ((fresh {} {}).after (pre ++ post)).definitions.entries =
        [("map_string_integer",
          .map (.ofParts ⟨.scalar, "string", []⟩ ⟨.scalar, "integer", []⟩))] := by
    decide +kernel
  obtain ⟨htypes, hmissing, hdefinitions⟩ := hend
  -- the rejected route brings in one definition, and the later route the same
  have hsame := Dict.ext_entries (hadded.trans hdefinitions.symm)
  have hname : ∀ n e, ((fresh {} {}).after pre).Adds x n e → n = "map_string_integer" := by
    intro n e hn
    have hentry := Dict.get?_eq_some_iff.1 hn.2
    rw [hadded, List.mem_singleton] at hentry
    exact congrArg Prod.fst hentry
  have hafter := after_rejected {} {} pre post x .noMethod hx fun n e hn e' he' =>
    Option.some.inj (he'.symm.trans (hsame ▸ hn.2))
  refine ⟨pre, post, x, hx, ⟨?_, ?_⟩, hafter.2.2 fun n e hn h => ?_, htypes, hmissing⟩
  · exact Dict.get?_eq_none_iff.2 (hbefore ▸ List.not_mem_nil)
  · exact Dict.get?_eq_some_iff.2 (hadded ▸ List.mem_singleton_self _)
  · rw [hmissing, hname n e hn] at h
    exact absurd h (by decide)

/-- What a rejected route leaves behind can be collected later, and can get in the way of a route
that would be accepted. -/
theorem rejected_leaves_map_type :
    (∃ x s : Submission, ((fresh {} {}).submit x).outcome = .error (.unusable .noMethod) ∧
      ((fresh {} {}).after [x, s]).build.types.keys = ["map_string_integer"] ∧
      ((fresh {} {}).after [s]).build.types.keys = [] ∧
      ((fresh {} {}).after [s]).build.missingTypes = ["map_string_integer"]) ∧
    ∃ x s : Submission, ((fresh {} {}).submit x).outcome = .error (.unusable .noMethod) ∧
      ((fresh {} {}).after [x, s]).routes.keys = [] ∧
      ((fresh {} {}).after [s]).routes.keys = ["GET /books"] := by
  constructor
  · refine ⟨{ comment := "@query {map[string]int} pages" },
      { comment := "@resource GET /books\n@response {map_string_integer}" }, ?_⟩
    decide +kernel
  · refine ⟨{ comment := "@query {map[string_a]b} pages" },
      { comment := "@resource GET /books\n@response {map[string]a_b}" }, ?_⟩
    decide +kernel

end Documentation

end RouteDoc
