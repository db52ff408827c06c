import RouteDoc.Proofs.Documentation.Sealed

/-!
# What a route that is added leaves alone

A route is put together in the context of the documentation, and all its types are resolved there
before it turns out whether it can be part of the document.

* `Context.Accrues`: what becomes of a context on the way: it is sealed, and map types come in.
* `Documentation.Kept`: a documentation that is left as it was, up to its context.
* `Documentation.Takes`: a documentation that takes up a route under its signature, the others
  staying as they are.
* `Documentation.kept_submit`, `Documentation.takes_submit`: a route that fails, and one that
  succeeds.  `Documentation.frame_submit`: **the one leaves the documentation as it was, the other
  only takes its own place**.
-/

namespace RouteDoc

namespace Context

variable {c c' : Context}

/-- A context may be sealed, and map types may come in behind the definitions.  Nothing else
changes. -/
structure Accrues (c c' : Context) : Prop where
  keywords_eq : c'.keywords = c.keywords
  isSealed : c.isSealed = true → c'.isSealed = true
  grows : Registry.Grows c.registry c'.registry

theorem Accrues.refl (c : Context) : c.Accrues c := ⟨rfl, id, .refl _⟩

end Context

namespace Documentation

variable {d d' : Documentation} {r : Route} {s : Submission}

/-- Whatever becomes of the route, all that happens to the context is what its tags do. -/
theorem accrues_submit (d : Documentation) (s : Submission) :
    d.context.Accrues (d.submit s).documentation.context := by
  obtain ⟨a, ha, heq⟩ := d.changes_submit s
  rw [heq]
  exact ⟨ha.keywords_eq, ha.isSealed, ha.grows⟩

/-- The documentation is left as it was: its routes, the types collected and those missing, and its
settings.  Map types may have come into its context. -/
structure Kept (d d' : Documentation) : Prop where
  routes_eq : d'.routes = d.routes
  types_eq : d'.collection.types = d.collection.types
  missing_eq : d'.collection.missing = d.collection.missing
  settings_eq : d'.settings = d.settings
  context : d.context.Accrues d'.context

theorem Kept.refl (d : Documentation) : d.Kept d := ⟨rfl, rfl, rfl, rfl, .refl _⟩

/-- The documentation takes up a route.  It stands under its signature, in the place of the route
that stood there or else behind all others, and the others stay as they are. -/
structure Takes (d : Documentation) (r : Route) (d' : Documentation) : Prop where
  get?_signature : d'.routes.get? r.signature = some r
  get?_of_ne : ∀ {name}, name ≠ r.signature → d'.routes.get? name = d.routes.get? name
  keys_eq : d'.routes.keys =
    if r.signature ∈ d.routes.keys then d.routes.keys else d.routes.keys ++ [r.signature]
  settings_eq : d'.settings = d.settings
  context : d.context.Accrues d'.context

/-- To put a route under its signature changes the entry of this signature only. -/
theorem takes_of_routes_eq (hroutes : d'.routes = d.routes.put r.signature r)
    (hsettings : d'.settings = d.settings) (hcontext : d.context.Accrues d'.context) :
    d.Takes r d' where
  get?_signature := by rw [hroutes, Dict.get?_put, if_pos rfl]
  get?_of_ne hname := by rw [hroutes, Dict.get?_put, if_neg (Ne.symm hname)]
  keys_eq := by rw [hroutes, Dict.keys_put]
  settings_eq := hsettings
  context := hcontext

theorem kept_submit {fault : RouteFault} (h : (d.submit s).outcome = .error fault) :
    d.Kept (d.submit s).documentation := by
  have hcontext := d.accrues_submit s
  have hsubmitted := submitted_submit d s
  rw [h] at hsubmitted
  generalize (d.submit s).documentation = d' at hcontext hsubmitted ⊢
  cases hsubmitted with
  | unsupported => exact .refl d
  | rejected _ _ _ => exact ⟨rfl, rfl, rfl, rfl, hcontext⟩

/-- What is no value of tags is noticed before anything is put together. -/
theorem submit_of_unsupportedValue (h : (d.submit s).outcome = .error .unsupportedValue) :
    (d.submit s).documentation = d := by
  have hsubmitted := submitted_submit d s
  rw [h] at hsubmitted
  generalize (d.submit s).documentation = d' at hsubmitted ⊢
  cases hsubmitted with
  | unsupported => rfl
  | rejected hfault _ _ => exact absurd rfl hfault

theorem takes_submit (h : (d.submit s).outcome = .ok r) :
    d.Takes r (d.submit s).documentation := by
  have hcontext := d.accrues_submit s
  have hsubmitted := submitted_submit d s
  rw [h] at hsubmitted
  generalize (d.submit s).documentation = d' at hcontext hsubmitted ⊢
  cases hsubmitted with
  | accepted _ _ _ => exact takes_of_routes_eq (routes_accept _ r) (settings_accept _ r) hcontext

/-- **A route that fails leaves the documentation as it was**, whether it is given something that is
no value of tags or turns out to be unusable after all its types are resolved.  **A route that
succeeds only takes its own place.** -/
theorem frame_submit (d : Documentation) (s : Submission) :
    (∀ fault, (d.submit s).outcome = .error fault → d.Kept (d.submit s).documentation) ∧
      ((d.submit s).outcome = .error .unsupportedValue → (d.submit s).documentation = d) ∧
      ∀ r, (d.submit s).outcome = .ok r → d.Takes r (d.submit s).documentation :=
  ⟨fun _ => kept_submit, submit_of_unsupportedValue, fun _ => takes_submit⟩

/-- A route without a method leaves a map type behind, a number for a tag leaves nothing, and a
route that is described anew stays in its place. -/
theorem frame_submit_books :
    let d := (fresh {} {}).after
      [{ comment := "@resource GET /books" }, { comment := "@resource POST /books" }]
    let x : Submission := { comment := "@query {map[string]int} pages" }
    let y : Submission :=
      { comment := "@resource GET /pages", overrides := Dict.ofList [("query", .datum (.int 3))] }
    let z : Submission := { comment := "@resource GET /books\n@response {[]Book}" }
    ((d.submit x).outcome = .error (.unusable .noMethod) ∧ d.Kept (d.submit x).documentation ∧
      (d.submit x).documentation.definitions.keys = ["map_string_integer"]) ∧
    ((d.submit y).outcome = .error .unsupportedValue ∧ (d.submit y).documentation = d) ∧
    ∃ r, (d.submit z).outcome = .ok r ∧ d.Takes r (d.submit z).documentation ∧
      (d.submit z).documentation.routes.keys = ["GET /books", "POST /books"] := by
  intro d x y z
  have hx : (d.submit x).outcome = .error (.unusable .noMethod) := by decide +kernel
  have hy : (d.submit y).outcome = .error .unsupportedValue := by decide +kernel
  have hz : (d.submit z).outcome.toOption.isSome = true := by decide +kernel
  refine ⟨⟨hx, (frame_submit d x).1 _ hx, by decide +kernel⟩,
    ⟨hy, (frame_submit d y).2.1 hy⟩, ?_⟩
  cases houtcome : (d.submit z).outcome with
  | error fault =>
    rw [houtcome] at hz
    exact absurd hz (by simp [Except.toOption])
  | ok r => exact ⟨r, rfl, (frame_submit d z).2.2 r houtcome, by decide +kernel⟩

end Documentation

end RouteDoc
