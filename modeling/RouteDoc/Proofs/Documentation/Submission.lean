import RouteDoc.Proofs.Documentation.Run
import RouteDoc.Proofs.Route.Closed
import Mathlib.Data.List.Induction

/-!
# Routes that are added one after the other

* `Documentation.submit`, `Documentation.after`, `Documentation.outcomes`: what a documentation is,
  and what it answers, when routes are added, whether they are accepted or not.
* `Documentation.Submitted`: what one route that is added can do.  `submitted_submit`: **nothing
  else happens**.
* `Documentation.after_induct`: what every single route keeps, all of them keep.
* `Documentation.routes_after`: **a signature stands for the last route that was accepted under
  it**.
* `Documentation.Held`: the routes stand under their signatures.
-/

namespace RouteDoc

structure Submission where
  comment : String
  overrides : Dict String Supplied := ∅
  source : String := ""

namespace Documentation

variable {d : Documentation} {r : Route} {s : Submission} {ss ts : List Submission}

def fresh (c : Context) (settings : Settings) : Documentation :=
  { context := c, settings := settings }

def submit (d : Documentation) (s : Submission) : Added Route :=
  d.addRoute s.comment s.overrides s.source

def after (d : Documentation) (ss : List Submission) : Documentation :=
  ss.foldl (fun d s => (d.submit s).documentation) d

/-- What becomes of several routes. -/
def outcomes : Documentation → List Submission → List (Except RouteFault Route)
  | _, [] => []
  | d, s :: ss => (d.submit s).outcome :: outcomes (d.submit s).documentation ss

def accepted (d : Documentation) (ss : List Submission) : List Route :=
  (d.outcomes ss).filterMap Except.toOption

theorem after_cons (d : Documentation) (s : Submission) (ss : List Submission) :
    d.after (s :: ss) = (d.submit s).documentation.after ss :=
  rfl

theorem after_append (d : Documentation) (ss ts : List Submission) :
    d.after (ss ++ ts) = (d.after ss).after ts :=
  List.foldl_append

theorem outcomes_append (d : Documentation) (ss ts : List Submission) :
    d.outcomes (ss ++ ts) = d.outcomes ss ++ (d.after ss).outcomes ts := by
  induction ss generalizing d with
  | nil => rfl
  | cons s ss ih => rw [List.cons_append, outcomes, ih, outcomes, List.cons_append, after_cons]

theorem length_outcomes (d : Documentation) (ss : List Submission) :
    (d.outcomes ss).length = ss.length := by
  induction ss generalizing d with
  | nil => rfl
  | cons s ss ih => rw [outcomes, List.length_cons, ih, List.length_cons]

/-! ## Single routes -/

@[simp] theorem context_accept (d : Documentation) (r : Route) :
    (d.accept r).1.context = d.context := by
  unfold accept
  simp only
  split <;> rfl

@[simp] theorem settings_accept (d : Documentation) (r : Route) :
    (d.accept r).1.settings = d.settings := by
  unfold accept
  simp only
  split <;> rfl

@[simp] theorem routes_accept (d : Documentation) (r : Route) :
    (d.accept r).1.routes = d.routes.put r.signature r := by
  unfold accept
  simp only
  split <;> rfl

/-- The types of all routes are collected anew if one is replaced, else those of the new one are
added. -/
theorem collection_accept (d : Documentation) (r : Route) : (d.accept r).1.collection =
    if r.signature ∈ d.routes.keys then
      ({} : TypeCollection).collect d.definitions
        ((d.routes.put r.signature r).values.flatMap Route.dependentTypes)
    else d.collection.collect d.definitions r.dependentTypes := by
  unfold accept
  simp only [Dict.contains_iff]
  split <;> rfl

/-- What a route that is added can do: nothing at all, if it is given something that is no value of
tags; or to be rejected for another fault, and leave map types behind; or to be accepted. -/
inductive Submitted (d : Documentation) : Documentation → Except RouteFault Route → Prop
  | unsupported : Submitted d d (.error .unsupportedValue)
  | rejected {c : Context} {fault : RouteFault} : fault ≠ .unsupportedValue →
      Registry.Grows d.context.registry c.registry → c.keywords = d.context.keywords →
      Submitted d { d with context := c } (.error fault)
  | accepted {c : Context} {r : Route} : Registry.Grows d.context.registry c.registry →
      c.keywords = d.context.keywords → r.resource.toList.head? = some '/' →
      Submitted d (({ d with context := c } : Documentation).accept r).1 (.ok r)

theorem resource_ne_of_checkViability {errors : List TagError} {u : Unit}
    (h : r.checkViability errors = .ok u) : r.resource ≠ "" := by
  intro hempty
  simp only [Route.checkViability, hempty] at h
  split at h <;> exact absurd h (by simp)

/-- **Nothing else happens** when a route is added. -/
theorem submitted_submit (d : Documentation) (s : Submission) :
    Submitted d (d.submit s).documentation (d.submit s).outcome := by
  unfold submit addRoute
  split
  · rename_i values _
    have hgrows := (Assembly.changes_assemble d.context s.comment values s.source).grows
    have hkeywords := (Assembly.changes_assemble d.context s.comment values s.source).keywords_eq
    have hrooted := Route.rooted_assemble d.context s.comment values s.source
    unfold addRouteOf
    generalize Route.assemble d.context s.comment values s.source = assembled at *
    obtain ⟨assembly, fault | errors⟩ := assembled
    · exact .rejected (by simp) hgrows hkeywords
    simp only
    split
    · exact .rejected (by simp) hgrows hkeywords
    · rename_i hviable
      have hresource := resource_ne_of_checkViability hviable
      exact .accepted hgrows hkeywords (hrooted.resolve_left hresource)
  · exact .unsupported

/-! ## Several routes -/

/-- What every single route keeps, all of them keep. -/
theorem after_induct {P : Documentation → Prop} (hd : P d)
    (step : ∀ d d' outcome, Submitted d d' outcome → P d → P d') : P (d.after ss) :=
  List.foldlRecOn ss _ hd fun d hd s _ => step d _ _ (submitted_submit d s) hd

theorem settings_after (d : Documentation) (ss : List Submission) :
    (d.after ss).settings = d.settings := by
  refine after_induct (P := fun e => e.settings = d.settings) rfl fun e e' outcome h he => ?_
  cases h with
  | accepted => rw [settings_accept, he]
  | _ => exact he

/-- Routes only add map types to the registry. -/
theorem grows_after (d : Documentation) (ss : List Submission) :
    Registry.Grows d.context.registry (d.after ss).context.registry := by
  refine after_induct (P := fun e => Registry.Grows d.context.registry e.context.registry)
    (.refl _) fun e e' outcome h he => ?_
  cases h with
  | unsupported => exact he
  | rejected _ hgrows _ => exact he.trans hgrows
  | accepted hgrows _ _ =>
    rw [context_accept]
    exact he.trans hgrows

/-- The routes stand under their signatures, and their resources begin with a slash. -/
structure Held (d : Documentation) : Prop where
  signature : ∀ e ∈ d.routes.entries, e.2.signature = e.1
  rooted : ∀ e ∈ d.routes.entries, e.2.resource.toList.head? = some '/'

theorem Held.accept (hd : d.Held) (hr : r.resource.toList.head? = some '/') :
    (d.accept r).1.Held := by
  have hput : ∀ e ∈ (d.accept r).1.routes.entries, e = (r.signature, r) ∨ e ∈ d.routes.entries := by
    rintro ⟨name, s⟩ he
    rw [routes_accept, ← Dict.get?_eq_some_iff, Dict.get?_put] at he
    split at he
    · rename_i hname
      exact .inl (by rw [← hname, Option.some.inj he])
    · exact .inr (Dict.get?_eq_some_iff.1 he)
  constructor
  · intro e he
    rcases hput e he with rfl | he
    · rfl
    · exact hd.signature e he
  · intro e he
    rcases hput e he with rfl | he
    · exact hr
    · exact hd.rooted e he

theorem held_after (c : Context) (settings : Settings) (ss : List Submission) :
    ((fresh c settings).after ss).Held := by
  refine after_induct ⟨?_, ?_⟩ fun d d' outcome h hd => ?_
  · exact fun _ h => absurd h List.not_mem_nil
  · exact fun _ h => absurd h List.not_mem_nil
  · cases h with
    | accepted _ _ hslash => exact Held.accept ⟨hd.signature, hd.rooted⟩ hslash
    | _ => exact ⟨hd.signature, hd.rooted⟩

/-- **A signature stands for the last route that was accepted under it.** -/
theorem routes_after (d : Documentation) (hd : d.routes = ∅) (ss : List Submission)
    (name : String) : (d.after ss).routes.get? name =
      ((d.accepted ss).filter (·.signature = name)).getLast? := by
  induction ss using List.reverseRecOn with
  | nil => rw [after, List.foldl_nil, hd]; rfl
  | append_singleton ss s ih =>
    have hstep := submitted_submit (d.after ss) s
    rw [accepted, outcomes_append, List.filterMap_append, ← accepted, List.filter_append,
      List.getLast?_append, ← ih, after_append, after_cons, outcomes]
    generalize ((d.after ss).submit s).documentation = e at hstep ⊢
    generalize ((d.after ss).submit s).outcome = outcome at hstep ⊢
    cases hstep with
    | @accepted c r =>
      show (Documentation.accept _ r).1.routes.get? name = _
      rw [routes_accept, Dict.get?_put]
      by_cases hname : r.signature = name <;> simp [outcomes, Except.toOption, hname]
    | _ => rfl

end Documentation

end RouteDoc
