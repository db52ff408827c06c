import RouteDoc.Resource
import RouteDoc.Route.Assembly
import RouteDoc.Settings
import RouteDoc.Source.RouteDefinition

/-!
# Documentations

A documentation collects routes, and the types that they depend on.

* `TypeCollection.collect`: adds the definitions of names, and of all names that they refer to.
* `Documentation.addRoute`: adds a route from a comment and given tags.  A route that cannot be
  part of the document is refused; one with the signature of another replaces it, and the types are
  collected anew.
* `Documentation.build`: the document: settings, nested resources, types, and names without a
  definition.
-/

namespace RouteDoc

structure TypeCollection where
  types : Dict String Definition := ∅
  missing : List String := []
  deriving DecidableEq, Inhabited

namespace TypeCollection

/-- Notes a name that has no definition. -/
def miss (c : TypeCollection) (name : String) : TypeCollection :=
  if name ∈ c.missing then c else { c with missing := c.missing ++ [name] }

/-- For each entry, one more than the number of names in its definition. -/
def total : List (String × Definition) → Nat
  | [] => 0
  | e :: es => e.2.dependents.length + 1 + total es

theorem total_filter_le (p : String × Definition → Bool) (es : List (String × Definition)) :
    total (es.filter p) ≤ total es := by
  induction es with
  | nil => simp [total]
  | cons e es ih => by_cases he : p e <;> grind [total]

theorem total_filter_add_le (p : String × Definition → Bool) {a : String × Definition}
    {es : List (String × Definition)} (ha : a ∈ es) (hp : p a = false) :
    total (es.filter p) + (a.2.dependents.length + 1) ≤ total es := by
  induction es with
  | nil => simp at ha
  | cons e es ih =>
    rcases List.mem_cons.1 ha with rfl | ha
    · have := total_filter_le p es
      grind [total]
    · have := ih ha
      by_cases he : p e <;> grind [total]

/-- The total of the definitions that are not collected yet. -/
def weight (defs : Dict String Definition) (c : TypeCollection) : Nat :=
  total (defs.entries.filter fun e => !c.types.contains e.1)

theorem weight_put_lt {defs : Dict String Definition} {c : TypeCollection} {n : String}
    {d : Definition} (hd : defs.get? n = some d) (hc : c.types.contains n = false) :
    weight defs { c with types := c.types.put n d } + d.dependents.length + 1 ≤ weight defs c := by
  have hmem : (n, d) ∈ defs.entries.filter fun e => !c.types.contains e.1 := by
    simp [Dict.get?_eq_some_iff.1 hd, hc]
  have heq : (defs.entries.filter fun e => !(c.types.put n d).contains e.1) =
      (defs.entries.filter fun e => !c.types.contains e.1).filter fun e => e.1 != n := by
    rw [List.filter_filter]
    congr 1
    funext e
    by_cases h : n = e.1
    · simp [Dict.contains, Dict.get?_put, ← h]
    · simp [Dict.contains, Dict.get?_put, h, Ne.symm h]
  have := total_filter_add_le (fun e => e.1 != n) hmem (by simp)
  simp only [weight, heq]
  simp only at this
  omega

/-- Adds the definitions of the names, and of all names that they refer to, depth first.  It ends,
because a definition is added once. -/
def collect (defs : Dict String Definition) : List String → TypeCollection → TypeCollection
  | [], c => c
  | n :: rest, c =>
    if hc : c.types.contains n = true then collect defs rest c
    else
      match hd : defs.get? n with
      | none => collect defs rest (c.miss n)
      | some d =>
        have := weight_put_lt hd (Bool.eq_false_iff.2 hc)
        collect defs (d.dependents ++ rest) { c with types := c.types.put n d }
termination_by todo c => weight defs c + todo.length
decreasing_by
  · simp
  · have : weight defs (c.miss n) = weight defs c := by
      unfold miss
      split <;> rfl
    simp [this]
  · simp only [List.length_append, List.length_cons]
    omega

/-- The notices about the names that have no definition, between two states. -/
def notices (before after : TypeCollection) : List Notice :=
  (after.missing.drop before.missing.length).map .typeUndefined

end TypeCollection

structure Documentation where
  context : Context
  settings : Settings := {}
  /-- The routes, by signature. -/
  routes : Dict String Route := ∅
  collection : TypeCollection := {}
  deriving Inhabited

structure Document where
  settings : Settings
  resources : List ResourceNode := []
  types : Dict String Definition := ∅
  missingTypes : List String := []
  deriving Inhabited

inductive RouteFault where
  /-- A tag is given something that is no value of tags. -/
  | unsupportedValue
  /-- The definition is neither a handler nor a table of tags. -/
  | unreadableDefinition
  /-- A tag holds a number with more digits than are read. -/
  | overlongNumber
  | unusable (fault : ViabilityFault)
  deriving DecidableEq, Inhabited

def RouteFault.message : RouteFault → String
  | .unsupportedValue => "a tag is given something that is no value of tags"
  | .unreadableDefinition => "the definition is neither a handler nor a table of tags"
  | .overlongNumber => TagFault.overlongNumber.message
  | .unusable fault => fault.message

/-- A documentation after a step, what the step reports, and its outcome. -/
structure Added (α : Type) where
  documentation : Documentation
  notices : List Notice := []
  outcome : Except RouteFault α

namespace Documentation

def definitions (d : Documentation) : Dict String Definition := d.context.registry.definitions

def collect (d : Documentation) (names : List String) : Documentation × List Notice :=
  let collection := d.collection.collect d.definitions names
  ({ d with collection := collection }, TypeCollection.notices d.collection collection)

def recollect (d : Documentation) : Documentation × List Notice :=
  { d with collection := {} }.collect (d.routes.values.flatMap Route.dependentTypes)

/-- Collects the definition of a name.  The answer says whether that is new. -/
def addType (d : Documentation) (name : String) : Documentation × List Notice × Bool :=
  let isNew := !d.collection.types.contains name && d.definitions.contains name
  let (d', notices) := d.collect [name]
  (d', notices, isNew)

def accept (d : Documentation) (r : Route) : Documentation × List Notice :=
  let replaced := d.routes.contains r.signature
  let d := { d with routes := d.routes.put r.signature r }
  if replaced then
    let (d, notices) := d.recollect
    (d, .routeReplaced r.signature :: notices)
  else d.collect r.dependentTypes

def addRouteOf (d : Documentation) (comment : String) (overrides : Dict String TagValue)
    (source : String) : Added Route :=
  let (assembly, assembled) := Route.assemble d.context comment overrides source
  let d := { d with context := assembly.context }
  let r := assembly.route
  match assembled with
  | .error _ => ⟨d, assembly.notices, .error .overlongNumber⟩
  | .ok errors =>
    match r.checkViability errors with
    | .error fault =>
      let name := if source = "" then "unnamed route" else source
      ⟨d, assembly.notices ++ [.routeUnusable fault.message name], .error (.unusable fault)⟩
    | .ok _ =>
      let incoherent := r.uriProblems.map (.routeIncoherent r.resource)
      let (d, notices) := d.accept r
      ⟨d, assembly.notices ++ incoherent ++ notices, .ok r⟩

def addRoute (d : Documentation) (comment : String) (overrides : Dict String Supplied)
    (source : String) : Added Route :=
  match Supplied.tagValues? overrides with
  | some values => d.addRouteOf comment values source
  | none => { documentation := d, outcome := .error .unsupportedValue }

def addHandler (d : Documentation) (definition : RouteDefinition) : Added Route :=
  match definition.read with
  | none => { documentation := d, outcome := .error .unreadableDefinition }
  | some (comment, overrides, notices) =>
    let added := d.addRoute comment overrides definition.label
    { added with notices := notices ++ added.notices }

def build (d : Documentation) : Document where
  settings := d.settings
  resources := ResourceNode.forest d.routes.values
  types := d.collection.types
  missingTypes := d.collection.missing

end Documentation

end RouteDoc
