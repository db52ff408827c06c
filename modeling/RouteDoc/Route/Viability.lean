import RouteDoc.Annotation.Block
import RouteDoc.Annotation.Fault
import RouteDoc.Route

/-!
# Viable routes

What a route needs to be part of a document, and what it should have.

* `uriVariables`: the names in braces in a resource.
* `Route.checkViability`: a method, a resource, and a response whose type can be resolved.
* `Route.uriProblems`: variables that are no parameters, and parameters that are no variables.
-/

namespace RouteDoc

/-- The names in braces, when `name` is the text since the last opening brace, if it is still open.
Braces are taken innermost, and empty ones do not count. -/
def variablesFrom (name : Option (List Char)) : List Char → List (List Char)
  | [] => []
  | '{' :: r => variablesFrom (some []) r
  | '}' :: r =>
    match name with
    | some (c :: cs) => (c :: cs).reverse :: variablesFrom none r
    | _ => variablesFrom none r
  | c :: r => variablesFrom (name.map (c :: ·)) r

/-- The names in braces in a resource. -/
def uriVariables (resource : String) : List String :=
  (variablesFrom none resource.toList).map String.ofList

inductive ViabilityFault where
  | noMethod
  | noResource
  | unresolvedResponse (fault : TypeFault)
  deriving DecidableEq, Inhabited

def ViabilityFault.message : ViabilityFault → String
  | .noMethod => "no method found"
  | .noResource => "no resource found"
  | .unresolvedResponse fault => s!"unresolvable response type: {fault.message}"

/-- The fault in the type of a response, if that is what an error is about. -/
def TagError.responseFault? (e : TagError) : Option TypeFault :=
  match e.fault with
  | .type fault => if e.keyword = Keyword.response then some fault else none
  | _ => none

namespace Route

/-- Whether a route, with the errors of its tags, can be part of a document. -/
def checkViability (r : Route) (errors : List TagError) : Except ViabilityFault Unit :=
  if r.method = "" then .error .noMethod
  else if r.resource = "" then .error .noResource
  else match errors.findSome? TagError.responseFault? with
    | some fault => .error (.unresolvedResponse fault)
    | none => .ok ()

/-- The mismatches between the variables of the resource and the parameters. -/
def uriProblems (r : Route) : List String :=
  let vars := uriVariables r.resource
  let undocumented := vars.filter (· ∉ r.uriParameters.keys)
  let unused := r.uriParameters.keys.filter (· ∉ vars)
  undocumented.map (fun v => s!"uri parameter `{v}` is not documented") ++
    unused.map (fun v => s!"uri parameter `{v}` does not appear in the resource")

end Route

end RouteDoc
