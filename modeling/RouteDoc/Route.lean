import RouteDoc.Annotation.Example
import RouteDoc.Annotation.Parameter
import RouteDoc.Annotation.Response
import RouteDoc.Dict

/-!
# Routes

A route is a method on a resource, with all that its annotations say about it.

* `Route.signature`: the method and the resource, which tell routes of one document apart.
* `Route.parameters`: the parameters in one place.
-/

namespace RouteDoc

/-- A tag with a registered keyword; its fields are recorded. -/
structure Stub where
  name : String
  fields : List String := []
  deriving DecidableEq, Inhabited

inductive Place where
  | uri
  | query
  | body
  deriving DecidableEq, Inhabited

structure Route where
  /-- The title of the description. -/
  name : String := ""
  method : String := ""
  resource : String := ""
  description : String := ""
  uriParameters : Dict String Parameter := ∅
  queryParameters : Dict String Parameter := ∅
  bodyParameters : Dict String Parameter := ∅
  response : Option Response := none
  examples : Dict String Example := ∅
  traits : Dict String Stub := ∅
  securities : Dict String Stub := ∅
  annotations : Dict String Stub := ∅
  /-- The names that the types of the parameters and of the response depend on. -/
  dependentTypes : List String := []
  deriving DecidableEq, Inhabited

namespace Route

def signature (r : Route) : String := r.method ++ " " ++ r.resource

def parameters (r : Route) : Place → Dict String Parameter
  | .uri => r.uriParameters
  | .query => r.queryParameters
  | .body => r.bodyParameters

/-- Adds the names that a type depends on. -/
def collect (r : Route) (type : Descriptor) : Route :=
  { r with dependentTypes := mergeInto r.dependentTypes type.dependents }

def addParameter (r : Route) (place : Place) (p : Parameter) : Route :=
  let r := match place with
    | .uri => { r with uriParameters := r.uriParameters.put p.name p }
    | .query => { r with queryParameters := r.queryParameters.put p.name p }
    | .body => { r with bodyParameters := r.bodyParameters.put p.name p }
  r.collect p.type

def setResponse (r : Route) (response : Response) : Route :=
  { r with response := some response }.collect response.type

def nextExampleName (r : Route) : String := "Example" ++ toString (r.examples.size + 1)

def addExample (r : Route) (e : Example) : Route :=
  { r with examples := r.examples.put r.nextExampleName e }

end Route

end RouteDoc
