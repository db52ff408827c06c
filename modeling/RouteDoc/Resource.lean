import RouteDoc.Route.Viability
import RouteDoc.Text.Split

/-!
# Nested resources

Routes are grouped by resource, and each resource is attached to the longest other one that it
extends by whole segments.

* `Resource.parent?`: the resource that another is attached to.
* `ResourceNode`: a resource with its routes, its parameters and the resources below it.
* `ResourceNode.forest`: the nodes for a list of routes.
* `ResourceNode.walk`: a node and all below it, depth first.
-/

namespace RouteDoc

namespace Resource

def slashes (uri : String) : Nat := uri.toList.count '/'

/-- The order of resources: fewer segments first, then by code points. -/
def before (a b : String) : Bool :=
  slashes a < slashes b || (slashes a == slashes b && decide (a ≤ b))

def sort (uris : List String) : List String := uris.mergeSort before

/-- The cuts of a list of segments in front of its last ones, at least two segments on the left,
the longest left part first. -/
def cuts (segments : List (List Char)) : List (List (List Char) × List (List Char)) :=
  ((List.range segments.length).reverse.filter (2 ≤ ·)).map fun i =>
    (segments.take i, segments.drop i)

/-- The longest of the given resources that a resource extends by whole segments, and the segments
by which it does. -/
def parent? (uris : List String) (uri : String) : Option (String × String) :=
  (cuts (Chars.splitAt '/' uri.toList)).findSome? fun (base, suffix) =>
    let base := String.ofList (Chars.joinWith ['/'] base)
    if base ∈ uris then some (base, String.ofList ('/' :: Chars.joinWith ['/'] suffix)) else none

end Resource

/-- The routes of one resource, by method, and the parameters of its URI. -/
structure ResourceEntry where
  methods : Dict String Route := ∅
  uriParameters : Dict String Parameter := ∅
  deriving DecidableEq, Inhabited

def ResourceEntry.add (e : ResourceEntry) (r : Route) : ResourceEntry where
  methods := e.methods.put r.method r
  uriParameters := e.uriParameters.union r.uriParameters

def ResourceEntry.index (routes : List Route) : Dict String ResourceEntry :=
  routes.foldl (fun d r => d.put r.resource (((d.get? r.resource).getD {}).add r)) ∅

/-- A resource in the document, with the resources below it.  Its key is its path below the
resource above it, or the whole path. -/
inductive ResourceNode where
  | node (uri key : String) (methods : Dict String Route) (uriParameters : Dict String Parameter)
      (children : List ResourceNode)
  deriving Inhabited

namespace ResourceNode

def uri : ResourceNode → String
  | .node uri _ _ _ _ => uri

/-- The path below the resource above. -/
def key : ResourceNode → String
  | .node _ key _ _ _ => key

def methods : ResourceNode → Dict String Route
  | .node _ _ methods _ _ => methods

def uriParameters : ResourceNode → Dict String Parameter
  | .node _ _ _ ps _ => ps

def children : ResourceNode → List ResourceNode
  | .node _ _ _ _ children => children

def ofEntry (uris : List String) (uri : String) (entry : ResourceEntry)
    (children : List ResourceNode) : ResourceNode :=
  let key := ((Resource.parent? uris uri).map Prod.snd).getD uri
  let vars := uriVariables key
  .node uri key entry.methods (entry.uriParameters.filter fun name _ => vars.contains name)
    children

/-- Puts a resource in front of the nodes of greater ones, below it those that it is the parent
of. -/
def attach (uris : List String) (index : Dict String ResourceEntry) (uri : String)
    (nodes : List ResourceNode) : List ResourceNode :=
  let isChild (n : ResourceNode) : Bool :=
    (Resource.parent? uris n.uri).map Prod.fst == some uri
  let (children, others) := nodes.partition isChild
  ofEntry uris uri ((index.get? uri).getD {}) children :: others

def forest (routes : List Route) : List ResourceNode :=
  let index := ResourceEntry.index routes
  (Resource.sort index.keys).foldr (attach index.keys index) []

mutual

def walk : ResourceNode → List ResourceNode
  | .node uri key methods ps children => .node uri key methods ps children :: walkAll children

def walkAll : List ResourceNode → List ResourceNode
  | [] => []
  | n :: ns => walk n ++ walkAll ns

end

end ResourceNode

end RouteDoc
