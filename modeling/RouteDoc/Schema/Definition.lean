/-!
# Types of the document

* `Descriptor`: what a type expression comes to.  Its name is printed in the document; its
  dependents are the names that the document has to declare for it.
* `Definition`: a named type, which is a built-in type narrowed by facets (`Primitive`), a type of
  objects from keys to values (`MapType`) or a type of objects with named fields (`Struct`).
* `Definition.dependents`: the names that a definition refers to.
-/

namespace RouteDoc

inductive Kind where
  | scalar
  | object
  | array
  | map
  | any
  | nil
  deriving DecidableEq, Inhabited

def Kind.word : Kind → String
  | .scalar => "scalar"
  | .object => "object"
  | .array => "array"
  | .map => "map"
  | .any => "any"
  | .nil => "nil"

structure Descriptor where
  kind : Kind
  name : String
  dependents : List String := []
  deriving DecidableEq, Inhabited

structure Primitive where
  name : String
  base : String
  description : String := ""
  pattern : Option String := none
  minLength : Option Int := none
  maxLength : Option Int := none
  deriving DecidableEq, Inhabited

/-- Objects whose members go from keys of one type to values of another. -/
structure MapType where
  name : String
  key : Descriptor
  value : Descriptor
  deriving DecidableEq, Inhabited

structure StructField where
  name : String
  type : Descriptor
  optional : Bool := false
  deriving DecidableEq, Inhabited

/-- Objects with named fields.  The source is the qualified name of the class that the fields come
from, if there is one. -/
structure Struct where
  name : String
  source : String := ""
  fields : List StructField := []
  deriving DecidableEq, Inhabited

inductive Definition where
  | primitive (p : Primitive)
  | map (m : MapType)
  | struct (s : Struct)
  deriving DecidableEq, Inhabited

namespace Definition

def name : Definition → String
  | .primitive p => p.name
  | .map m => m.name
  | .struct s => s.name

/-- The names that a definition refers to. -/
def dependents : Definition → List String
  | .primitive _ => []
  | .map m => m.key.dependents ++ m.value.dependents
  | .struct s => s.fields.flatMap fun f => f.type.dependents

def isMap : Definition → Bool
  | .map _ => true
  | _ => false

end Definition

end RouteDoc
