import RouteDoc.Dict
import RouteDoc.Schema.Definition
import RouteDoc.Schema.Hint

/-!
# The registry of types

Named definitions, and aliases that stand for type expressions.

* `Registry.add`, `Registry.addAlias`: a name is registered once.  To register the same again does
  nothing, to register something else under it is a conflict; so is a name that is both.
* `Registry.register`: adds map types one after the other, up to the first conflict.
* `Registry.bind`: the name under which a class is registered.
-/

namespace RouteDoc

inductive TypeFault where
  /-- Following the aliases leads back to this name. -/
  | aliasCycle (name : String)
  /-- The target of the alias names a type that is not registered. -/
  | unknownTarget (name target : String)
  /-- A map type without a closing bracket, a key or a value. -/
  | malformedMap (expression : String)
  /-- No type is written like this. -/
  | invalidExpression (expression : String)
  /-- The name is registered with another meaning. -/
  | conflict (name : String)
  deriving DecidableEq, Inhabited

namespace TypeFault

/-- A text, and the expression that it is about. -/
def within (text expression : String) : String := s!"{text} (in `{expression}`)"

def message : TypeFault → String
  | .aliasCycle name => within s!"alias loop for `{name}`" name
  | .unknownTarget name target => within s!"alias target `{target}` is not a known type" name
  | .malformedMap e => within "malformed map pattern, expected map[Key]Value" e
  | .invalidExpression e => within "invalid type expression" e
  | .conflict name => s!"type `{name}` is already defined differently"

end TypeFault

/-- Named definitions, aliases for type expressions, and the names of classes. -/
structure Registry where
  definitions : Dict String Definition := ∅
  aliases : Dict String String := ∅
  classes : Dict ClassRef String := ∅
  deriving DecidableEq, Inhabited

namespace Registry

def definition? (r : Registry) (name : String) : Option Definition := r.definitions.get? name

def primitive? (r : Registry) (name : String) : Option Primitive :=
  match r.definition? name with
  | some (.primitive p) => some p
  | _ => none

def target? (r : Registry) (name : String) : Option String := r.aliases.get? name

def knows (r : Registry) (name : String) : Bool :=
  r.definitions.contains name || r.aliases.contains name

/-- Registers a definition under its name.  The answer says whether it is new. -/
def add (r : Registry) (d : Definition) : Except TypeFault (Registry × Bool) :=
  if r.aliases.contains d.name then .error (.conflict d.name)
  else match r.definitions.get? d.name with
    | some old => if old = d then .ok (r, false) else .error (.conflict d.name)
    | none => .ok ({ r with definitions := r.definitions.put d.name d }, true)

/-- Registers an alias.  The answer says whether it is new. -/
def addAlias (r : Registry) (name target : String) : Except TypeFault (Registry × Bool) :=
  if r.definitions.contains name then .error (.conflict name)
  else match r.aliases.get? name with
    | some old => if old = target then .ok (r, false) else .error (.conflict name)
    | none => .ok ({ r with aliases := r.aliases.put name target }, true)

def register (r : Registry) : List MapType → Registry × Except TypeFault Unit
  | [] => (r, .ok ())
  | m :: ms =>
    match r.add (.map m) with
    | .ok (r', _) => register r' ms
    | .error fault => (r, .error fault)

/-- Gives a class the name under which it is registered. -/
def bind (r : Registry) (c : ClassRef) (name : String) : Registry :=
  { r with classes := r.classes.put c name }

/-- The name under which a class is registered. -/
def className? (r : Registry) (c : ClassRef) : Option String := r.classes.get? c

end Registry

end RouteDoc
