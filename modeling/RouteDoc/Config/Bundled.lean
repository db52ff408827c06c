import RouteDoc.Config

/-!
# Bundled modules

* `Imports.bundled`: the classes of this library that a configuration can import, and those of the
  module `pathlib`.
-/

namespace RouteDoc.Imports

def model (name : String) (fields : List ModelField) : Class where
  name := name
  qualifiedName := "doc2raml.parser.base." ++ name
  kind := .model
  model := some (Dict.ofList (fields.map fun f => (f.name, f)))

def textHint : Hint := .of (.builtin .str)

def exampleClass : Class := model "Example"
  [{ name := "description", hint := textHint, hasDefault := true },
   { name := "uri", hint := textHint, hasDefault := true },
   { name := "body", hint := textHint, hasDefault := true },
   { name := "code", hint := .union true [.of (.builtin .int), .absent], hasDefault := true },
   { name := "response", hint := textHint, hasDefault := true }]

def stubClass : Class := model "TagStub"
  [{ name := "name", hint := textHint },
   { name := "fields", hint := .generic .list [textHint], hasDefault := true }]

def modules : List (String × List (String × ClassRef)) :=
  [("pathlib", [("Path", .builtin (.other "Path"))]),
   ("doc2raml.parser.base", [("Example", .declared 0), ("TagStub", .declared 1)])]

/-- The object of a name that is looked up among the classes of a module. -/
def moduleOf (classes : List (String × ClassRef)) : Module := fun name =>
  match classes.lookup name with
  | some c => .ok (.class c)
  | none => .error .missing

/-- These modules and no others.  A relative name refers to no module, since there is none that it
starts from. -/
def bundled : Imports where
  classes := [exampleClass, stubClass]
  load name :=
    if Text.startsWith name "." then .error (.raised "TypeError")
    else match modules.lookup name with
      | some classes => .ok (moduleOf classes)
      | none => .error .missing

end RouteDoc.Imports
