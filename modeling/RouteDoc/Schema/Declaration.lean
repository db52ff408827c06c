import RouteDoc.Schema.Model

/-!
# Declarations of classes

* `ClassTable.classOf`: the class that a declaration makes.  It may refer to those before it.
* `ClassTable.declare`: the table with one more class.
-/

namespace RouteDoc.ClassTable

variable (t : ClassTable)

def hasTwoDefaults (f : ClassField) : Bool := f.default.isSome && f.hasFactory

/-- A field with that alone that counts in a class of some kind. -/
def relevant (kind : ClassKind) (f : ClassField) : ClassField :=
  match kind with
  | .model => f
  | .record =>
    { name := f.name, hint := f.hint, default := f.default, hasFactory := f.hasFactory
      label := f.label, expression := f.expression }
  | _ => { name := f.name, hint := f.hint, default := f.default, hasFactory := f.hasFactory }

/-- The class that a declaration makes.  One that inherits from a model is a model. -/
def classOf (d : ClassDecl) : Except ClassFault Class := do
  let bases := d.bases.filterMap t.place?
  let isModel := d.kind == .model || bases.any t.isModel
  let fields := d.fields.map (relevant d.kind)
  if fields.any hasTwoDefaults then
    if d.kind = .model then .error (.twoDefaults true)
    else if d.kind = .record then .error (.twoDefaults false)
  let g := GivenFields.of (if d.kind = .record then Given.ofField else Given.ofPlainField) fields
  let given := Dict.ofList ((fields.filterMap ModelField.given?).map fun f => (f.name, f))
  if d.kind = .model then Class.checkPrivate g.hints given
  let c : Class :=
    { name := d.name, qualifiedName := d.qualifiedName, kind := d.kind
      ancestors := ← t.ancestorsOf? d.bases, hints := g.hints, attributes := g.attributes }
  match d.kind with
  | .enumeration sort => c.ofEnumeration sort d.members
  | kind =>
    if isModel then
      let c := { c with kind := .model }
      c.asModel (t ++ [c]) t.length bases given
    else if kind = .record then c.asRecord t g
    else return c

def declare (d : ClassDecl) : Except ClassFault ClassTable := do
  return t ++ [← t.classOf d]

end RouteDoc.ClassTable
