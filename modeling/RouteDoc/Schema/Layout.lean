import RouteDoc.Notice
import RouteDoc.Schema.Declaration
import RouteDoc.Schema.Expression

/-!
# Layouts

The layout of a type of objects: names of fields with type expressions.

* `Sample`: what a type is described by: field names with expressions, or a class.
* `Sample.class?`: the class that is bound to the name of the type.  Only a dictionary has none:
  other mappings are described by their entries, but count as objects of their class.
* `Layout.describe`: the layout of a sample.  Records, models and annotated classes list their
  fields by rules of their own; any other class has no layout.
-/

namespace RouteDoc

structure FieldSpec where
  name : String
  expression : String
  optional : Bool := false
  deriving DecidableEq, Inhabited

/-- Names of fields with type expressions, and the class that they come from. -/
structure Layout where
  source : String := ""
  fields : List FieldSpec := []
  deriving DecidableEq, Inhabited

/-- What a type is described by. -/
inductive Sample where
  /-- A dictionary: names of fields with type expressions. -/
  | fields (entries : Dict String String)
  /-- A mapping of another class. -/
  | mapping (c : ClassRef) (entries : Dict String String)
  /-- A class, or an instance of it. -/
  | class (c : ClassRef)
  deriving DecidableEq, Inhabited

/-- The class that a sample is or belongs to, unless it is a dictionary. -/
def Sample.class? : Sample → Option ClassRef
  | .fields _ => none
  | .mapping c _ | .class c => some c

namespace Layout

/-- The mark of a field that the document leaves out. -/
def hidden : String := "-"

/-- The layout of names with expressions.  A question mark at the end of a name makes it
optional. -/
def ofEntries (entries : Dict String String) : Layout where
  fields := entries.entries.map fun e =>
    { name := String.ofList (Chars.dropEnd (· == '?') e.1.toList)
      expression := e.2
      optional := Text.endsWith e.1 "?" }

def nonempty? : Option String → Option String
  | some "" => none
  | s => s

abbrev Described := FieldSpec × List Notice

/-- A field whose expression is given, or else comes from its hint. -/
def describeField (t : ClassTable) (r : Registry) (name : String) (expression : Option String)
    (hint : Hint) (optional : Bool) : Described :=
  match nonempty? expression with
  | some e => (⟨name, e, optional⟩, [])
  | none =>
    (⟨name, hint.expression t r, optional⟩, List.replicate hint.unsupportedCount .hintUnsupported)

/-- The fields of a model: their labels, or the names under which it writes or reads them. -/
def modelFields (t : ClassTable) (r : Registry) (fields : Dict String ModelField) :
    List Described :=
  fields.values.filterMap fun f =>
    let name := ((nonempty? f.label).orElse fun _ => (nonempty? f.outputAlias).orElse fun _ =>
      nonempty? f.inputAlias).getD f.name
    if f.excluded || name == hidden then none
    else some (describeField t r name f.expression f.hint f.hasDefault)

/-- The hints of a class and its ancestors, the farthest ones first.  If one of them cannot be read
since a name in it is not known, all stay as they are. -/
def hints (t : ClassTable) (place : Nat) : Except ClassFault (Dict String Hint) :=
  let declared := (t.ancestry place).reverse.flatMap fun p =>
    (t.class? p).elim [] fun c => c.hints.entries.map fun e => (p, e)
  let settled : Except HintFault (Dict String Hint) := do
    let d ← declared.foldlM (fun (d : Dict String Hint) (p, name, h) => do
      return d.put name (← (t.environment p).settleField h)) ∅
    d.entries.foldlM (fun (d : Dict String Hint) (name, h) => do
      return d.put name (← h.stripped)) ∅
  match settled with
  | .ok d => .ok d
  | .error (.unknownName _) =>
    .ok (declared.foldl (fun (d : Dict String Hint) (_, name, h) => d.put name h) ∅)
  | .error fault => .error (.hint fault)

def recordFields (t : ClassTable) (r : Registry) (place : Nat)
    (fields : Dict String RecordField) : Except ClassFault (List Described) := do
  let hints ← hints t place
  return fields.values.filterMap fun f =>
    let name := f.label.getD f.name
    if f.isOfClass || name == hidden || isPrivateName f.name then none
    else some (describeField t r name f.expression ((hints.get? f.name).getD f.hint) f.hasDefault)

def annotatedFields (t : ClassTable) (r : Registry) (place : Nat) :
    Except ClassFault (List Described) := do
  let hints ← hints t place
  return hints.entries.filterMap fun (name, hint) =>
    if isPrivateName name || hint.isClassVar then none
    else
      let optional := (t.givenAttribute? place name).isSome || name == Class.order
      some (describeField t r name none hint optional)

def ofClass (t : ClassTable) (r : Registry) (place : Nat) :
    Except ClassFault (Layout × List Notice) := do
  match t.class? place with
  | none => .error .noFields
  | some c =>
    let described ← match c.model, t.recordFields? place with
      | some fields, _ => .ok (modelFields t r fields)
      | none, some fields => recordFields t r place fields
      | none, none => if c.hints.isEmpty then .error .noFields else annotatedFields t r place
    return (⟨c.qualifiedName, described.map Prod.fst⟩, described.flatMap Prod.snd)

def describe (t : ClassTable) (r : Registry) :
    Sample → Except ClassFault (Layout × List Notice)
  | .fields entries | .mapping _ entries => .ok (ofEntries entries, [])
  | .class (.builtin _) => .error .noFields
  | .class (.declared place) => ofClass t r place

end Layout

end RouteDoc
