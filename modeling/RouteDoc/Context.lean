import RouteDoc.Datum
import RouteDoc.Schema.Layout
import RouteDoc.Schema.Resolve
import RouteDoc.Yaml.Fault

/-!
# Compilation contexts

A context holds what the annotations of one document can refer to: keywords of tags and types.  It
is filled first and sealed then; the first type that is resolved from outside seals it as well.

* `Context.defineKeyword`, `Context.definePrimitive`, `Context.defineAlias`, `Context.defineType`:
  the definitions.  All fail on a sealed context, without any effect.
* `Context.resolve`: resolves a type expression, and seals the context.
* `Context.configure`: a phase in which the context is filled.  It fails on a sealed context, too.
* `Context.newMaps`: the maps that came in between two states.

Every operation gives the context after it.  A definition that fails may leave map types behind
that its expressions have introduced.
-/

namespace RouteDoc

/-- What a tag with a registered keyword is. -/
inductive Category where
  | trait
  | security
  | remark
  deriving DecidableEq, Inhabited

namespace Category

def word : Category → String
  | .trait => "trait"
  | .security => "security"
  | .remark => "annotation"

def ofWord? : String → Option Category
  | "trait" => some .trait
  | "security" => some .security
  | "annotation" => some .remark
  | _ => none

end Category

inductive ConfigFault where
  | alreadyConfigured
  /-- The context is sealed; with what was to be defined. -/
  | isSealed (what : String)
  | keywordClash (name : String) (existing new : Category)
  | unknownCategory (word : String)
  | type (fault : TypeFault)
  | layout (fault : ClassFault)
  /-- A facet takes the place of the name or the base of a narrowed type. -/
  | clashingFacet
  /-- A value is not of the sort that is asked for. -/
  | invalidValue
  | invalidImport (path : String)
  | missingModule (name : String)
  | missingObject (module name : String)
  /-- An import ends in an exception of another kind. -/
  | brokenImport (exception : String)
  | invalidYaml (path : String)
  | notMapping (path : String)
  | invalidConfiguration (path : String)
  /-- A scalar of a configuration file is not what it is spelled like or marked as. -/
  | invalidScalar (fault : Yaml.Fault)
  deriving DecidableEq, Inhabited

/-- The wording of a fault, for those that have one. -/
def ConfigFault.message? : ConfigFault → Option String
  | .alreadyConfigured => some "context is already configured"
  | .isSealed what => some s!"cannot define {what}: the context is sealed"
  | .keywordClash name existing new =>
    some s!"keyword `{name}` is already a {existing.word}, not a {new.word}"
  | .type fault => some fault.message
  | .invalidImport path => some s!"invalid import path `{path}`, expected module:Name"
  | .missingModule name => some s!"cannot import `{name}`"
  | .missingObject module name => some s!"`{module}` has no attribute `{name}`"
  | .invalidYaml path => some s!"invalid YAML in {path}"
  | .notMapping path => some s!"{path}: expected a mapping at the top level"
  | .invalidConfiguration path => some s!"invalid configuration in {path}"
  | .unknownCategory _ | .layout _ | .brokenImport _ | .clashingFacet | .invalidValue
  | .invalidScalar _ => none

/-- The facets that narrow a built-in type. -/
structure Facets where
  description : String := ""
  pattern : Option String := none
  minLength : Option Int := none
  maxLength : Option Int := none
  deriving DecidableEq, Inhabited

structure Context where
  registry : Registry := {}
  keywords : Dict String Category := ∅
  isSealed : Bool := false
  deriving DecidableEq, Inhabited

namespace Context

/-- The context, closed for definitions. -/
def sealed (c : Context) : Context := { c with isSealed := true }

def checkOpen (c : Context) (what : String) : Except ConfigFault Unit :=
  if c.isSealed then .error (.isSealed what) else .ok ()

/-! ## Keywords -/

def category? (c : Context) (keyword : String) : Option Category := c.keywords.get? keyword

def defineKeyword (c : Context) (name : String) (category : Category) :
    Except ConfigFault Context := do
  c.checkOpen s!"keyword `{name}`"
  match c.category? name with
  | some existing =>
    if existing = category then .ok c else .error (.keywordClash name existing category)
  | none => .ok { c with keywords := c.keywords.put name category }

def defineKeywordOf (c : Context) (name word : String) : Except ConfigFault Context := do
  c.checkOpen s!"keyword `{name}`"
  match Category.ofWord? word with
  | some category => c.defineKeyword name category
  | none => .error (.unknownCategory word)

/-! ## Types -/

def add (c : Context) (d : Definition) : Except ConfigFault Context :=
  match c.registry.add d with
  | .ok (r, _) => .ok { c with registry := r }
  | .error fault => .error (.type fault)

def definePrimitive (c : Context) (name base : String) (facets : Facets) :
    Except ConfigFault (Context × Primitive) := do
  c.checkOpen s!"primitive `{name}`"
  let p : Primitive :=
    { name := name
      base := (Form.scalarName? base).getD base
      description := facets.description
      pattern := facets.pattern
      minLength := facets.minLength
      maxLength := facets.maxLength }
  let c ← c.add (.primitive p)
  .ok (c, p)

/-- Resolves a type expression without sealing the context. -/
def resolveOpen (c : Context) (e : String) : Context × Except TypeFault Descriptor :=
  let (r, outcome) := c.registry.resolve e
  ({ c with registry := r }, outcome)

/-- Resolves a type expression and seals the context. -/
def resolve (c : Context) (e : String) : Context × Except TypeFault Descriptor :=
  c.sealed.resolveOpen e

/-- Registers an alias for a type expression whose names are all known. -/
def defineAlias (c : Context) (name target : String) : Context × Except ConfigFault Unit :=
  match c.checkOpen s!"alias `{name}`" with
  | .error fault => (c, .error fault)
  | .ok _ =>
    let target := Text.strip target
    if name = target then (c, .error (.type (.aliasCycle name)))
    else match c.resolveOpen target with
      | (c', .error fault) => (c', .error (.type fault))
      | (c', .ok d) =>
        if d.dependents.all c'.registry.knows = false then
          (c', .error (.type (.unknownTarget name target)))
        else match c'.registry.addAlias name target with
          | .error fault => (c', .error (.type fault))
          | .ok (r, _) => ({ c' with registry := r }, .ok ())

def resolveFields (c : Context) : List FieldSpec → Context × Except TypeFault (List StructField)
  | [] => (c, .ok [])
  | f :: fs =>
    match c.resolveOpen f.expression with
    | (c', .error fault) => (c', .error fault)
    | (c', .ok d) =>
      let (c'', rest) := resolveFields c' fs
      (c'', rest.map (⟨f.name, d, f.optional⟩ :: ·))

/-- Binds the class of a sample to a name, so that it can refer to itself. -/
def bindSample (c : Context) (name : String) (sample : Sample) : Context :=
  match sample.class? with
  | none => c
  | some cls => { c with registry := c.registry.bind cls name }

/-- Registers the class of a sample under its own name too, as an alias of the name given to it. -/
def aliasSample (c : Context) (t : ClassTable) (name : String) (sample : Sample) :
    Except ConfigFault Context :=
  match sample.class? with
  | none => .ok c
  | some cls =>
    if t.className cls = name then .ok c
    else match c.registry.addAlias (t.className cls) name with
      | .ok (r, _) => .ok { c with registry := r }
      | .error fault => .error (.type fault)

/-- Registers a type of objects.  The types of its fields are resolved here. -/
def defineType (c : Context) (t : ClassTable) (name : String) (sample : Sample) :
    Context × Except ConfigFault Struct :=
  match c.checkOpen s!"type `{name}`" with
  | .error fault => (c, .error fault)
  | .ok _ =>
    let c := c.bindSample name sample
    match Layout.describe t c.registry sample with
    | .error fault => (c, .error (.layout fault))
    | .ok (layout, _) =>
      match c.resolveFields layout.fields with
      | (c, .error fault) => (c, .error (.type fault))
      | (c, .ok fields) =>
        let s : Struct := ⟨name, layout.source, fields⟩
        match c.add (.struct s) with
        | .error fault => (c, .error fault)
        | .ok c =>
          match c.aliasSample t name sample with
          | .error fault => (c, .error fault)
          | .ok c => (c, .ok s)

/-- Lets a phase fill the context, and seals it when the phase is over.  A phase that fails leaves the
context as it is by then. -/
def configure {α : Type} (c : Context) (phase : Context → Context × Except ConfigFault α) :
    Context × Except ConfigFault α :=
  if c.isSealed then (c, .error .alreadyConfigured)
  else match phase c with
    | (c', .ok x) => (c'.sealed, .ok x)
    | (c', .error fault) => (c', .error fault)

/-- The names of the map types of `after` that `before` does not have yet. -/
def newMaps (before after : Context) : List String :=
  (after.registry.definitions.entries.drop before.registry.definitions.size).filterMap
    fun e => if e.2.isMap then some e.1 else none

end Context

end RouteDoc
