import RouteDoc.Context
import RouteDoc.Datum.Check
import RouteDoc.Settings

/-!
# Configurations

A configuration holds the settings of a document, and the keywords, narrowed types, types of objects
and aliases that its annotations refer to.

* `Config.ofDatum?`: checks plain data.  Unknown keys are passed over; a value of the wrong sort
  makes the whole invalid.
* `Config.apply`: registers everything in a context, and seals it.  Aliases come before the types of
  objects, whose fields may use them; those whose targets are not known yet come last.
* `Imports.find`: the object that a path `module:Name` refers to, for what can be imported.
-/

namespace RouteDoc

structure PrimitiveConfig where
  base : String := "string"
  description : String := ""
  pattern : Option String := none
  minLength : Option Int := none
  maxLength : Option Int := none
  /-- Stands for both bounds, as far as they are not given. -/
  length : Option Int := none
  deriving DecidableEq, Inhabited

inductive TypeConfig where
  /-- The class that a path refers to. -/
  | imported (path : String)
  /-- Names of fields with type expressions. -/
  | fields (entries : Dict String String)
  deriving DecidableEq, Inhabited

structure Config where
  document : Settings := {}
  keywords : Dict String Category := ∅
  primitives : Dict String PrimitiveConfig := ∅
  types : Dict String TypeConfig := ∅
  aliases : Dict String String := ∅
  deriving DecidableEq, Inhabited

/-! ## Checking plain data -/

def Settings.ofDatum? (d : Datum) : Option Settings := do
  let _ ← d.mapping?
  let s : Settings := {}
  some
    { title := ← d.fieldOr "title" Datum.text? s.title
      description := ← d.fieldOr "description" Datum.text? s.description
      version := ← d.fieldOr "version" Datum.text? s.version
      baseUri := ← d.fieldOr "base_uri" Datum.text? s.baseUri
      mediaType := ← d.fieldOr "media_type" Datum.text? s.mediaType }

def Category.ofDatum? (d : Datum) : Option Category := d.text?.bind Category.ofWord?

def PrimitiveConfig.ofDatum? (d : Datum) : Option PrimitiveConfig := do
  let _ ← d.mapping?
  let int? := Datum.nullable? Datum.int?
  some
    { base := ← d.fieldOr "base" Datum.text? "string"
      description := ← d.fieldOr "description" Datum.text? ""
      pattern := ← d.fieldOr "pattern" (Datum.nullable? Datum.text?) none
      minLength := ← ((d.getEither? "min_length" "minLength").elim (some none) int?)
      maxLength := ← ((d.getEither? "max_length" "maxLength").elim (some none) int?)
      length := ← d.fieldOr "length" int? none }

def TypeConfig.ofDatum? (d : Datum) : Option TypeConfig :=
  match d.text? with
  | some path => some (.imported path)
  | none => (d.dict? Datum.text?).map .fields

def Config.ofDatum? (d : Datum) : Option Config := do
  let _ ← d.mapping?
  some
    { document := ← d.fieldOr "document" Settings.ofDatum? {}
      keywords := ← d.fieldOr "keywords" (Datum.dict? Category.ofDatum?) ∅
      primitives := ← d.fieldOr "primitives" (Datum.dict? PrimitiveConfig.ofDatum?) ∅
      types := ← d.fieldOr "types" (Datum.dict? TypeConfig.ofDatum?) ∅
      aliases := ← d.fieldOr "aliases" (Datum.dict? Datum.text?) ∅ }

namespace Facets

/-- A length stands for a bound that is not among the entries. -/
def bound (entries : List (String × Datum)) (key : String) : Datum :=
  match entries.lookup key with
  | some d => d
  | none => (entries.lookup "length").getD .null

/-- Checks facets that are given by name. -/
def ofEntries (entries : List (String × Datum)) : Except ConfigFault Facets :=
  let given (key : String) (default : Datum) : Datum := (entries.lookup key).getD default
  let checked : Option Facets := do
    if given "kind" (.text "primitive") != .text "primitive" then none
    let description ← (given "description" (.text "")).text?
    let pattern ← Datum.nullable? Datum.text? (given "pattern" .null)
    let minLength ← Datum.nullable? Datum.int? (bound entries "min_length")
    let maxLength ← Datum.nullable? Datum.int? (bound entries "max_length")
    some ⟨description, pattern, minLength, maxLength⟩
  match checked with
  | some facets => .ok facets
  | none => .error .invalidValue

def ofConfig (p : PrimitiveConfig) : Facets :=
  ⟨p.description, p.pattern, p.minLength.or p.length, p.maxLength.or p.length⟩

end Facets

/-- Registers a built-in type narrowed by facets that are given by name. -/
def Context.definePrimitiveOf (c : Context) (name base : String)
    (entries : List (String × Datum)) : Except ConfigFault (Context × Primitive) := do
  if entries.any fun e => ["self", "name", "base"].contains e.1 then .error .clashingFacet
  else
    c.checkOpen s!"primitive `{name}`"
    c.definePrimitive name base (← Facets.ofEntries entries)

/-! ## Imports -/

inductive ImportFault where
  /-- There is nothing of that name. -/
  | missing
  /-- An exception of another kind is raised. -/
  | raised (exception : String)
  deriving DecidableEq, Inhabited

/-- A module: the object that each of its names stands for. -/
abbrev Module := String → Except ImportFault Sample

/-- What can be imported. -/
structure Imports where
  /-- The classes that the objects of modules are made of. -/
  classes : ClassTable
  /-- The module of a name. -/
  load : String → Except ImportFault Module

namespace Imports

/-- The fault of an import, where `absence` says that there is nothing of a name. -/
def fault (absence : ConfigFault) : ImportFault → ConfigFault
  | .missing => absence
  | .raised exception => .brokenImport exception

/-- The object that a path `module:Name` refers to. -/
def find (imports : Imports) (path : String) : Except ConfigFault Sample := do
  match Chars.cutAt? ':' path.toList with
  | some (place@(_ :: _), object@(_ :: _)) =>
    let (place, object) := (String.ofList place, String.ofList object)
    let objects ← (imports.load place).mapError (fault (.missingModule place))
    (objects object).mapError (fault (.missingObject place object))
  | _ => throw (.invalidImport path)

end Imports

/-! ## Application -/

def TypeConfig.sample (imports : Imports) : TypeConfig → Except ConfigFault Sample
  | .imported path => imports.find path
  | .fields entries => .ok (.fields entries)

namespace Config

/-- A context after a step, what the step reports, and whether it has a fault. -/
structure Applied where
  context : Context
  notices : List Notice := []
  outcome : Except ConfigFault Unit := .ok ()

namespace Applied

/-- Goes on, unless there is a fault. -/
def andThen (a : Applied) (f : Context → Applied) : Applied :=
  match a.outcome with
  | .ok _ =>
    let b := f a.context
    { b with notices := a.notices ++ b.notices }
  | .error _ => a

/-- The application of a function to each of several things, up to the first fault. -/
def each {α : Type} (f : Context → α → Applied) : Context → List α → Applied
  | c, [] => { context := c }
  | c, x :: xs => (f c x).andThen fun c => each f c xs

end Applied

def attempt (c : Context) (outcome : Except ConfigFault Context) : Applied :=
  match outcome with
  | .ok c' => { context := c' }
  | .error fault => { context := c, outcome := .error fault }

def applyPrimitive (c : Context) (e : String × PrimitiveConfig) : Applied :=
  attempt c ((c.definePrimitive e.1 e.2.base (Facets.ofConfig e.2)).map Prod.fst)

/-- Registers the aliases whose targets are known, and gives back the others. -/
def aliasPass : Context → List (String × String) →
    Context × Except ConfigFault (List (String × String))
  | c, [] => (c, .ok [])
  | c, (name, target) :: rest =>
    match c.defineAlias name target with
    | (c', .ok _) => aliasPass c' rest
    | (c', .error (.type (.unknownTarget _ _))) =>
      let (c'', pending) := aliasPass c' rest
      (c'', pending.map ((name, target) :: ·))
    | (c', .error fault) => (c', .error fault)

/-- Registers aliases as long as one of them has a known target, and gives back the others. -/
def defineAliases (c : Context) (pending : List (String × String)) :
    Context × Except ConfigFault (List (String × String)) :=
  match aliasPass c pending with
  | (c', .error fault) => (c', .error fault)
  | (c', .ok rest) =>
    if rest.length < pending.length then defineAliases c' rest else (c', .ok rest)
termination_by pending.length

def applyType (imports : Imports) (c : Context) (e : String × TypeConfig) : Applied :=
  match e.2.sample imports with
  | .error fault => { context := c, outcome := .error fault }
  | .ok sample =>
    let (c', outcome) := c.defineType imports.classes e.1 sample
    let created := (c.newMaps c').map Notice.mapCreated
    match outcome with
    | .ok _ => ⟨c', created ++ [.typeConfigured e.1], .ok ()⟩
    | .error fault => ⟨c', created, .error fault⟩

def applyAlias (c : Context) (e : String × String) : Applied :=
  let (c', outcome) := c.defineAlias e.1 e.2
  ⟨c', (c.newMaps c').map .mapCreated, outcome⟩

/-- Registers the aliases whose targets are known, then the types of objects, then the other
aliases. -/
def applyTypes (config : Config) (imports : Imports) (c : Context) : Applied :=
  let (c', outcome) := defineAliases c config.aliases.entries
  let created := (c.newMaps c').map Notice.mapCreated
  match outcome with
  | .error fault => ⟨c', created, .error fault⟩
  | .ok pending =>
    Applied.andThen ⟨c', created, .ok ()⟩ fun c =>
      (Applied.each (applyType imports) c config.types.entries).andThen fun c =>
        Applied.each applyAlias c pending

/-- Registers everything in a context, and seals it. -/
def apply (config : Config) (imports : Imports) (c : Context) : Applied :=
  if c.isSealed then { context := c, outcome := .error .alreadyConfigured }
  else
    let keywords := Applied.each (fun c e => attempt c (c.defineKeyword e.1 e.2)) c
      config.keywords.entries
    ((keywords.andThen fun c => Applied.each applyPrimitive c config.primitives.entries).andThen
      (config.applyTypes imports)).andThen fun c => { context := c.sealed }

end Config

end RouteDoc
