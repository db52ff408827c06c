/-!
# Notices

What the library reports beside its results: things that were skipped, replaced or left undefined,
and steps on the way.  A notice has a level, the part of the program that it comes from, and a
text.
-/

namespace RouteDoc

inductive Level where
  | debug
  | info
  | warning
  | error
  deriving DecidableEq, Inhabited

namespace Level

def word : Level → String
  | .debug => "DEBUG"
  | .info => "INFO"
  | .warning => "WARNING"
  | .error => "ERROR"

def rank : Level → Nat
  | .debug => 10
  | .info => 20
  | .warning => 30
  | .error => 40

end Level

inductive Notice where
  /-- A map expression was given a type of its own. -/
  | mapCreated (name : String)
  /-- An allowed value is no value of the base type. -/
  | enumValueDropped (keyword value base : String)
  /-- A line stands between the URI of an example and what follows it. -/
  | exampleLineIgnored (line : String)
  /-- A tag cannot be applied; with the wording of its fault. -/
  | tagSkipped (fault source : String)
  /-- A route cannot be part of the document; with the reason. -/
  | routeUnusable (reason source : String)
  | routeIncoherent (resource problem : String)
  | routeReplaced (signature : String)
  | typeUndefined (name : String)
  /-- A type hint stands for no type of the document. -/
  | hintUnsupported
  | handlerUndocumented (name : String)
  | docstringsUnreadable (source : String)
  | typeConfigured (name : String)
  | documentWritten (path : String)
  deriving DecidableEq, Inhabited

namespace Notice

def level : Notice → Level
  | .mapCreated _ | .exampleLineIgnored _ | .typeConfigured _ => .debug
  | .documentWritten _ => .info
  | _ => .warning

/-- The part of the program that reports. -/
def origin : Notice → String
  | .mapCreated _ => "doc2raml.schema.resolver"
  | .enumValueDropped .. | .exampleLineIgnored _ => "doc2raml.parser.fields"
  | .tagSkipped .. => "doc2raml.route"
  | .routeUnusable .. | .routeIncoherent .. | .routeReplaced _ | .typeUndefined _ =>
    "doc2raml.documentation"
  | .hintUnsupported => "doc2raml.schema.introspect"
  | .handlerUndocumented _ | .docstringsUnreadable _ => "doc2raml.reader"
  | .typeConfigured _ => "doc2raml.config"
  | .documentWritten _ => "doc2raml.render.raml"

def text : Notice → String
  | .mapCreated name => s!"creation of type map {name}"
  | .enumValueDropped keyword value base =>
    s!"@{keyword}: enum value `{value}` is not a valid {base}, skipped"
  | .exampleLineIgnored line => s!"ignoring example line after the uri: {line}"
  | .tagSkipped fault source => s!"{fault} ({source})"
  | .routeUnusable reason source => s!"unusable route: {reason} ({source})"
  | .routeIncoherent resource problem => s!"incoherent route {resource}: {problem}"
  | .routeReplaced signature =>
    s!"route {signature} is defined twice, the last definition wins"
  | .typeUndefined name => s!"type `{name}` is used but never defined"
  | .hintUnsupported => "unsupported annotation, using any"
  | .handlerUndocumented name => s!"no comments for the function: {name}"
  | .docstringsUnreadable source => s!"cannot read docstrings of {source}"
  | .typeConfigured name => s!"type {name} defined from configuration"
  | .documentWritten path => s!"RAML document written to {path}"

def line (n : Notice) : String := s!"{n.level.word} {n.origin}: {n.text}"

end Notice

end RouteDoc
