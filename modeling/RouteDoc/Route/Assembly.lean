import RouteDoc.Annotation.Block
import RouteDoc.Annotation.Description
import RouteDoc.Annotation.Endpoint
import RouteDoc.Annotation.Resolved
import RouteDoc.Annotation.TagValue
import RouteDoc.Route

/-!
# Assembly of routes

A route is put together tag by tag.

* `Assembly.addTag`: applies one tag.  A tag of several groups that fails keeps what the groups
  before the fault have added.
* `Assembly.addTags`: applies tags one after the other.  Those that fail are reported, and do not
  stop the others, unless it is for a number with more digits than are read.
* `Route.assemble`: the route of given tags and of a comment, the given tags first.
-/

namespace RouteDoc

/-- A route on the way, the context in which its types are resolved, and what was reported. -/
structure Assembly where
  context : Context
  route : Route := {}
  notices : List Notice := []
  deriving Inhabited

namespace Assembly

/-- The assembly after a step, and whether the step has a fault. -/
abbrev Step := Assembly × Except TagFault Unit

def advance (a : Assembly) (c : Context) (notices : List Notice) : Assembly :=
  { a with context := c, notices := a.notices ++ notices }

def change (a : Assembly) (f : Route → Route) : Step := ({ a with route := f a.route }, .ok ())

def refuse (a : Assembly) (fault : FieldFault) : Step := (a, .error (.fields fault))

/-- Takes a step for each group, up to the first fault. -/
def eachGroup (f : Assembly → List String → Step) : Assembly → List (List String) → Step
  | a, [] => (a, .ok ())
  | a, g :: gs =>
    match f a g with
    | (a', .ok _) => eachGroup f a' gs
    | (a', .error fault) => (a', .error fault)

/-- The keyword of the parameters in one place. -/
def keywordOf : Place → String
  | .uri => Keyword.route
  | .query => Keyword.query
  | .body => Keyword.body

def addParameter (place : Place) (a : Assembly) (fields : List String) : Step :=
  let read := a.context.readParameter (place == .body) (keywordOf place) fields
  let a := a.advance read.context read.notices
  match read.outcome with
  | .ok p => a.change (·.addParameter place p)
  | .error fault => (a, .error fault)

def setResponse (a : Assembly) (lines : List String) : Step :=
  let read := a.context.readResponse lines
  let a := a.advance read.context read.notices
  match read.outcome with
  | .ok response => a.change (·.setResponse response)
  | .error fault => (a, .error fault)

def addExample (a : Assembly) (lines : List String) : Step :=
  let a := a.advance a.context ((Example.ignored lines).map .exampleLineIgnored)
  match Example.read lines with
  | .ok e => a.change (·.addExample e)
  | .error fault => (a, .error fault)

def setMethod (a : Assembly) (value : String) : Step :=
  match Endpoint.readMethod value with
  | .ok method => a.change ({ · with method := method })
  | .error fault => a.refuse fault

def setResource (a : Assembly) (value : String) : Step :=
  match Endpoint.readResource value with
  | .ok (resource, method) =>
    a.change fun r => { r with resource := resource, method := method.getD r.method }
  | .error fault => a.refuse fault

/-- Sets the description and the title, as far as they are not empty. -/
def setDescription (a : Assembly) (lines : List String) : Step :=
  let (text, title) := Description.read lines
  a.change fun r =>
    { r with
      name := title.getD r.name
      description := if text = "" then r.description else text }

def addStub (a : Assembly) (keyword : String) (value : TagValue) : Step :=
  let stub : Stub := ⟨keyword, value.toGroups.flatten⟩
  match a.context.category? keyword with
  | none => (a, .error .unknownTag)
  | some .trait => a.change fun r => { r with traits := r.traits.put keyword stub }
  | some .security => a.change fun r => { r with securities := r.securities.put keyword stub }
  | some .remark => a.change fun r => { r with annotations := r.annotations.put keyword stub }

def given {α : Type} (a : Assembly) (reading : Except FieldFault α) (f : α → Step) : Step :=
  match reading with
  | .ok x => f x
  | .error fault => a.refuse fault

def apply (a : Assembly) (keyword : String) (value : TagValue) : Step :=
  if keyword = Keyword.handler then (a, .ok ())
  else if keyword = Keyword.method then a.given value.single a.setMethod
  else if keyword = Keyword.resource then a.given value.single a.setResource
  else if keyword = Keyword.description then a.given value.lines a.setDescription
  else if keyword = Keyword.route then eachGroup (addParameter .uri) a value.toGroups
  else if keyword = Keyword.query then eachGroup (addParameter .query) a value.toGroups
  else if keyword = Keyword.body then eachGroup (addParameter .body) a value.toGroups
  else if keyword = Keyword.response then a.given value.lines a.setResponse
  else if keyword = Keyword.example' then eachGroup addExample a value.toGroups
  else a.addStub keyword value

/-- Applies a tag.  The faults of a plural carry its singular. -/
def addTag (a : Assembly) (keyword : String) (value : TagValue) :
    Assembly × Except TagError Unit :=
  match Keyword.singular? keyword with
  | some k =>
    let (a', outcome) := eachGroup (fun a g => a.apply k (.fields g)) a value.toGroups
    (a', outcome.mapError (TagError.mk k))
  | none =>
    let (a', outcome) := a.apply keyword value
    (a', outcome.mapError (TagError.mk keyword))

def label (a : Assembly) (source : String) : String :=
  let signature := Text.strip a.route.signature
  if source ≠ "" then source else if signature ≠ "" then signature else "unnamed route"

/-- Applies tags one after the other, and lists the errors of those that fail.  At a number with
more digits than are read it ends. -/
def addTags (source : String) :
    Assembly → List (String × TagValue) → Assembly × Except TagError (List TagError)
  | a, [] => (a, .ok [])
  | a, (keyword, value) :: tags =>
    match a.addTag keyword value with
    | (a', .ok _) => addTags source a' tags
    | (a', .error e) =>
      if e.fault = .overlongNumber then (a', .error e)
      else
        let a' := a'.advance a'.context [.tagSkipped e.message (a'.label source)]
        let (a'', es) := addTags source a' tags
        (a'', es.map (e :: ·))

end Assembly

/-- The tags of a block: its field groups, keyword by keyword. -/
def Block.tags (comment : String) : List (String × TagValue) :=
  (Block.parse comment).entries.flatMap fun e => e.2.map fun g => (e.1, TagValue.fields g)

/-- Puts a route together from given tags and a comment. -/
def Route.assemble (c : Context) (comment : String) (overrides : Dict String TagValue)
    (source : String) : Assembly × Except TagError (List TagError) :=
  Assembly.addTags source { context := c } (overrides.entries ++ Block.tags comment)

end RouteDoc
