import RouteDoc.Documentation
import RouteDoc.Tree

/-!
# Documents as trees

A document is a tree of mappings, lists and scalars.

* `Tree.ofDocument`: the tree of a document: its head, its types by name, and its resources.
* `Tree.ofNode`: the tree of a resource: its parameters, its methods in their fixed order, and the
  resources below it by name.
* `Settings.filename`: the name of the file that holds a document.
-/

namespace RouteDoc

namespace Tree

def ofEnumValue : EnumValue → Tree
  | .int n => .int n
  | .number x => .number x
  | .bool b => .bool b
  | .text s => .text s

/-! ## Types -/

/-- The key that stands for all keys that are numbers. -/
def numericKeys : String := "/^[0-9]+$/"

def anyKeys : String := "/^.*$/"

/-- The key that stands for all keys of a type. -/
def keyPattern (key : Descriptor) : String :=
  if key.kind = .scalar ∧ (key.name = "integer" ∨ key.name = "number") then numericKeys
  else anyKeys

/-- The fields of a type of objects, by name; a question mark follows those that may be missing. -/
def ofFields (fields : List StructField) : Dict String Tree :=
  Dict.ofList (fields.map fun f =>
    (f.name ++ if f.optional then "?" else "", .text f.type.name))

def ofDefinition : Definition → Tree
  | .primitive p => object
    ([("type", .text p.base)] ++ textEntry "description" p.description ++
      textEntry "pattern" (p.pattern.getD "") ++ optionEntry "minLength" .int p.minLength ++
      optionEntry "maxLength" .int p.maxLength)
  | .map m => object
    [("type", .text "object"),
     ("properties", object [(keyPattern m.key, .text m.value.name)]),
     ("additionalProperties", .bool true)]
  | .struct s => object
    [("type", .text "object"), ("properties", ofDict (ofFields s.fields))]

/-! ## Methods -/

def examplesOf : List String → List (String × Tree)
  | [] => []
  | [e] => [("example", .text e)]
  | es => [("examples", object (es.zipIdx.map fun (e, i) => (s!"example{i + 1}", .text e)))]

def ofParameter (p : Parameter) : Tree := object
  ([("type", .text p.type.name)] ++ textEntry "description" p.description ++
    (if p.required then [] else [("required", .bool false)]) ++
    (match p.allowed with
      | some (v :: vs) => [("enum", .list ((v :: vs).map ofEnumValue))]
      | _ => []) ++
    optionEntry "default" .text p.default ++ examplesOf p.examples)

def parametersEntry (key : String) (ps : Dict String Parameter) : List (String × Tree) :=
  if ps.isEmpty then [] else [(key, ofDict (ps.mapValues fun _ p => ofParameter p))]

def exampleDescription (e : Example) : String :=
  if e.uri = "" then e.description
  else
    let uri := "`" ++ e.uri ++ "`"
    if e.description = "" then uri else e.description ++ "\n" ++ uri

def ofExample (e : Example) (value : String) : Tree := object
  (textEntry "description" (exampleDescription e) ++
    [("value", .text value), ("strict", .bool false)])

def examplesEntry (es : List (String × Tree)) : List (String × Tree) :=
  if es = [] then [] else [("examples", object es)]

/-- The parameters of a body, by name; a question mark follows those that may be missing. -/
def ofProperties (ps : Dict String Parameter) : Dict String Tree :=
  Dict.ofList (ps.entries.map fun e =>
    (e.1 ++ if e.2.required then "" else "?", ofParameter e.2))

/-- The body of a request.  A single parameter is the body itself, several are its properties. -/
def ofBody (ps : Dict String Parameter) (es : List (String × Tree)) : Tree :=
  let type : List (String × Tree) := match ps.values with
    | [] => []
    | [p] => [("type", .text p.type.name)] ++ textEntry "description" p.description
    | _ => [("type", .text "object"), ("properties", ofDict (ofProperties ps))]
  object (type ++ examplesEntry es)

/-- A response with one status code: what the route declares for it, and its examples. -/
structure ResponsePart where
  description : String := ""
  /-- The type of the body, if a response with a body is declared. -/
  type : Option String := none
  examples : List (String × Tree) := []
  deriving Inhabited

def ResponsePart.ofResponse (r : Response) : ResponsePart where
  description := r.description
  type := if r.type.kind = .nil then none else some r.type.name

/-- Adds the example of a response body, if it is not empty. -/
def ResponsePart.addExample (part : ResponsePart) (name : String) (e : Example) : ResponsePart :=
  if e.response = "" then part
  else { part with examples := part.examples ++ [(name, ofExample e e.response)] }

def ResponsePart.toTree (part : ResponsePart) (mediaType : String) : Tree :=
  let body := optionEntry "type" .text part.type ++ examplesEntry part.examples
  object (textEntry "description" part.description ++
    if part.type.isNone ∧ part.examples = [] then []
    else [("body", object [(mediaType, object body)])])

def responseParts (r : Route) : Dict Nat ResponsePart :=
  let declared : Dict Nat ResponsePart := match r.response with
    | some response => (∅ : Dict Nat ResponsePart).put response.code (.ofResponse response)
    | none => ∅
  r.examples.entries.foldl (fun d e =>
    match e.2.code with
    | some code => d.put code (((d.get? code).getD {}).addExample e.1 e.2)
    | none => d) declared

def requestExamples (r : Route) : List (String × Tree) :=
  (r.examples.entries.filter fun e => e.2.body ≠ "").map fun e => (e.1, ofExample e.2 e.2.body)

def ofMethod (r : Route) (mediaType : String) : Tree :=
  let requests := requestExamples r
  let responses := (responseParts r).entries
  object
    (textEntry "displayName" r.name ++ textEntry "description" r.description ++
      parametersEntry "queryParameters" r.queryParameters ++
      (if r.bodyParameters.isEmpty ∧ requests = [] then []
        else [("body", object [(mediaType, ofBody r.bodyParameters requests)])]) ++
      (if responses = [] then []
        else [("responses", .map (responses.map fun e =>
          (.int (Int.ofNat e.1), e.2.toTree mediaType)))]))

/-! ## Resources -/

/-- The methods of a resource, in their fixed order. -/
def methodEntries (methods : Dict String Route) (mediaType : String) : List (String × Tree) :=
  Endpoint.methods.filterMap fun m => (methods.get? m).map fun r =>
    (String.ofList (m.toList.map Chars.asciiLower), ofMethod r mediaType)

/-- Entries in the order of their keys. -/
def sortEntries (es : List (String × Tree)) : List (String × Tree) :=
  es.mergeSort fun a b => decide (a.1 ≤ b.1)

mutual

def ofNode (mediaType : String) : ResourceNode → Tree
  | .node _ _ methods ps children => object
    (parametersEntry "uriParameters" ps ++ methodEntries methods mediaType ++
      sortEntries (ofNodes mediaType children))

def ofNodes (mediaType : String) : List ResourceNode → List (String × Tree)
  | [] => []
  | n :: ns => (n.key, ofNode mediaType n) :: ofNodes mediaType ns

end

def typesEntry (types : Dict String Definition) : List (String × Tree) :=
  if types.isEmpty then []
  else [("types", object (sortEntries (types.entries.map fun e => (e.1, ofDefinition e.2))))]

def ofDocument (d : Document) : Tree := object
  ([("title", .text d.settings.title)] ++ textEntry "description" d.settings.description ++
    [("version", .text d.settings.version), ("baseUri", .text d.settings.baseUri),
     ("mediaType", .text d.settings.mediaType)] ++ typesEntry d.types ++
    ofNodes d.settings.mediaType d.resources)

end Tree

/-! ## Files -/

namespace Settings

/-- The title in small letters and digits; a low line stands for each run of anything else between
them. -/
def slugFrom : Bool → List Char → List Char
  | _, [] => []
  | pending, c :: r =>
    if Chars.isAsciiLower c || Chars.isAsciiDigit c then
      if pending then '_' :: c :: slugFrom false r else c :: slugFrom false r
    else slugFrom true r

def slug (s : Settings) : String :=
  let text := (Chars.lowers s.title.toList).dropWhile fun c =>
    !(Chars.isAsciiLower c || Chars.isAsciiDigit c)
  let slug := slugFrom false text
  if slug = [] then "api" else String.ofList slug

def filename (s : Settings) : String := s!"{s.slug}_{s.version}.raml"

end Settings

end RouteDoc
