import RouteDoc.Annotation.Block
import RouteDoc.Annotation.TagValue
import RouteDoc.Datum
import RouteDoc.Notice
import RouteDoc.Source.Docstring

/-!
# Handlers and route definitions

* `Handler.read`: the annotation block of a handler: its docstring, or else the comment right above
  it.
* `RouteDefinition.read`: the annotation block and the tags of a route definition, which is a
  handler or a table of tags.
* `TagValue.ofDatum`: what a plain datum gives to a tag.
-/

namespace RouteDoc

/-- A function that handles the requests of a route: its docstring, and the lines right above it in
its source. -/
structure Handler where
  name : String
  doc : Option String := none
  comments : Option String := none
  deriving DecidableEq, Inhabited

namespace Handler

def sourceLines : List Char → List (List Char)
  | [] => []
  | '\r' :: '\n' :: r => [] :: sourceLines r
  | c :: r =>
    if c = '\n' ∨ c = '\r' then [] :: sourceLines r else Chars.consHead c (sourceLines r)

/-- Whether a line is a comment without indentation. -/
def isComment (line : List Char) : Bool := line.head? == some '#'

/-- Whether a line holds a comment marker and nothing else. -/
def isBare (line : List Char) : Bool := Chars.strip line == ['#']

/-- The run of comment lines at the end of the lines, without bare markers at its two ends. -/
def commentRun (lines : List (List Char)) : List (List Char) :=
  let run := (lines.reverse.takeWhile isComment).map Chars.expandTabs
  ((run.dropWhile isBare).reverse).dropWhile isBare

/-- A line without its comment marker.  The indentation behind the marker stays. -/
def stripMarker (line : List Char) : List Char :=
  let text := match line.dropWhile Chars.isBlank with
    | '#' :: r => r
    | _ => line
  Chars.dropEnd Chars.isBlank text

def stripMarkers (comments : List Char) : List Char :=
  Chars.trim (· == '\n') (Chars.joinWith ['\n'] ((Chars.splitLines comments).map stripMarker))

/-- The text of the comment right above a handler. -/
def commentText (comments : String) : String :=
  String.ofList (stripMarkers (Chars.joinWith ['\n'] (commentRun (sourceLines comments.toList))))

def read (h : Handler) : String × List Notice :=
  let doc := (h.doc.map Docstring.clean).getD ""
  let text := if doc ≠ "" then doc else (h.comments.map commentText).getD ""
  (text, if text = "" then [.handlerUndocumented h.name] else [])

end Handler

/-! ## Values given to tags -/

namespace TagValue

def texts? (ds : List Datum) : Option (List String) := ds.mapM Datum.text?

def group? : Datum → Option (List String)
  | .list ds => texts? ds
  | _ => none

/-- What a plain datum gives to a tag.  Truth is a tag without fields; falsity and absence are no
tag.  The outer option is missing for data that tags cannot be given. -/
def ofDatum : Datum → Option (Option TagValue)
  | .null => some none
  | .bool false => some none
  | .bool true => some (some (.fields []))
  | .text s => some (some (.text s))
  | .list ds =>
    match texts? ds with
    | some fs => some (some (.fields fs))
    | none => (ds.mapM group?).map fun gs => some (.groups gs)
  | _ => none

end TagValue

inductive Supplied where
  | datum (d : Datum)
  | value (v : TagValue)
  | handler (h : Handler)
  deriving Inhabited

/-- The value that a tag is given, if any; missing for what tags cannot be given. -/
def Supplied.tagValue? : Supplied → Option (Option TagValue)
  | .datum d => TagValue.ofDatum d
  | .value v => some (some v)
  | .handler _ => none

/-- The values of several tags, less those that are absent; missing if one tag cannot be given
what is there. -/
def Supplied.tagValues? (values : Dict String Supplied) : Option (Dict String TagValue) :=
  values.entries.foldlM (fun d e => do
    match ← e.2.tagValue? with
    | some v => return d.put e.1 v
    | none => return d) ∅

/-! ## Route definitions -/

inductive RouteDefinition where
  | function (h : Handler)
  /-- Tags with values; with a name for the sort of table. -/
  | table (label : String) (values : Dict String Supplied)
  /-- Something that defines no route. -/
  | unreadable
  deriving Inhabited

namespace RouteDefinition

def handler? (values : Dict String Supplied) : Option Handler :=
  match values.get? Keyword.handler with
  | some (.handler h) => some h
  | _ => none

/-- The annotation block of a route definition, its tags, and the notices about its handler. -/
def read : RouteDefinition → Option (String × Dict String Supplied × List Notice)
  | .function h => let (text, notices) := h.read; some (text, ∅, notices)
  | .table _ values =>
    let (text, notices) := ((handler? values).map Handler.read).getD ("", [])
    some (text, values.erase Keyword.handler, notices)
  | .unreadable => none

/-- What reports call a route definition. -/
def label : RouteDefinition → String
  | .function h => "app." ++ h.name
  | .table label _ => label
  | .unreadable => ""

end RouteDefinition

end RouteDoc
