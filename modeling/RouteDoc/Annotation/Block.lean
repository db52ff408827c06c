import RouteDoc.Dict
import RouteDoc.Text.Split
import RouteDoc.Text.Word

/-!
# Annotation blocks

A block is a comment that holds tags.  A tag starts a line with `@` and a keyword; the rest of the
line and the lines that continue it are its fields.

* `Line.read`: what one line of a block says, its comment marker and indentation left out.
* `Block.occurrences`: the tags of a block with their fields, in order.  The lines in front of the
  first tag are the fields of an implicit description.
* `Block.parse`: the field groups of every keyword.  Keywords keep the order in which they first
  occur, so the description comes first.
-/

namespace RouteDoc

namespace Keyword

def handler : String := "handler"
def method : String := "method"
def resource : String := "resource"
def description : String := "description"
def route : String := "route"
def query : String := "query"
def body : String := "body"
def response : String := "response"
def example' : String := "example"

/-- The keywords that pass several field groups at once, and the keyword of each group. -/
def plurals : List (String × String) :=
  [("routes", route), ("queries", query), ("examples", example')]

/-- The keyword of which the given one is the plural. -/
def singular? (keyword : String) : Option String := plurals.lookup keyword

end Keyword

/-- Splits the remainder of a tag line at its tabulators; blank fields are dropped. -/
def splitFields (line : List Char) : List (List Char) :=
  ((Chars.splitAt '\t' line).map Chars.strip).filter (· ≠ [])

inductive Line where
  /-- Opens or closes a comment and says nothing. -/
  | delimiter
  /-- Starts a tag. -/
  | tag (keyword : String) (fields : List String)
  /-- Any other text.  It is marked if a comment marker or an indentation stands before it. -/
  | text (marked : Bool) (content : String)
  deriving DecidableEq, Inhabited

namespace Line

/-- The lines that open or close a comment, trimmed. -/
def delimiters : List (List Char) :=
  ["/*".toList, "/**".toList, "*/".toList, "\"\"\"".toList, "'''".toList]

/-- The comment marker at the start of a text, and the text behind it: a run of slashes or number
signs, or an asterisk that closes no comment. -/
def cutMarker : List Char → Bool × List Char
  | '/' :: '/' :: r => (true, r.dropWhile (· == '/'))
  | '#' :: r => (true, r.dropWhile (· == '#'))
  | '*' :: '/' :: r => (false, '*' :: '/' :: r)
  | '*' :: r => (true, r)
  | s => (false, s)

/-- The keyword of a tag and the remainder of its line, if the text starts a tag. -/
def cutTag? : List Char → Option (List Char × List Char)
  | '@' :: r =>
    let keyword := r.takeWhile Chars.isWord
    match r.dropWhile Chars.isWord with
    | [] => if keyword = [] then none else some (keyword, [])
    | c :: rest =>
      if keyword ≠ [] ∧ Chars.isIndent c = true then
        some (keyword, (c :: rest).dropWhile Chars.isIndent)
      else none
  | _ => none

def read (line : List Char) : Line :=
  if Chars.strip line ∈ delimiters then .delimiter
  else
    let indented := line.head?.any Chars.isIndent
    let (marked, rest) := cutMarker (line.dropWhile Chars.isIndent)
    let content := Chars.strip rest
    match cutTag? content with
    | some (keyword, fields) =>
      .tag (String.ofList keyword) ((splitFields fields).map String.ofList)
    | none => .text (marked || indented) (String.ofList content)

end Line

namespace Block

def lines (text : String) : List Line := (Chars.splitLines text.toList).map Line.read

/-- The tags from here on, when `fields` were collected for `keyword` already.  A line continues a
tag if it is marked, and always continues a description. -/
def occurrencesFrom (keyword : String) (fields : List String) :
    List Line → List (String × List String)
  | [] => [(keyword, fields)]
  | .delimiter :: ls => occurrencesFrom keyword fields ls
  | .tag k fs :: ls => (keyword, fields) :: occurrencesFrom k fs ls
  | .text marked content :: ls =>
    if marked = true ∨ keyword = Keyword.description then
      occurrencesFrom keyword (fields ++ [content]) ls
    else occurrencesFrom keyword fields ls

def occurrences (text : String) : List (String × List String) :=
  occurrencesFrom Keyword.description [] (lines text)

def group (os : List (String × List String)) : Dict String (List (List String)) :=
  os.foldl (fun d o => d.put o.1 ((d.get? o.1).getD [] ++ [o.2])) ∅

def parse (text : String) : Dict String (List (List String)) := group (occurrences text)

end Block

end RouteDoc
